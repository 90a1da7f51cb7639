import VlanSwitch.Switch.Decision

/-!
# What a port puts on the wire, and what the next one reads

How a port writes the VLAN of a frame (`VlanSwitch.egressFrame`) and how a port reads
it (`VlanSwitch.Switch.ingressVlan`) are two functions that know nothing of each
other. What a port writes is what its mode promises: the frame it was given, without a
tag on the ports that untag the VLAN and with a tag of that VLAN on the others
(`VlanSwitch.egress_promise`). On ports of equal mode the two functions are inverse
(`VlanSwitch.ingressVlan_egressFrame`): what one port wrote for a VLAN it carries, the
other reads as a frame of that VLAN, with the same addresses, EtherType and payload.
-/

namespace VlanSwitch

open Switch

/-- Two frames are the same but for their tags. -/
structure SameContent (f g : EthernetFrame) : Prop where
  dst : f.dst = g.dst
  src : f.src = g.src
  ethertype : f.ethertype = g.ethertype
  payload : f.payload = g.payload

/-- What a link carries is read as what was written, but for the tag. -/
theorem sameContent_egressFrame (mode : PortMode) (vlan : Vlan) (frame : EthernetFrame) :
    SameContent (egressFrame mode vlan frame).masked frame := ⟨rfl, rfl, rfl, rfl⟩

theorem SameContent.trans {f g h : EthernetFrame} (hfg : SameContent f g)
    (hgh : SameContent g h) : SameContent f h :=
  ⟨hfg.dst.trans hgh.dst, hfg.src.trans hgh.src, hfg.ethertype.trans hgh.ethertype,
    hfg.payload.trans hgh.payload⟩

/-- Without their tags they are equal. -/
theorem SameContent.untagged_eq {f g : EthernetFrame} (h : SameContent f g) :
    { f with tag := none } = { g with tag := none } := by
  rw [h.dst, h.src, h.ethertype, h.payload]

/-- The recognizers of probes look at the content only. -/
theorem SameContent.isAnyProbe_iff {f g : EthernetFrame} (h : SameContent f g) :
    LoopGuard.isAnyProbe f ↔ LoopGuard.isAnyProbe g := by
  rw [LoopGuard.isAnyProbe, LoopGuard.isAnyProbe, h.ethertype, h.payload]

/-- The tag a link carries: none on the ports that untag the VLAN, and else the VLAN,
with the priority bits the frame came with. -/
theorem tag_egressFrame (mode : PortMode) {vlan : Vlan} (hvlan : vlan < 4096)
    (frame : EthernetFrame) :
    (egressFrame mode vlan frame).masked.tag = none ∧ mode.untags vlan ∨
      ∃ tag, (egressFrame mode vlan frame).masked.tag = some tag ∧ ¬mode.untags vlan ∧
        tag.vid = vlan ∧ tag.pcp = (frame.tag.map fun t => t.pcp).getD 0 &&& 0b111 ∧
        tag.dei = (frame.tag.map fun t => t.dei).getD false := by
  by_cases huntags : mode.untags vlan
  · refine Or.inl ⟨?_, huntags⟩
    exact congrArg (Option.map Dot1qTag.masked) (egressTag_eq_none.mpr huntags)
  · rcases mode with w | ⟨native, allowed⟩
    · exact absurd trivial huntags
    · have hnative : native ≠ some vlan := huntags
      have htag : egressTag (.trunk native allowed) vlan frame = some
          { pcp := (frame.tag.map fun t => t.pcp).getD 0
            dei := (frame.tag.map fun t => t.dei).getD false
            vid := vlan } := if_neg hnative
      exact Or.inr ⟨_, congrArg (Option.map Dot1qTag.masked) htag, huntags,
        Dot1qTag.vid_and_of_lt hvlan, rfl, rfl⟩

/-- **A port reads what a port of the same mode wrote.** -/
theorem ingressVlan_egressFrame {s : Switch} {port : PortId} {entry : PortEntry}
    (hentry : s.ports.lookup port = some entry) {vlan : Vlan} (hvlan : vlan < 4096)
    (hcarries : entry.mode.carries vlan) (frame : EthernetFrame) :
    s.ingressVlan port (egressFrame entry.mode vlan frame).masked = .ok vlan := by
  obtain ⟨mode, blocked⟩ := entry
  rw [ingressVlan, hentry]
  dsimp only at hcarries ⊢
  rcases tag_egressFrame mode hvlan frame with ⟨htag, huntags⟩ | ⟨tag, htag, huntags, hvid, -⟩
  -- the ports that leave the tag out are those that take untagged frames for the VLAN
  · rw [htag]
    rcases mode with w | ⟨native, allowed⟩
    · exact congrArg Except.ok hcarries
    · obtain rfl : native = some vlan := huntags
      rfl
  · rw [htag]
    rcases mode with w | ⟨native, allowed⟩
    · exact absurd trivial huntags
    · dsimp only
      rw [hvid]
      exact if_pos hcarries

/-- **A delivery and the frame it was made from**: it leaves a port that carries the
VLAN, with the bytes of the frame as that port writes it. -/
theorem BuiltReachable.exists_of_mem {s : Switch} (h : BuiltReachable s) {ingress : PortId}
    {frame : EthernetFrame} {now : Instant} {vlan : Vlan} {ds : List Delivery} {d : Delivery}
    (hr : s.Resolves ingress frame vlan) (hds : (s.forward ingress frame now).1 = .ok ds)
    (hd : d ∈ ds) :
    ∃ entry, s.ports.lookup d.port = some entry ∧ entry.mode.carries vlan ∧
      (egressFrame entry.mode vlan frame).Encodable ∧
      d.bytes = (egressFrame entry.mode vlan frame).wireBytes := by
  obtain ⟨w, hr', rfl⟩ := exists_resolves_of_mem hds hd
  obtain rfl := hr.unique hr'
  obtain ⟨hport, hencode⟩ := mem_deliveries.mp hd
  obtain ⟨entry, hentry, -, henc, hbytes⟩ := encodeForEgress_eq_some.mp hencode
  obtain ⟨⟨entry', hentry', -, hcarries⟩, -⟩ :=
    h.reachable.mem_members_of_mem_egressPorts hr now hport
  obtain rfl : entry = entry' := Option.some.inj (hentry.symm.trans hentry')
  exact ⟨entry, hentry, hcarries, henc, congrArg Delivery.bytes hbytes⟩

/-- **What a link carries can be read**, as the frame the port wrote. -/
theorem BuiltReachable.parse_of_mem {s : Switch} (h : BuiltReachable s) {ingress : PortId}
    {frame : EthernetFrame} {now : Instant} {vlan : Vlan} {ds : List Delivery} {d : Delivery}
    (hr : s.Resolves ingress frame vlan) (hds : (s.forward ingress frame now).1 = .ok ds)
    (hd : d ∈ ds) :
    ∃ entry, s.ports.lookup d.port = some entry ∧
      EthernetFrame.parse d.bytes = .ok (egressFrame entry.mode vlan frame).masked := by
  obtain ⟨entry, hentry, -, henc, hbytes⟩ := h.exists_of_mem hr hds hd
  refine ⟨entry, hentry, ?_⟩
  rw [hbytes]
  exact EthernetFrame.parse_wireBytes henc

/-- The ports that untag a VLAN are the access ports, and the trunks whose native VLAN
it is. -/
theorem untags_iff {mode : PortMode} {vlan : Vlan} :
    mode.untags vlan ↔
      (∃ w, mode = .access w) ∨ ∃ allowed, mode = .trunk (some vlan) allowed := by
  rcases mode with w | ⟨native, allowed⟩
  · exact ⟨fun _ => Or.inl ⟨w, rfl⟩, fun _ => trivial⟩
  · constructor
    · rintro rfl
      exact Or.inr ⟨allowed, rfl⟩
    · rintro (⟨w, hw⟩ | ⟨allowed', hallowed⟩)
      · cases hw
      · exact (PortMode.trunk.inj hallowed).1

/-- **What a port puts on the wire is what its mode promises.** A delivery of an ordinary
frame that was accepted in `vlan` can be read, with the addresses, EtherType and
payload of the frame, whatever they are. It has no tag exactly if its port is an access
port or a trunk whose native VLAN is `vlan`; and if it has one, the tag is of `vlan`,
with the priority bits the frame came with. -/
theorem egress_promise {s : Switch} (h : BuiltReachable s) {ingress : PortId}
    {frame : EthernetFrame} (hprobe : ¬LoopGuard.isAnyProbe frame) {vlan : Vlan}
    (hvlan : s.ingressVlan ingress frame = .ok vlan) {now : Instant} {ds : List Delivery}
    (hds : (s.forward ingress frame now).1 = .ok ds) {d : Delivery} (hd : d ∈ ds) :
    ∃ entry frame', s.ports.lookup d.port = some entry ∧
      EthernetFrame.parse d.bytes = .ok frame' ∧
      (frame'.dst = frame.dst ∧ frame'.src = frame.src ∧ frame'.ethertype = frame.ethertype ∧
        frame'.payload = frame.payload) ∧
      (frame'.tag = none ↔
        (∃ w, entry.mode = .access w) ∨ ∃ allowed, entry.mode = .trunk (some vlan) allowed) ∧
      ∀ tag, frame'.tag = some tag → tag.vid = vlan ∧
        tag.pcp = (frame.tag.map fun t => t.pcp).getD 0 &&& 0b111 ∧
        tag.dei = (frame.tag.map fun t => t.dei).getD false := by
  have hr : s.Resolves ingress frame vlan :=
    (resolves_iff_forward now).mpr ⟨hprobe, ⟨ds, hds⟩, hvlan⟩
  obtain ⟨entry, hentry, hparse⟩ := h.parse_of_mem hr hds hd
  have hcontent := sameContent_egressFrame entry.mode vlan frame
  refine ⟨entry, _, hentry, hparse,
    ⟨hcontent.dst, hcontent.src, hcontent.ethertype, hcontent.payload⟩, ?_⟩
  rw [← untags_iff]
  rcases tag_egressFrame entry.mode (h.isAssignable hr).lt frame with
    ⟨htag, huntags⟩ | ⟨tag, htag, huntags, hvid, hpcp, hdei⟩
  · rw [htag]
    exact ⟨iff_of_true rfl huntags, fun tag hnone => absurd hnone (by simp)⟩
  · rw [htag]
    refine ⟨iff_of_false (Option.some_ne_none tag) huntags, fun tag' htag' => ?_⟩
    obtain rfl := Option.some.inj htag'
    exact ⟨hvid, hpcp, hdei⟩

/-- A double-tagged frame on its way out of a trunk keeps its inner tag as payload. -/
theorem egress_promise_doubleTagged :
    ∃ frame', EthernetFrame.parse
        ({ hostFrame 1 9 with tag := some ⟨3, true, 20⟩, ethertype := 0x8100 } :
          EthernetFrame).wireBytes = .ok frame' ∧
      frame'.ethertype = 0x8100 ∧ frame'.payload = (hostFrame 1 9).payload := by
  have hbuilt : BuiltReachable (machine.run (withProbeId 7)
      [.addPort ⟨1⟩ (.trunk none {20}), .addPort ⟨2⟩ (.trunk (some 10) {20})]) := by
    refine ⟨7, _, fun op hop => ?_, rfl⟩
    rcases List.mem_cons.mp hop with rfl | hop
    · exact Or.inr ⟨.sorted, none, [20], by decide⟩
    · rw [List.mem_singleton.mp hop]
      exact Or.inr ⟨.sorted, some 10, [20], by decide⟩
  obtain ⟨_, frame', -, hparse, ⟨-, -, htype, hpayload⟩, -⟩ := @egress_promise _ hbuilt ⟨1⟩
    { hostFrame 1 9 with tag := some ⟨3, true, 20⟩, ethertype := 0x8100 } (by decide) 20
    (by decide) 0 _ rfl ⟨⟨2⟩, ({ hostFrame 1 9 with
      tag := some ⟨3, true, 20⟩, ethertype := 0x8100 } : EthernetFrame).wireBytes⟩ (by decide)
  exact ⟨frame', hparse, htype, hpayload⟩

end VlanSwitch
