import VlanSwitch.Switch.Link

/-!
# VLANs agree along a chain of switches

A link between ports of equal mode keeps the VLAN of a frame
(`VlanSwitch.ingressVlan_egressFrame`). A chain of switches, each in a state of its own
(`VlanSwitch.Chain`), then keeps a frame in its VLAN from end to end, by induction on
the links (`VlanSwitch.Chain.holds`), and no content of the frame can get it out: an
inner tag is payload, and stays payload, since the one frame whose outer tag could be
confused with it is never written.
-/

namespace VlanSwitch

open Switch

/-- A switch on the way of a frame, the port the frame comes in on, and when. -/
structure Hop where
  switch : Switch
  port : PortId
  now : Instant

/-- A delivery of one hop is carried to the next: into a registered, unblocked port of
the same mode as the port it left. -/
def Hop.Cabled (hop : Hop) (d : Delivery) (hop' : Hop) : Prop :=
  ∃ entry entry', hop.switch.ports.lookup d.port = some entry ∧
    hop'.switch.ports.lookup hop'.port = some entry' ∧ entry'.blocked = false ∧
    entry'.mode = entry.mode

/-- A delivery carries a tag: the TPID follows the addresses. -/
def Delivery.Tagged (d : Delivery) : Prop := (d.bytes.drop 12).take 2 = tpid8021q.toBeBytes

/-- **A chain of switches**: the deliveries carried so far, the switch reached, and what
it reads off the last of them. The first switch is given a frame it puts in `vlan`. -/
inductive Chain (frame₀ : EthernetFrame) (vlan : Vlan) :
    List Delivery → Hop → Except ParseError EthernetFrame → Prop
  | start {hop : Hop} : BuiltReachable hop.switch →
    hop.switch.Resolves hop.port frame₀ vlan → Chain frame₀ vlan [] hop (.ok frame₀)
  | link {links : List Delivery} {hop hop' : Hop} {frame : EthernetFrame} {ds : List Delivery}
    {d : Delivery} : Chain frame₀ vlan links hop (.ok frame) →
    (hop.switch.forward hop.port frame hop.now).1 = .ok ds → d ∈ ds → hop.Cabled d hop' →
    BuiltReachable hop'.switch →
    Chain frame₀ vlan (links ++ [d]) hop' (EthernetFrame.parse d.bytes)

/-- Bytes that carry a tag are those of a tagged frame. -/
theorem isSome_tag_of_tagged {d : Delivery} {frame : EthernetFrame} (henc : frame.Encodable)
    (hbytes : d.bytes = frame.wireBytes) (h : d.Tagged) : frame.tag.isSome := by
  rcases htag : frame.tag with _ | tag
  · -- an untagged frame whose EtherType is the TPID is not written
    refine absurd ?_ (henc htag)
    obtain ⟨a, b, hab, hval⟩ := frame.ethertype.exists_toBeBytes
    obtain ⟨a', b', hab', hval'⟩ := tpid8021q.exists_toBeBytes
    have hdrop := EthernetFrame.drop_addresses frame.dst frame.src
      (frame.ethertype.toBeBytes ++ frame.payload) 0
    rw [Delivery.Tagged, hbytes, EthernetFrame.wireBytes, htag, EthernetFrame.tagBytes,
      List.nil_append, hdrop, hab, hab'] at h
    obtain ⟨rfl, hb⟩ := List.cons.inj h
    obtain ⟨rfl, -⟩ := List.cons.inj hb
    exact hval.symm.trans hval'
  · rfl

namespace Chain

variable {frame₀ : EthernetFrame} {vlan : Vlan} {links : List Delivery} {hop : Hop}
  {r : Except ParseError EthernetFrame}

/-- The switch a chain has reached is in a state its operations can reach. -/
theorem builtReachable (h : Chain frame₀ vlan links hop r) : BuiltReachable hop.switch := by
  cases h with
  | start hreach _ => exact hreach
  | link _ _ _ _ hreach => exact hreach

/-- What holds at every hop: a frame is read, of the VLAN and the content of the first,
and of its priority if it was tagged all the way. -/
structure Holds (frame₀ : EthernetFrame) (vlan : Vlan) (links : List Delivery) (hop : Hop)
    (frame : EthernetFrame) : Prop where
  resolves : hop.switch.Resolves hop.port frame vlan
  content : SameContent frame frame₀
  priority : ∀ tag₀, frame₀.tag = some tag₀ → (∀ d ∈ links, d.Tagged) →
    ∃ tag, frame.tag = some tag ∧ tag.pcp &&& 0b111 = tag₀.pcp &&& 0b111 ∧ tag.dei = tag₀.dei

/-- **A link keeps what holds.** -/
theorem Holds.link {hop' : Hop} {frame : EthernetFrame} {ds : List Delivery} {d : Delivery}
    (h : Holds frame₀ vlan links hop frame) (hreach : BuiltReachable hop.switch)
    (hds : (hop.switch.forward hop.port frame hop.now).1 = .ok ds) (hd : d ∈ ds)
    (hcabled : hop.Cabled d hop') :
    ∃ frame', EthernetFrame.parse d.bytes = .ok frame' ∧
      Holds frame₀ vlan (links ++ [d]) hop' frame' := by
  obtain ⟨entry, hentry, hcarries, henc, hbytes⟩ := hreach.exists_of_mem h.resolves hds hd
  obtain ⟨entry₁, entry', hentry₁, hentry', hup, hmode⟩ := hcabled
  obtain rfl : entry = entry₁ := Option.some.inj (hentry.symm.trans hentry₁)
  have hvlan : vlan < 4096 := (hreach.isAssignable h.resolves).lt
  have hparse : EthernetFrame.parse d.bytes = .ok (egressFrame entry.mode vlan frame).masked := by
    rw [hbytes]
    exact EthernetFrame.parse_wireBytes henc
  have hcontent : SameContent (egressFrame entry.mode vlan frame).masked frame₀ :=
    (sameContent_egressFrame entry.mode vlan frame).trans h.content
  refine ⟨_, hparse, ⟨?_, ?_, ?_⟩, hcontent, ?_⟩
  · rw [(sameContent_egressFrame entry.mode vlan frame).isAnyProbe_iff]
    exact h.resolves.1
  · rw [isBlocked, hentry']
    exact hup
  · have hin := ingressVlan_egressFrame hentry' hvlan (hmode ▸ hcarries) frame
    rwa [hmode] at hin
  · intro tag₀ htag₀ htagged
    obtain ⟨tag, htag, hpcp, hdei⟩ := h.priority tag₀ htag₀ fun e he =>
      htagged e (List.mem_append_left _ he)
    have hsome := isSome_tag_of_tagged henc hbytes (htagged d (by simp))
    rcases tag_egressFrame entry.mode hvlan frame with
      ⟨-, huntags⟩ | ⟨tag', htag', -, -, hpcp', hdei'⟩
    · -- a port that untags the VLAN cannot have written a tag
      have hnone : (egressFrame entry.mode vlan frame).tag = none := egressTag_eq_none.mpr huntags
      simp [hnone] at hsome
    · refine ⟨tag', htag', ?_, ?_⟩
      · rw [hpcp', htag, Option.map_some, Option.getD_some, Dot1qTag.pcp_and_and, hpcp]
      · rw [hdei', htag, Option.map_some, Option.getD_some, hdei]

/-- **It holds at every hop of a chain**, by induction on the links. -/
theorem holds (h : Chain frame₀ vlan links hop r) :
    ∃ frame, r = .ok frame ∧ Holds frame₀ vlan links hop frame := by
  induction h with
  | start _ hr =>
    exact ⟨frame₀, rfl, hr, ⟨rfl, rfl, rfl, rfl⟩, fun tag₀ htag₀ _ => ⟨tag₀, htag₀, rfl, rfl⟩⟩
  | link hchain hds hd hcabled _ ih =>
    obtain ⟨frame, hframe, hholds⟩ := ih
    obtain rfl := Except.ok.inj hframe
    exact hholds.link hchain.builtReachable hds hd hcabled

end Chain

/-- **End-to-end VLAN agreement.** Along a chain of switches of any length, each in any
state that built modes can reach, every reading succeeds, no hop takes the frame for a
probe or rejects it, and every hop puts it in the VLAN the first one put it in, with
the addresses, EtherType and payload it started with. A frame that started with a tag
keeps its priority bits while every link carries a tag. What is finally delivered on
an access port is of that VLAN, and is the frame without its tag. -/
theorem chain_vlan_agreement {frame₀ : EthernetFrame} {vlan : Vlan} {links : List Delivery}
    {hop : Hop} {r : Except ParseError EthernetFrame} (h : Chain frame₀ vlan links hop r) :
    ∃ frame, r = .ok frame ∧ ¬LoopGuard.isAnyProbe frame ∧
      (∃ ds, (hop.switch.forward hop.port frame hop.now).1 = .ok ds) ∧
      hop.switch.ingressVlan hop.port frame = .ok vlan ∧
      (frame.dst = frame₀.dst ∧ frame.src = frame₀.src ∧ frame.ethertype = frame₀.ethertype ∧
        frame.payload = frame₀.payload) ∧
      (∀ tag₀, frame₀.tag = some tag₀ → (∀ d ∈ links, d.Tagged) →
        ∃ tag, frame.tag = some tag ∧ tag.pcp &&& 0b111 = tag₀.pcp &&& 0b111 ∧
          tag.dei = tag₀.dei) ∧
      ∀ ds, (hop.switch.forward hop.port frame hop.now).1 = .ok ds → ∀ d ∈ ds, ∀ w,
        hop.switch.portMode d.port = some (.access w) →
        w = vlan ∧
          ({ frame₀ with tag := none } : EthernetFrame).writeInto [] = (.ok (), d.bytes) := by
  obtain ⟨frame, rfl, hholds⟩ := h.holds
  obtain ⟨hprobe, hok, hvlan⟩ := (resolves_iff_forward hop.now).mp hholds.resolves
  have hcontent := hholds.content
  refine ⟨frame, rfl, hprobe, hok, hvlan,
    ⟨hcontent.dst, hcontent.src, hcontent.ethertype, hcontent.payload⟩, hholds.priority, ?_⟩
  intro ds hds d hd w hmode
  obtain ⟨entry, hentry, hcarries, henc, hbytes⟩ :=
    h.builtReachable.exists_of_mem hholds.resolves hds hd
  have haccess : entry.mode = .access w := by
    rw [portMode, hentry] at hmode
    exact Option.some.inj hmode
  rw [haccess] at hcarries henc hbytes
  have heq : egressFrame (.access w) vlan frame = { frame₀ with tag := none } :=
    hcontent.untagged_eq
  rw [heq] at henc hbytes
  refine ⟨hcarries, ?_⟩
  rw [EthernetFrame.writeInto_of_encodable henc, List.nil_append, hbytes]

/-- From an access port over a trunk to the next switch, in VLAN 10 all the way. -/
theorem chain_vlan_agreement_trunk :
    (machine.run (withProbeId 8) [.addPort ⟨5⟩ (.trunk none {10, 20})]).ingressVlan ⟨5⟩
      { hostFrame 1 9 with tag := some ⟨0, false, 10⟩ } = .ok 10 := by
  have htrunk : (PortMode.trunk none {10, 20}).Built := Or.inr ⟨.sorted, none, [10, 20], by decide⟩
  have hfirst : BuiltReachable (machine.run (withProbeId 7)
      [.addPort ⟨1⟩ (.access 10), .addPort ⟨2⟩ (.trunk none {10, 20})]) := by
    refine ⟨7, _, fun op hop => ?_, rfl⟩
    rcases List.mem_cons.mp hop with rfl | hop
    · exact Or.inl ⟨10, rfl⟩
    · rw [List.mem_singleton.mp hop]
      exact htrunk
  have hnext : BuiltReachable
      (machine.run (withProbeId 8) [.addPort ⟨5⟩ (.trunk none {10, 20})]) := by
    refine ⟨8, _, fun op hop => ?_, rfl⟩
    rw [List.mem_singleton.mp hop]
    exact htrunk
  have hstart : Chain (hostFrame 1 9) 10 [] ⟨_, ⟨1⟩, 0⟩ (.ok (hostFrame 1 9)) :=
    Chain.start hfirst (by decide)
  have hchain : Chain (hostFrame 1 9) 10 _ ⟨_, ⟨5⟩, 0⟩ (EthernetFrame.parse
      ({ hostFrame 1 9 with tag := some ⟨0, false, 10⟩ } : EthernetFrame).wireBytes) :=
    Chain.link (d := ⟨⟨2⟩, ({ hostFrame 1 9 with tag := some ⟨0, false, 10⟩ } :
      EthernetFrame).wireBytes⟩) hstart rfl (by decide) ⟨_, _, rfl, rfl, rfl, rfl⟩ hnext
  obtain ⟨frame, hframe, -, -, hvlan, -⟩ := chain_vlan_agreement hchain
  have hread : EthernetFrame.parse ({ hostFrame 1 9 with tag := some ⟨0, false, 10⟩ } :
      EthernetFrame).wireBytes = .ok { hostFrame 1 9 with tag := some ⟨0, false, 10⟩ } := by decide
  obtain rfl := Except.ok.inj (hread.symm.trans hframe)
  exact hvlan

end VlanSwitch
