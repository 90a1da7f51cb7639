import VlanSwitch.Switch.Run

/-!
# What leaves a port

A delivery is the frame it was made from, with the tag its port's mode asks for
(`VlanSwitch.egressFrame`). The encoder gives up on a port in three cases; on a
registered, unblocked one only the ambiguous frame is left, untagged with the TPID as
its EtherType (`VlanSwitch.Switch.encodeForEgress_eq_some`).
-/

namespace VlanSwitch

/-- The frame as a port of `mode` puts it on the wire for `vlan`. -/
def egressFrame (mode : PortMode) (vlan : Vlan) (frame : EthernetFrame) : EthernetFrame :=
  { frame with tag := Switch.egressTag mode vlan frame }

/-- A frame leaves without a tag exactly on the ports that untag its VLAN. -/
theorem egressTag_eq_none {mode : PortMode} {vlan : Vlan} {frame : EthernetFrame} :
    Switch.egressTag mode vlan frame = none ↔ mode.untags vlan := by
  cases mode with
  | access v => exact ⟨fun _ => trivial, fun _ => rfl⟩
  | trunk native allowed =>
    rw [Switch.egressTag, PortMode.untags]
    split
    · next h => exact ⟨fun _ => h, fun _ => rfl⟩
    · next h => exact ⟨fun hc => (by cases hc), fun hc => absurd hc h⟩

/-- The frames a port cannot put on the wire are those it would have to send untagged
with the TPID as their EtherType. -/
theorem encodable_egressFrame {mode : PortMode} {vlan : Vlan} {frame : EthernetFrame} :
    (egressFrame mode vlan frame).Encodable ↔
      ¬(frame.ethertype = tpid8021q ∧ mode.untags vlan) := by
  change (Switch.egressTag mode vlan frame = none → frame.ethertype ≠ tpid8021q) ↔ _
  rw [egressTag_eq_none]
  tauto

namespace Switch

/-- **What the encoder returns**: nothing for a port that is not registered or is
blocked, nor for a frame the port cannot put on the wire. -/
theorem encodeForEgress_eq_some {s : Switch} {port : PortId} {vlan : Vlan}
    {frame : EthernetFrame} {d : Delivery} :
    s.encodeForEgress port vlan frame = some d ↔
      ∃ entry, s.ports.lookup port = some entry ∧ entry.blocked = false ∧
        (egressFrame entry.mode vlan frame).Encodable ∧
        d = ⟨port, (egressFrame entry.mode vlan frame).wireBytes⟩ := by
  rw [encodeForEgress]
  cases hport : s.ports.lookup port with
  | none => simp
  | some entry =>
    cases hblocked : entry.blocked with
    | true => simp [hblocked]
    | false =>
      have hframe : ({ frame with tag := egressTag entry.mode vlan frame } : EthernetFrame) =
          egressFrame entry.mode vlan frame := rfl
      simp only [Bool.false_eq_true, if_false, Option.some.injEq, exists_eq_left', hblocked,
        true_and, hframe]
      by_cases henc : (egressFrame entry.mode vlan frame).Encodable
      · rw [EthernetFrame.writeInto_of_encodable henc]
        simp [henc, eq_comm]
      · rw [EthernetFrame.writeInto_of_not_encodable henc]
        simp [henc]

theorem port_of_encodeForEgress {s : Switch} {port : PortId} {vlan : Vlan}
    {frame : EthernetFrame} {d : Delivery} (h : s.encodeForEgress port vlan frame = some d) :
    d.port = port := by
  obtain ⟨entry, -, -, -, rfl⟩ := encodeForEgress_eq_some.mp h
  rfl

/-- **The deliveries are the encodings of the egress ports.** -/
theorem mem_deliveries {s : Switch} {ingress : PortId} {vlan : Vlan} {frame : EthernetFrame}
    {now : Instant} {d : Delivery} :
    d ∈ s.deliveries ingress vlan frame now ↔
      d.port ∈ (s.letIn ingress vlan frame now).egressPorts ingress vlan frame ∧
        s.encodeForEgress d.port vlan frame = some d := by
  rw [deliveries, List.mem_filterMap]
  constructor
  · rintro ⟨port, hport, hd⟩
    obtain rfl := port_of_encodeForEgress hd
    exact ⟨hport, hd⟩
  · rintro ⟨hport, hd⟩
    exact ⟨d.port, hport, hd⟩

/-- Whether frames of `vlan` leave `port` without a tag. -/
def untagsOn (s : Switch) (vlan : Vlan) (port : PortId) : Bool :=
  (s.ports.lookup port).any fun entry => entry.mode.untags vlan

/-- **On a port that is up the encoder refuses one kind of frame only.** -/
theorem isSome_encodeForEgress {s : Switch} {port : PortId} {vlan : Vlan}
    {frame : EthernetFrame} {entry : PortEntry} (hentry : s.ports.lookup port = some entry)
    (hup : entry.blocked = false) :
    (s.encodeForEgress port vlan frame).isSome ↔
      ¬(frame.ethertype = tpid8021q ∧ s.untagsOn vlan port = true) := by
  have huntags : s.untagsOn vlan port = true ↔ entry.mode.untags vlan := by
    simp [untagsOn, hentry]
  rw [huntags, ← @encodable_egressFrame _ _ frame, Option.isSome_iff_exists]
  constructor
  · rintro ⟨d, hd⟩
    obtain ⟨entry', hentry', -, henc, -⟩ := encodeForEgress_eq_some.mp hd
    obtain rfl : entry = entry' := Option.some.inj (hentry.symm.trans hentry')
    exact henc
  · exact fun henc => ⟨_, encodeForEgress_eq_some.mpr ⟨entry, hentry, hup, henc, rfl⟩⟩

/-- The ports of the deliveries are those of the targets the encoder accepts. -/
theorem map_port_filterMap (s : Switch) (vlan : Vlan) (frame : EthernetFrame)
    (targets : List PortId) :
    (targets.filterMap fun port => s.encodeForEgress port vlan frame).map Delivery.port =
      targets.filter fun port => (s.encodeForEgress port vlan frame).isSome := by
  induction targets with
  | nil => rfl
  | cons port targets ih =>
    rcases hd : s.encodeForEgress port vlan frame with _ | d
    · simp [hd, ih]
    · simp [hd, ih, port_of_encodeForEgress hd]

/-- No port is an egress port twice. -/
theorem nodup_egressPorts (s : Switch) (ingress : PortId) (vlan : Vlan) (frame : EthernetFrame) :
    (s.egressPorts ingress vlan frame).Nodup := by
  have hflood : (s.floodTargets vlan ingress).Nodup := Finset.nodup_sortedList _
  rw [egressPorts]
  split
  · exact hflood
  · split
    · split
      · exact List.nodup_nil
      · exact List.nodup_singleton _
    · exact hflood

/-- **A port gets at most one copy of a frame.** -/
theorem nodup_port_deliveries (s : Switch) (ingress : PortId) (vlan : Vlan) (frame : EthernetFrame)
    (now : Instant) : ((s.deliveries ingress vlan frame now).map Delivery.port).Nodup := by
  rw [deliveries, map_port_filterMap]
  exact (nodup_egressPorts _ ingress vlan frame).filter _

/-- **Only accepted frames are sent on**, in their VLAN. -/
theorem exists_resolves_of_mem {s : Switch} {ingress : PortId} {frame : EthernetFrame}
    {now : Instant} {ds : List Delivery} {d : Delivery}
    (h : (s.forward ingress frame now).1 = .ok ds) (hd : d ∈ ds) :
    ∃ vlan, s.Resolves ingress frame vlan ∧ ds = s.deliveries ingress vlan frame now := by
  rw [forward_eq] at h
  cases hv : s.verdict ingress frame with
  | accepted vlan =>
    rw [hv] at h
    exact ⟨vlan, verdict_eq_accepted.mp hv, (Except.ok.inj h).symm⟩
  | unknown => simp [hv] at h
  | rejected e => simp [hv] at h
  | ownProbe =>
    simp only [hv, Except.ok.injEq] at h
    exact absurd (h ▸ hd) List.not_mem_nil
  | foreignProbe =>
    simp only [hv, Except.ok.injEq] at h
    exact absurd (h ▸ hd) List.not_mem_nil

/-- **What is sent leaves through ports that are up.** -/
theorem up_of_mem {s : Switch} {ingress : PortId} {frame : EthernetFrame} {now : Instant}
    {ds : List Delivery} {d : Delivery} (h : (s.forward ingress frame now).1 = .ok ds)
    (hd : d ∈ ds) : s.Up d.port := by
  obtain ⟨vlan, -, rfl⟩ := exists_resolves_of_mem h hd
  obtain ⟨entry, hentry, hup, -⟩ := encodeForEgress_eq_some.mp (mem_deliveries.mp hd).2
  exact ⟨entry, hentry, hup⟩

/-- The deliveries of a call are of different ports. -/
theorem nodup_port_of_forward {s : Switch} {ingress : PortId} {frame : EthernetFrame}
    {now : Instant} {ds : List Delivery} (hds : (s.forward ingress frame now).1 = .ok ds) :
    (ds.map Delivery.port).Nodup := by
  rcases ds with _ | ⟨d, ds⟩
  · exact List.nodup_nil
  · obtain ⟨vlan, -, hds'⟩ := exists_resolves_of_mem hds List.mem_cons_self
    rw [hds']
    exact s.nodup_port_deliveries ingress vlan frame now

end Switch

end VlanSwitch
