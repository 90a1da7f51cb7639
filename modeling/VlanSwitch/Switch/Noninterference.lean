import VlanSwitch.Lib.Unwinding
import VlanSwitch.Switch.Counting
import VlanSwitch.Switch.Egress

/-!
# VLANs do not interfere

One switch serves many VLANs with one port table, one learned table and one set of
counters per port. Still, frames of one VLAN leave no trace in another: fix a VLAN
`v` and delete from a run every frame that was turned away or belonged to another
VLAN; what the remaining calls return, and what the switch ends up holding for `v`,
is the same (`VlanSwitch.vlan_noninterference`).

The unwinding relation is `VlanSwitch.AgreeOn`: the same ports, the same entries of
`v` in the learned table, the same counters of `v`. Loop-guard probes are seen by
every VLAN, since they change the port table all share.
-/

namespace VlanSwitch

open Switch

/-- Whether `vlan` sees an operation: everything but the ordinary frames that are not
its own. -/
def sees (vlan : Vlan) (s : Switch) : Op → Bool
  | .forward ingress frame _ => LoopGuard.isAnyProbe frame ∨ s.Resolves ingress frame vlan
  | _ => true

/-- What is compared of the outputs: what `forward` returned. -/
def forwardResult (_ : Op) : Out → Option ForwardResult
  | .forwarded r => some r
  | _ => none

/-- **Two switches agree on a VLAN**: they have the same ports and probe id, and hold
the same entries and counters of it. -/
structure AgreeOn (vlan : Vlan) (s t : Switch) : Prop where
  ports : s.ports = t.ports
  probeId : s.probeId = t.probeId
  table : ∀ mac, s.macTable.entries.lookup (vlan, mac) = t.macTable.entries.lookup (vlan, mac)
  counter : s.vlanCounter vlan = t.vlanCounter vlan

namespace AgreeOn

variable {vlan : Vlan} {s t : Switch}

theorem refl (vlan : Vlan) (s : Switch) : AgreeOn vlan s s := ⟨rfl, rfl, fun _ => rfl, rfl⟩

theorem symm (h : AgreeOn vlan s t) : AgreeOn vlan t s :=
  ⟨h.ports.symm, h.probeId.symm, fun mac => (h.table mac).symm, h.counter.symm⟩

theorem trans {u : Switch} (h : AgreeOn vlan s t) (h' : AgreeOn vlan t u) : AgreeOn vlan s u :=
  ⟨h.ports.trans h'.ports, h.probeId.trans h'.probeId,
    fun mac => (h.table mac).trans (h'.table mac), h.counter.trans h'.counter⟩

theorem verdict (h : AgreeOn vlan s t) (ingress : PortId) (frame : EthernetFrame) :
    s.verdict ingress frame = t.verdict ingress frame :=
  verdict_congr h.ports h.probeId ingress frame

theorem sees (h : AgreeOn vlan s t) (op : Op) : sees vlan s op = sees vlan t op := by
  cases op with
  | forward ingress frame now =>
    have hr : s.Resolves ingress frame vlan ↔ t.Resolves ingress frame vlan := by
      rw [← verdict_eq_accepted, ← verdict_eq_accepted, h.verdict]
    simp only [VlanSwitch.sees, hr]
  | _ => rfl

/-- Forgetting what was learned on a port keeps the agreement. -/
theorem removePort_table (h : AgreeOn vlan s t) (port : PortId) (mac : Mac) :
    (s.macTable.removePort port).entries.lookup (vlan, mac) =
      (t.macTable.removePort port).entries.lookup (vlan, mac) := by
  rw [MacTable.lookup_entries_removePort, MacTable.lookup_entries_removePort, h.table]

theorem blockPort (h : AgreeOn vlan s t) (port : PortId) :
    AgreeOn vlan (s.blockPort port) (t.blockPort port) :=
  ⟨congrArg (Finmap.getMut port _) h.ports, h.probeId, h.removePort_table port, h.counter⟩

/-- **Switches that agree on a VLAN send its frames on alike.** -/
theorem deliveries (h : AgreeOn vlan s t) (ingress : PortId) (frame : EthernetFrame)
    (now : Instant) :
    s.deliveries ingress vlan frame now = t.deliveries ingress vlan frame now := by
  have hlookup : (s.letIn ingress vlan frame now).macTable.lookup vlan frame.dst =
      (t.letIn ingress vlan frame now).macTable.lookup vlan frame.dst := by
    rw [macTable_letIn, macTable_letIn]
    split
    · rw [MacTable.lookup, MacTable.lookup, h.table]
    · rw [MacTable.lookup, MacTable.lookup, MacTable.lookup_entries_learn,
        MacTable.lookup_entries_learn, h.table]
  have hports :
      (s.letIn ingress vlan frame now).ports = (t.letIn ingress vlan frame now).ports := by
    rw [ports_letIn, ports_letIn, h.ports]
  have htargets : (s.letIn ingress vlan frame now).egressPorts ingress vlan frame =
      (t.letIn ingress vlan frame now).egressPorts ingress vlan frame := by
    rw [egressPorts, egressPorts, hlookup, floodTargets_congr hports]
  rw [Switch.deliveries, Switch.deliveries, htargets]
  exact congrArg (fun f => List.filterMap f _)
    (funext fun port => encodeForEgress_congr h.ports port vlan frame)

theorem accept (h : AgreeOn vlan s t) (ingress : PortId) (frame : EthernetFrame)
    (now : Instant) :
    AgreeOn vlan (s.accept ingress vlan frame now) (t.accept ingress vlan frame now) := by
  refine ⟨?_, ?_, ?_, ?_⟩
  · rw [ports_accept, ports_accept, h.ports]
  · rw [probeId_accept, probeId_accept, h.probeId]
  · intro mac
    rw [macTable_accept, macTable_accept]
    split
    · exact h.table mac
    · rw [MacTable.lookup_entries_learn, MacTable.lookup_entries_learn, h.table]
  · rw [vlanCounter_accept, vlanCounter_accept, if_pos rfl, if_pos rfl, h.counter,
      h.deliveries]

/-- A frame of another VLAN leaves the agreement alone. -/
theorem accept_ne {w : Vlan} (hw : w ≠ vlan) (s : Switch) (ingress : PortId)
    (frame : EthernetFrame) (now : Instant) : AgreeOn vlan (s.accept ingress w frame now) s := by
  refine ⟨ports_accept .., probeId_accept .., fun mac => ?_, ?_⟩
  · rw [macTable_accept]
    split
    · rfl
    · rw [MacTable.lookup_entries_learn, if_neg fun hc => hw (congrArg Prod.fst hc).symm]
  · rw [vlanCounter_accept, if_neg hw.symm]

/-- An operation the VLAN does not see leaves the agreement alone. -/
theorem hidden {op : Op} (h : VlanSwitch.sees vlan s op = false) :
    AgreeOn vlan (machine.next s op) s := by
  cases op with
  | forward ingress frame now =>
    simp only [VlanSwitch.sees, decide_eq_false_iff_not, not_or] at h
    change AgreeOn vlan (s.forward ingress frame now).2 s
    rw [forward_eq]
    -- a rejected frame counts for its port, an accepted one for its own VLAN
    rcases hv : s.verdict ingress frame with _ | _ | _ | e | w
    · exact refl vlan s
    · exact absurd (verdict_eq_ownProbe.mp hv).2.isAnyProbe h.1
    · exact refl vlan s
    · exact ⟨rfl, rfl, fun _ => rfl, rfl⟩
    · refine accept_ne ?_ s ingress frame now
      rintro rfl
      exact h.2 (verdict_eq_accepted.mp hv)
  | _ => cases h

/-- **An operation the VLAN sees keeps the agreement**, and returns alike. -/
theorem next (h : AgreeOn vlan s t) {op : Op} (hsees : VlanSwitch.sees vlan s op = true) :
    forwardResult op (machine.out s op) = forwardResult op (machine.out t op) ∧
      AgreeOn vlan (machine.next s op) (machine.next t op) := by
  cases op with
  | addPort port mode =>
    exact ⟨rfl, congrArg (Finmap.insert port _) h.ports, h.probeId, h.removePort_table port,
      h.counter⟩
  | removePort port =>
    exact ⟨rfl, congrArg (Finmap.erase port) h.ports, h.probeId, h.removePort_table port,
      h.counter⟩
  | blockPort port => exact ⟨rfl, h.blockPort port⟩
  | unblockPort port =>
    exact ⟨rfl, congrArg (Finmap.getMut port _) h.ports, h.probeId, h.table, h.counter⟩
  | ageOut maxAge now =>
    refine ⟨rfl, h.ports, h.probeId, fun mac => ?_, h.counter⟩
    change (s.macTable.evictOlderThan maxAge now).2.entries.lookup (vlan, mac) =
      (t.macTable.evictOlderThan maxAge now).2.entries.lookup (vlan, mac)
    rw [MacTable.lookup_entries_evictOlderThan, MacTable.lookup_entries_evictOlderThan, h.table]
  | forward ingress frame now =>
    change some (s.forward ingress frame now).1 = some (t.forward ingress frame now).1 ∧
      AgreeOn vlan (s.forward ingress frame now).2 (t.forward ingress frame now).2
    rw [forward_eq, forward_eq, ← h.verdict]
    rcases hv : s.verdict ingress frame with _ | _ | _ | e | w
    · exact ⟨rfl, h⟩
    · exact ⟨rfl, h.blockPort ingress⟩
    · exact ⟨rfl, h⟩
    · refine ⟨rfl, h.ports, h.probeId, h.table, h.counter⟩
    · -- a frame that is seen and accepted is of the VLAN
      obtain rfl : vlan = w := by
        rcases of_decide_eq_true hsees with hprobe | hr
        · exact absurd hprobe (verdict_eq_accepted.mp hv).1
        · exact hr.unique (verdict_eq_accepted.mp hv)
      exact ⟨congrArg (fun ds => some (Except.ok ds)) (h.deliveries ingress frame now),
        h.accept ingress frame now⟩

/-- **Agreement on a VLAN is an unwinding relation** for what the VLAN sees. -/
theorem unwinding (vlan : Vlan) :
    Machine.Unwinding machine (VlanSwitch.sees vlan) forwardResult (AgreeOn vlan) where
  equiv := ⟨refl vlan, symm, trans⟩
  sees_congr op h := h.sees op
  hidden := hidden
  view_congr h hsees := (h.next hsees).1
  next_congr h hsees := (h.next hsees).2

end AgreeOn

/-- **Noninterference between VLANs.** Two runs from a state, reachable or not, that
become equal once every ordinary frame is deleted that was turned away or belonged to
a VLAN other than `vlan`: the remaining calls return the same results, and the two
switches end with the same ports, modes and blocked flags, and the same entries and
counters of `vlan`. -/
theorem vlan_noninterference (vlan : Vlan) (s : Switch) {ops ops' : List Op}
    (hpurge : machine.purge (sees vlan) s ops = machine.purge (sees vlan) s ops') :
    machine.seen (sees vlan) forwardResult s ops =
        machine.seen (sees vlan) forwardResult s ops' ∧
      (machine.run s ops).ports = (machine.run s ops').ports ∧
      (∀ mac, (machine.run s ops).macTable.entries.lookup (vlan, mac) =
        (machine.run s ops').macTable.entries.lookup (vlan, mac)) ∧
      (machine.run s ops).vlanCounter vlan = (machine.run s ops').vlanCounter vlan := by
  obtain ⟨hseen, hagree⟩ :=
    (AgreeOn.unwinding vlan).noninterference (AgreeOn.refl vlan s) hpurge
  exact ⟨hseen, hagree.ports, hagree.table, hagree.counter⟩

/-- A frame of VLAN 20, from an address that VLAN 10 uses too, is not noticed there. -/
theorem vlan_noninterference_foreign :
    (machine.run (withProbeId 7) [.addPort ⟨1⟩ (.access 10), .addPort ⟨2⟩ (.access 20),
      .forward ⟨2⟩ (hostFrame 1 9) 0, .forward ⟨1⟩ (hostFrame 1 9) 1]).ports =
    (machine.run (withProbeId 7) [.addPort ⟨1⟩ (.access 10), .addPort ⟨2⟩ (.access 20),
      .forward ⟨1⟩ (hostFrame 1 9) 1]).ports :=
  (@vlan_noninterference 10 (withProbeId 7)
    [.addPort ⟨1⟩ (.access 10), .addPort ⟨2⟩ (.access 20), .forward ⟨2⟩ (hostFrame 1 9) 0,
      .forward ⟨1⟩ (hostFrame 1 9) 1]
    [.addPort ⟨1⟩ (.access 10), .addPort ⟨2⟩ (.access 20), .forward ⟨1⟩ (hostFrame 1 9) 1]
    (by decide)).2.1

end VlanSwitch
