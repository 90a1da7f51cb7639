import VlanSwitch.Switch.Bridge
import VlanSwitch.Switch.Egress

/-!
# The forwarding decision of a reachable switch

Two statements about `VlanSwitch.Switch.forward` in any state a run can reach, both
resting on the soundness of the learned routes
(`VlanSwitch.Reachable.bridge_sound`):

* *isolation* (`VlanSwitch.vlan_isolation`) – whatever was done to the switch before,
  a frame of a VLAN leaves only through ports that are up and carry that VLAN, the
  learned path included, which never asks;
* *exactness* (`VlanSwitch.forward_reference`) – the frame goes to all of the segment,
  to one learned port or nowhere, as a bridge would decide, and none of the targets is
  lost, except those the encoder has to refuse.
-/

namespace VlanSwitch

namespace Switch

/-- Letting a frame in and sending it on leave the same bridge. -/
theorem bridge_letIn (s : Switch) (ingress : PortId) (vlan : Vlan) (frame : EthernetFrame)
    (now : Instant) :
    (s.letIn ingress vlan frame now).bridge = (s.accept ingress vlan frame now).bridge :=
  bridge_congr ((ports_letIn ..).trans (ports_accept ..).symm)
    ((macTable_letIn ..).trans (macTable_accept ..).symm)

end Switch

open Switch

section

variable {s : Switch} {ingress : PortId} {frame : EthernetFrame} {vlan : Vlan}

/-- The state after an accepted frame is reachable. -/
theorem Reachable.accept (h : Reachable s) (hr : s.Resolves ingress frame vlan)
    (now : Instant) : Reachable (s.accept ingress vlan frame now) := by
  have hnext := h.next (.forward ingress frame now)
  change Reachable (s.forward ingress frame now).2 at hnext
  rwa [forward_of_resolves hr now] at hnext

/-- **An egress port of a reachable switch would have been flooded to as well**: it is
up, it carries the VLAN, and it is not the port the frame came in on. -/
theorem Reachable.mem_members_of_mem_egressPorts (h : Reachable s)
    (hr : s.Resolves ingress frame vlan) (now : Instant) {port : PortId}
    (hport : port ∈ (s.letIn ingress vlan frame now).egressPorts ingress vlan frame) :
    port ∈ s.bridge.members vlan \ {ingress} := by
  have hreach := h.accept hr now
  have hsound := hreach.bridge_sound
  have hconfined := hreach.bridge_confined
  rw [← bridge_letIn] at hsound hconfined
  have hmem := hsound.targets_subset vlan ingress frame.dst ((mem_egressPorts hconfined).mp hport)
  simpa [bridge] using hmem

end

/-- **VLAN isolation.** Whatever operations led to the state, a delivery of a frame
that resolved to `vlan` goes to a port that is registered, is not blocked, carries
`vlan` and is not the ingress port: one that flooding would have reached. -/
theorem vlan_isolation (probeId : UInt64) (ops : List Op) {s : Switch}
    (hs : s = machine.run (withProbeId probeId) ops) {ingress : PortId} {frame : EthernetFrame}
    {now : Instant} {vlan : Vlan} {ds : List Delivery}
    (hvlan : s.ingressVlan ingress frame = .ok vlan)
    (hds : (s.forward ingress frame now).1 = .ok ds) {d : Delivery} (hd : d ∈ ds) :
    (∃ entry, s.ports.lookup d.port = some entry ∧ entry.blocked = false ∧
      entry.mode.carries vlan) ∧
      d.port ≠ ingress ∧ d.port ∈ s.floodTargets vlan ingress := by
  have hreach : Reachable s := ⟨probeId, ops, hs⟩
  obtain ⟨w, hr, rfl⟩ := exists_resolves_of_mem hds hd
  obtain rfl : vlan = w := Except.ok.inj (hvlan.symm.trans hr.2.2)
  have hmem := hreach.mem_members_of_mem_egressPorts hr now (mem_deliveries.mp hd).1
  exact ⟨hmem.1, hmem.2, mem_floodTargets.mpr hmem⟩

/-- A host that was learned is reached through its own port, inside its VLAN. -/
theorem vlan_isolation_learned :
    (⟨2⟩ : PortId) ≠ ⟨1⟩ ∧ (⟨2⟩ : PortId) ∈ (machine.run (withProbeId 7)
      [.addPort ⟨1⟩ (.access 10), .addPort ⟨2⟩ (.access 10), .addPort ⟨3⟩ (.access 20),
        .forward ⟨2⟩ (hostFrame 2 1) 0]).floodTargets 10 ⟨1⟩ :=
  (@vlan_isolation 7
    [.addPort ⟨1⟩ (.access 10), .addPort ⟨2⟩ (.access 10), .addPort ⟨3⟩ (.access 20),
      .forward ⟨2⟩ (hostFrame 2 1) 0] _ rfl ⟨1⟩ (hostFrame 1 2) 0 10
    [⟨⟨2⟩, (hostFrame 1 2).wireBytes⟩] (by decide) (by decide)
    ⟨⟨2⟩, (hostFrame 1 2).wireBytes⟩ (by decide)).2

/-! ### The reference decision -/

section

variable {s : Switch} {ingress : PortId} {frame : EthernetFrame} {vlan : Vlan}

/-- A group address is in no reachable table. -/
theorem Reachable.lookup_of_isGroupAddress (h : Reachable s) (vlan : Vlan) {mac : Mac}
    (hmac : isGroupAddress mac) : s.macTable.lookup vlan mac = none := by
  rcases hp : s.macTable.lookup vlan mac with _ | port
  · rfl
  · exact absurd hmac (h.bridge_confined vlan mac port hp)

theorem egressPorts_of_lookup_eq_none (h : s.macTable.lookup vlan frame.dst = none) :
    s.egressPorts ingress vlan frame = s.floodTargets vlan ingress := by
  rw [egressPorts, h]
  exact ite_self _

theorem egressPorts_of_lookup_eq_some {port : PortId} (hdst : ¬isGroupAddress frame.dst)
    (h : s.macTable.lookup vlan frame.dst = some port) :
    s.egressPorts ingress vlan frame = if port = ingress then [] else [port] := by
  have hne : frame.dst ≠ broadcast := fun hc => by
    rw [hc] at hdst
    exact hdst (by decide)
  rw [egressPorts, if_neg hne, h]

end

/-- **Forwarding is the reference decision.** Let `T` be the table after the source of
an accepted frame was learned. The frame goes to its whole segment when its
destination is a group address or has no entry in `T`, nowhere when it was learned on
the ingress port, and to the port it was learned on otherwise; and the deliveries are
those targets, in that order, each once, but for the untagging ports when the
EtherType is the TPID. -/
theorem forward_reference {s : Switch} (h : Reachable s) {ingress : PortId}
    {frame : EthernetFrame} {vlan : Vlan} (hr : s.Resolves ingress frame vlan) (now : Instant)
    {T : MacTable} (hT : T = if isGroupAddress frame.src then s.macTable
      else s.macTable.learn vlan frame.src ingress now) :
    ∃ (targets : List PortId) (ds : List Delivery),
      ((isGroupAddress frame.dst ∨ T.lookup vlan frame.dst = none) →
        targets.Pairwise (· < ·) ∧ ∀ port, port ∈ targets ↔ port ≠ ingress ∧
          ∃ entry, s.ports.lookup port = some entry ∧ entry.blocked = false ∧
            entry.mode.carries vlan) ∧
      (T.lookup vlan frame.dst = some ingress → targets = []) ∧
      (∀ port, port ≠ ingress → T.lookup vlan frame.dst = some port → targets = [port]) ∧
      (s.forward ingress frame now).1 = .ok ds ∧
      ds.map Delivery.port =
        targets.filter (fun port => ¬(frame.ethertype = tpid8021q ∧ s.untagsOn vlan port)) ∧
      (∀ d ∈ ds, s.encodeForEgress d.port vlan frame = some d) ∧
      (frame.ethertype ≠ tpid8021q →
        ∀ port ∈ targets, (s.encodeForEgress port vlan frame).isSome) := by
  have htable : (s.letIn ingress vlan frame now).macTable = T :=
    (macTable_letIn ..).trans hT.symm
  -- multicast is flooded because it is in no table, not because it is asked about
  have hgroup : isGroupAddress frame.dst → T.lookup vlan frame.dst = none := fun hdst => by
    have hlookup := (h.accept hr now).lookup_of_isGroupAddress vlan hdst
    rwa [macTable_accept, ← hT] at hlookup
  have hnotgroup : ∀ port, T.lookup vlan frame.dst = some port → ¬isGroupAddress frame.dst :=
    fun port hport hdst => absurd (hport.symm.trans (hgroup hdst)) (Option.some_ne_none port)
  have hencode : ∀ port ∈ (s.letIn ingress vlan frame now).egressPorts ingress vlan frame,
      ((s.encodeForEgress port vlan frame).isSome ↔
        ¬(frame.ethertype = tpid8021q ∧ s.untagsOn vlan port = true)) := fun port hport => by
    obtain ⟨⟨entry, hentry, hup, -⟩, -⟩ := h.mem_members_of_mem_egressPorts hr now hport
    exact isSome_encodeForEgress hentry hup
  refine ⟨(s.letIn ingress vlan frame now).egressPorts ingress vlan frame,
    s.deliveries ingress vlan frame now, ?_, ?_, ?_, ?_, ?_, ?_, ?_⟩
  · intro hflood
    have hnone : (s.letIn ingress vlan frame now).macTable.lookup vlan frame.dst = none :=
      htable.symm ▸ hflood.elim hgroup id
    rw [egressPorts_of_lookup_eq_none hnone, floodTargets_congr (ports_letIn ..)]
    refine ⟨Finset.pairwise_lt_sortedList _, fun port => ?_⟩
    rw [mem_floodTargets]
    exact and_comm
  · intro hin
    rw [egressPorts_of_lookup_eq_some (hnotgroup ingress hin) (htable.symm ▸ hin), if_pos rfl]
  · intro port hne hport
    rw [egressPorts_of_lookup_eq_some (hnotgroup port hport) (htable.symm ▸ hport), if_neg hne]
  · rw [forward_of_resolves hr]
  · rw [deliveries, map_port_filterMap]
    refine List.filter_congr fun port hport => ?_
    rw [Bool.eq_iff_iff, hencode port hport, decide_eq_true_iff]
  · intro d hd
    exact (mem_deliveries.mp hd).2
  · intro htype port hport
    exact (hencode port hport).mpr fun hc => htype hc.1

/-- An unknown destination is flooded: port 2 gets the frame, port 3 of the other VLAN
does not. -/
theorem forward_reference_flood :
    ∃ (targets : List PortId) (ds : List Delivery),
      (∀ port, port ∈ targets → port ≠ ⟨1⟩) ∧ ds.map Delivery.port = targets ∧
      ((machine.run (withProbeId 7) [.addPort ⟨1⟩ (.access 10), .addPort ⟨2⟩ (.access 10),
        .addPort ⟨3⟩ (.access 20)]).forward ⟨1⟩ (hostFrame 1 2) 0).1 = .ok ds := by
  obtain ⟨targets, ds, hflood, -, -, hds, hmap, -, -⟩ :=
    @forward_reference (machine.run (withProbeId 7) [.addPort ⟨1⟩ (.access 10),
      .addPort ⟨2⟩ (.access 10), .addPort ⟨3⟩ (.access 20)]) ⟨7, _, rfl⟩ ⟨1⟩ (hostFrame 1 2) 10
      (by decide) 0 _ rfl
  have hports := (hflood (Or.inr (by decide))).2
  have htype : (hostFrame 1 2).ethertype ≠ tpid8021q := by decide
  refine ⟨targets, ds, fun port hport => ((hports port).mp hport).1, ?_, hds⟩
  rw [hmap]
  exact List.filter_eq_self.mpr fun port _ => decide_eq_true fun hc => htype hc.1

end VlanSwitch
