import VlanSwitch.Lib.LearningBridge
import VlanSwitch.Switch.Run

/-!
# The switch is a learning bridge

`VlanSwitch.Switch.bridge` reads a switch as the abstract device of
`LearningBridge`: a segment is a VLAN, its members are the registered, unblocked
ports whose mode carries it, and a route is an entry of the learned table, its age
forgotten. Every operation of the switch is then a step of the bridge, or none
(`VlanSwitch.Switch.bridge_next`), so the routes of every reachable switch are sound
and lead to unicast addresses only (`VlanSwitch.Reachable.bridge_sound`,
`VlanSwitch.Reachable.bridge_confined`); and the egress ports the code computes
are the targets of the abstract decision (`VlanSwitch.Switch.mem_egressPorts`).
-/

namespace VlanSwitch

namespace Switch

/-- The addresses of single hosts. -/
def unicast : Set Mac := {mac | ¬isGroupAddress mac}

/-- **The switch as a learning bridge.** -/
def bridge (s : Switch) : LearningBridge PortId Vlan Mac where
  members vlan := {port | ∃ entry, s.ports.lookup port = some entry ∧ entry.blocked = false ∧
    entry.mode.carries vlan}
  routes vlan mac := s.macTable.lookup vlan mac

theorem mem_members {s : Switch} {vlan : Vlan} {port : PortId} :
    port ∈ s.bridge.members vlan ↔ ∃ entry, s.ports.lookup port = some entry ∧
      entry.blocked = false ∧ entry.mode.carries vlan :=
  Iff.rfl

/-- The bridge of a switch is its port table and its learned table. -/
theorem bridge_congr {s t : Switch} (hports : s.ports = t.ports)
    (htable : s.macTable = t.macTable) : s.bridge = t.bridge := by
  rw [bridge, bridge, hports, htable]

/-! ### The decision -/

theorem mem_floodTargets {s : Switch} {vlan : Vlan} {exclude port : PortId} :
    port ∈ s.floodTargets vlan exclude ↔ port ∈ s.bridge.members vlan \ {exclude} := by
  rw [floodTargets, Finset.mem_sortedList, Finset.mem_filter, Finmap.mem_keys, Finmap.mem_iff,
    Set.mem_sdiff, Set.mem_singleton_iff, mem_members]
  constructor
  · rintro ⟨⟨entry, hentry⟩, hne, hany⟩
    rw [hentry] at hany
    have hup : entry.blocked = false ∧ entry.mode.carries vlan := by simpa using hany
    exact ⟨⟨entry, hentry, hup⟩, hne⟩
  · rintro ⟨⟨entry, hentry, hup⟩, hne⟩
    exact ⟨⟨entry, hentry⟩, hne, by rw [hentry]; simpa using hup⟩

/-- **The egress ports of the code are the targets of the bridge**: the broadcast
address has no route, so asking for it first changes nothing. -/
theorem mem_egressPorts {s : Switch} (h : s.bridge.Confined unicast) {ingress port : PortId}
    {vlan : Vlan} {frame : EthernetFrame} :
    port ∈ s.egressPorts ingress vlan frame ↔
      port ∈ s.bridge.targets vlan ingress frame.dst := by
  rw [egressPorts]
  split
  · next hdst =>
    -- the code does not look up the broadcast address: no table holds it
    have hgroup : isGroupAddress broadcast := by decide
    rw [hdst, h.targets_eq vlan ingress (not_not.mpr hgroup), mem_floodTargets]
  · cases hroute : s.macTable.lookup vlan frame.dst with
    | none =>
      have htargets : s.bridge.targets vlan ingress frame.dst =
          s.bridge.members vlan \ {ingress} := by
        simp only [LearningBridge.targets, show s.bridge.routes vlan frame.dst = none from hroute]
      rw [htargets]
      exact mem_floodTargets
    | some egress =>
      have htargets : s.bridge.targets vlan ingress frame.dst = {egress} \ {ingress} := by
        simp only [LearningBridge.targets,
          show s.bridge.routes vlan frame.dst = some egress from hroute]
      rw [htargets, Set.mem_sdiff, Set.mem_singleton_iff, Set.mem_singleton_iff]
      dsimp only
      split
      · next hin =>
        exact ⟨fun hp => absurd hp List.not_mem_nil, fun hp => absurd (hp.1.trans hin) hp.2⟩
      · next hin =>
        rw [List.mem_singleton]
        exact ⟨fun hp => ⟨hp, hp ▸ hin⟩, fun hp => hp.1⟩

/-! ### The steps -/

/-- The routes left after what was learned on a port is forgotten. -/
theorem lookup_removePort (t : MacTable) (port : PortId) (vlan : Vlan) (mac : Mac) :
    (t.removePort port).lookup vlan mac = (t.lookup vlan mac).filter fun p => p ≠ port := by
  rw [MacTable.lookup, MacTable.lookup, MacTable.lookup_entries_removePort]
  cases t.entries.lookup (vlan, mac) with
  | none => rfl
  | some e => by_cases h : e.port = port <;> simp [Option.filter, h]

theorem bridge_addPort (s : Switch) (port : PortId) (mode : PortMode) :
    (s.addPort port mode).bridge =
      (s.bridge.forget fun _ _ p => p ≠ port).assign port {vlan | mode.carries vlan} := by
  refine LearningBridge.ext ?_ ?_
  · funext vlan
    ext q
    rw [mem_members, lookup_ports_addPort]
    by_cases hq : q = port
    · simp [hq, LearningBridge.assign]
    · simp [hq, LearningBridge.assign, LearningBridge.forget, bridge]
  · funext vlan mac
    simp [bridge, LearningBridge.assign, LearningBridge.forget, addPort, lookup_removePort]

theorem bridge_removePort (s : Switch) (port : PortId) :
    (s.removePort port).bridge = (s.bridge.forget fun _ _ p => p ≠ port).assign port ∅ := by
  refine LearningBridge.ext ?_ ?_
  · funext vlan
    ext q
    rw [mem_members, lookup_ports_removePort]
    by_cases hq : q = port
    · simp [hq, LearningBridge.assign]
    · simp [hq, LearningBridge.assign, LearningBridge.forget, bridge]
  · funext vlan mac
    simp [bridge, LearningBridge.assign, LearningBridge.forget, removePort, lookup_removePort]

theorem bridge_blockPort (s : Switch) (port : PortId) :
    (s.blockPort port).bridge = (s.bridge.forget fun _ _ p => p ≠ port).assign port ∅ := by
  refine LearningBridge.ext ?_ ?_
  · funext vlan
    ext q
    rw [mem_members, lookup_ports_blockPort]
    by_cases hq : q = port
    · cases h : s.ports.lookup port <;> simp [hq, LearningBridge.assign]
    · simp [hq, LearningBridge.assign, LearningBridge.forget, bridge]
  · funext vlan mac
    simp [bridge, LearningBridge.assign, LearningBridge.forget, blockPort, lookup_removePort]

theorem bridge_unblockPort (s : Switch) (port : PortId) :
    (s.unblockPort port).bridge = s.bridge.assign port
      {vlan | ∃ entry, s.ports.lookup port = some entry ∧ entry.mode.carries vlan} := by
  refine LearningBridge.ext ?_ rfl
  funext vlan
  ext q
  rw [mem_members, lookup_ports_unblockPort]
  by_cases hq : q = port
  · cases h : s.ports.lookup port <;> simp [hq, LearningBridge.assign]
  · simp [hq, LearningBridge.assign, bridge]

theorem bridge_ageOut (s : Switch) (maxAge : Duration) (now : Instant) :
    (s.ageOut maxAge now).2.bridge = s.bridge.forget fun vlan mac _ =>
      ∃ e, s.macTable.entries.lookup (vlan, mac) = some e ∧
        saturatingDurationSince now e.lastSeen < maxAge := by
  refine LearningBridge.ext rfl ?_
  funext vlan mac
  have hout : (s.ageOut maxAge now).2.macTable = (s.macTable.evictOlderThan maxAge now).2 := rfl
  simp only [bridge, LearningBridge.forget, hout, MacTable.lookup,
    MacTable.lookup_entries_evictOlderThan]
  refine Option.ext fun p => ?_
  simp only [Option.map_eq_some_iff, Option.filter_eq_some_iff, decide_eq_true_eq]
  constructor
  · rintro ⟨e, ⟨he, hage⟩, rfl⟩
    exact ⟨⟨e, he, rfl⟩, e, he, hage⟩
  · rintro ⟨⟨e, he, rfl⟩, e', he', hage⟩
    obtain rfl : e = e' := Option.some.inj (he.symm.trans he')
    exact ⟨e, ⟨he, hage⟩, rfl⟩

theorem bridge_accept_of_unicast (s : Switch) (ingress : PortId) (vlan : Vlan)
    (frame : EthernetFrame) (now : Instant) (h : ¬isGroupAddress frame.src) :
    (s.accept ingress vlan frame now).bridge = s.bridge.learn vlan frame.src ingress := by
  have htable := s.macTable_accept ingress vlan frame now
  rw [if_neg h] at htable
  rw [bridge, ports_accept, htable]
  refine LearningBridge.ext rfl ?_
  funext w mac
  simp only [MacTable.lookup, MacTable.lookup_entries_learn, Prod.mk.injEq, LearningBridge.learn,
    bridge]
  by_cases hkey : w = vlan ∧ mac = frame.src
  · rw [if_pos hkey, if_pos hkey]
    rfl
  · rw [if_neg hkey, if_neg hkey]

/-- **Every operation is a step of the bridge, or leaves it as it was.** -/
theorem bridge_next (s : Switch) (op : Op) :
    (machine.next s op).bridge = s.bridge ∨
      LearningBridge.Step unicast s.bridge (machine.next s op).bridge := by
  cases op with
  | addPort port mode =>
    exact Or.inr ((s.bridge_addPort port mode).symm ▸ LearningBridge.Step.reassign port _)
  | removePort port =>
    exact Or.inr ((s.bridge_removePort port).symm ▸ LearningBridge.Step.reassign port _)
  | blockPort port =>
    exact Or.inr ((s.bridge_blockPort port).symm ▸ LearningBridge.Step.reassign port _)
  | unblockPort port =>
    -- the port regains the segments of its mode, all it had among them
    refine Or.inr ((s.bridge_unblockPort port).symm ▸ LearningBridge.Step.join fun vlan h => ?_)
    obtain ⟨entry, hentry, -, hcarries⟩ := mem_members.mp h
    exact ⟨entry, hentry, hcarries⟩
  | ageOut maxAge now =>
    exact Or.inr ((s.bridge_ageOut maxAge now).symm ▸ LearningBridge.Step.forget _)
  | forward ingress frame now =>
    change (s.forward ingress frame now).2.bridge = s.bridge ∨
      LearningBridge.Step unicast s.bridge (s.forward ingress frame now).2.bridge
    rw [forward_eq]
    cases hv : s.verdict ingress frame with
    | unknown => exact Or.inl rfl
    | foreignProbe => exact Or.inl rfl
    -- a drop is counted, and the bridge does not see the counters
    | rejected e => exact Or.inl (bridge_congr rfl rfl)
    | ownProbe =>
      exact Or.inr ((s.bridge_blockPort ingress).symm ▸ LearningBridge.Step.reassign ingress _)
    | accepted vlan =>
      dsimp only
      by_cases hsrc : isGroupAddress frame.src
      · refine Or.inl (bridge_congr (ports_accept ..) ?_)
        rw [macTable_accept, if_pos hsrc]
      · rw [bridge_accept_of_unicast s ingress vlan frame now hsrc]
        exact Or.inr (LearningBridge.Step.learn
          (verdict_eq_accepted.mp hv).exists_entry hsrc)

end Switch

/-- **The learned routes of a reachable switch are sound.** -/
theorem Reachable.bridge_sound {s : Switch} (h : Reachable s) : s.bridge.Sound := by
  refine h.induct (I := fun s => s.bridge.Sound) (fun probeId => ?_) fun s op ih => ?_
  · intro vlan mac port hport
    cases hport
  · rcases s.bridge_next op with heq | hstep
    · rw [heq]
      exact ih
    · exact ih.step hstep

/-- **A reachable switch has learned unicast addresses only.** -/
theorem Reachable.bridge_confined {s : Switch} (h : Reachable s) :
    s.bridge.Confined Switch.unicast := by
  refine h.induct (I := fun s => s.bridge.Confined Switch.unicast) (fun probeId => ?_)
    fun s op ih => ?_
  · intro vlan mac port hport
    cases hport
  · rcases s.bridge_next op with heq | hstep
    · rw [heq]
      exact ih
    · exact ih.step hstep

end VlanSwitch
