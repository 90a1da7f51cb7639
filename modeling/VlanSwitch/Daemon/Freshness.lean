import VlanSwitch.Daemon.Stale
import VlanSwitch.Switch.Decision
import VlanSwitch.Switch.Learning

/-!
# Routes are fresh

An entry of the learned table is not checked for its age when it is used, only when a sweep
comes by, so how old a route can be depends on the sweeps. In the loop it can be as old as
the longest time an entry may live and the time since the last sweep together, and not
older: the entries at any moment were learned from frames of the run, each younger than
that age at every sweep since (`VlanSwitch.Daemon.entry_of_run`). So a frame goes out of
one port alone only if the address it is for has sent a frame there in the same VLAN not
longer ago than that, and otherwise it is flooded (`VlanSwitch.fresh_or_flooded`).
-/

namespace VlanSwitch

open Switch

/-- How often the loop sweeps, in nanoseconds. -/
def macAgeSweepInterval : Duration := 30 * 10 ^ 9

/-- When the loop looked at the clock, if it did. -/
def Wake.time : Wake → Option Instant
  | .event _ _ now => some now
  | .ageSweep now => some now
  | .sighup _ => none

/-- There has been a sweep within `gap` of a moment, or all of the run was. -/
def Swept (gap : Duration) (now : Instant) (wakes : List Wake) : Prop :=
  (∃ swept, .ageSweep swept ∈ wakes ∧ now ≤ swept + gap) ∨
    ∀ wake ∈ wakes, ∀ t, wake.time = some t → now ≤ t + gap

namespace Daemon

/-- A reload leaves nothing learned. -/
theorem lookup_foldl_spawn {s : Switch} {key : Vlan × Mac}
    (h : s.macTable.entries.lookup key = none) (attempts : List Attempt) :
    (attempts.foldl Attempt.spawn s).macTable.entries.lookup key = none := by
  induction attempts generalizing s with
  | nil => exact h
  | cons a attempts ih =>
    refine ih ?_
    rw [Attempt.spawn_eq]
    split
    · change (s.macTable.removePort a.port).entries.lookup key = none
      rw [MacTable.lookup_entries_removePort, h]
      rfl
    · exact h

theorem lookup_reload (d : Daemon) (probeId : UInt64) (specs : List (Spec × Tap))
    (key : Vlan × Mac) :
    (d.reload (.loaded probeId specs)).switch.macTable.entries.lookup key = none := by
  rw [reload, (respawnAll_eq _ specs).1]
  refine lookup_foldl_spawn ?_ _
  simp [Switch.withProbeId, MacTable.empty]

/-- **One turn of the loop on one entry**: it was there, and is young enough if the turn is a
sweep, or a frame has just been learned from. -/
theorem entry_next {d : Daemon} {wake : Wake} {vlan : Vlan} {mac : Mac} {e : Entry}
    (h : (daemonMachine.next d wake).switch.macTable.entries.lookup (vlan, mac) = some e) :
    (d.switch.macTable.entries.lookup (vlan, mac) = some e ∧
        ∀ now, wake = .ageSweep now → now < e.lastSeen + macMaxAge) ∨
      ∃ bytes frame, wake = .event e.port (.frame bytes) e.lastSeen ∧
        EthernetFrame.parse bytes = .ok frame ∧ d.switch.Resolves e.port frame vlan ∧
        frame.src = mac := by
  rcases wake with ⟨port, event, now⟩ | load | now
  · rcases event with bytes | _
    · change (d.handleFrameEvent port (.frame bytes) now).2.switch.macTable.entries.lookup
        (vlan, mac) = some e at h
      rw [handleFrameEvent] at h
      rcases hparse : EthernetFrame.parse bytes with err | frame
      · rw [hparse] at h
        exact Or.inl ⟨h, fun _ hc => by cases hc⟩
      · rw [hparse] at h
        have hforward : (d.switch.forward port frame now).2.macTable.entries.lookup (vlan, mac) =
            some e := by
          dsimp only at h
          rcases hf : d.switch.forward port frame now with ⟨err | ds, switch⟩
          · rw [hf] at h
            exact h
          · rw [hf] at h
            exact h
        rcases @lookup_of_lookup_next _ (.forward port frame now) _ _ _ hforward with
          hlearns | ⟨hold, -⟩
        · obtain ⟨frame', hop, hr, hsrc, -⟩ := learns_iff.mp hlearns
          obtain ⟨rfl, rfl, rfl⟩ := Op.forward.inj hop
          exact Or.inr ⟨bytes, frame, rfl, hparse, hr, hsrc⟩
        · exact Or.inl ⟨hold, fun _ hc => by cases hc⟩
    · change (d.switch.removePort port).macTable.entries.lookup (vlan, mac) = some e at h
      change (d.switch.macTable.removePort port).entries.lookup (vlan, mac) = some e at h
      rw [MacTable.lookup_entries_removePort] at h
      exact Or.inl ⟨(Option.filter_eq_some_iff.mp h).1, fun _ hc => by cases hc⟩
  · rcases load with _ | _ | ⟨probeId, specs⟩
    · exact Or.inl ⟨h, fun _ hc => by cases hc⟩
    · exact Or.inl ⟨h, fun _ hc => by cases hc⟩
    · change (d.reload (.loaded probeId specs)).switch.macTable.entries.lookup (vlan, mac) =
        some e at h
      rw [lookup_reload] at h
      cases h
  · change (d.switch.macTable.evictOlderThan macMaxAge now).2.entries.lookup (vlan, mac) =
      some e at h
    rw [MacTable.lookup_entries_evictOlderThan] at h
    obtain ⟨hold, hage⟩ := Option.filter_eq_some_iff.mp h
    refine Or.inl ⟨hold, ?_⟩
    rintro now' hwake
    obtain rfl := Wake.ageSweep.inj hwake
    have hlt : now - e.lastSeen < macMaxAge := of_decide_eq_true hage
    have hadd : ∀ a b c : ℕ, a - b < c → a < b + c := by omega
    exact hadd now e.lastSeen macMaxAge hlt

/-- **What is learned at any moment** was learned from a frame of the run, and is younger than
the age entries live at every sweep of the run. -/
theorem entry_of_run {d : Daemon} (hempty : ∀ key, d.switch.macTable.entries.lookup key = none)
    {wakes : List Wake} (hclock : (wakes.filterMap Wake.time).Pairwise (· ≤ ·)) {vlan : Vlan}
    {mac : Mac} {e : Entry}
    (h : (daemonMachine.run d wakes).switch.macTable.entries.lookup (vlan, mac) = some e) :
    (∃ pre bytes frame post, wakes = pre ++ .event e.port (.frame bytes) e.lastSeen :: post ∧
      EthernetFrame.parse bytes = .ok frame ∧
      (daemonMachine.run d pre).switch.Resolves e.port frame vlan ∧ frame.src = mac) ∧
    ∀ swept, .ageSweep swept ∈ wakes → swept < e.lastSeen + macMaxAge := by
  induction wakes using List.reverseRecOn with
  | nil =>
    cases (hempty (vlan, mac)).symm.trans h
  | append_singleton wakes wake ih =>
    rw [List.filterMap_append, List.pairwise_append] at hclock
    rw [Machine.run_concat] at h
    rcases entry_next h with ⟨hold, hsweep⟩ | ⟨bytes, frame, rfl, hparse, hr, hsrc⟩
    · obtain ⟨⟨pre, bytes, frame, post, rfl, hlearned⟩, hyoung⟩ := ih hclock.1 hold
      refine ⟨⟨pre, bytes, frame, post ++ [wake], by simp, hlearned⟩, fun swept hswept => ?_⟩
      rcases List.mem_append.mp hswept with hbefore | hlast
      · exact hyoung swept hbefore
      · exact hsweep swept (List.mem_singleton.mp hlast).symm
    · -- learned just now, after all the sweeps so far
      refine ⟨⟨wakes, bytes, frame, [], rfl, hparse, hr, hsrc⟩, fun swept hswept => ?_⟩
      rcases List.mem_append.mp hswept with hbefore | hlast
      · have hle : swept ≤ e.lastSeen := hclock.2.2 swept
          (List.mem_filterMap.mpr ⟨_, hbefore, rfl⟩) e.lastSeen (List.mem_cons_self)
        exact hle.trans_lt (Nat.lt_add_of_pos_right (by decide))
      · cases List.mem_singleton.mp hlast

/-- **How old an entry can be** is a matter of when the last sweep was. -/
theorem young_of_swept {d : Daemon} (hempty : ∀ key, d.switch.macTable.entries.lookup key = none)
    {wakes : List Wake} (hclock : (wakes.filterMap Wake.time).Pairwise (· ≤ ·)) {gap : Duration}
    {now : Instant} (hswept : Swept gap now wakes) {vlan : Vlan} {mac : Mac} {e : Entry}
    (h : (daemonMachine.run d wakes).switch.macTable.entries.lookup (vlan, mac) = some e) :
    now < e.lastSeen + macMaxAge + gap := by
  obtain ⟨⟨pre, bytes, frame, post, rfl, -⟩, hyoung⟩ := entry_of_run hempty hclock h
  rcases hswept with ⟨swept, hmem, hgap⟩ | hall
  · have hlt := hyoung swept hmem
    exact hgap.trans_lt (Nat.add_lt_add_right hlt gap)
  · have hgap := hall _ (List.mem_append_right _ List.mem_cons_self) e.lastSeen rfl
    refine hgap.trans_lt (Nat.add_lt_add_right ?_ gap)
    exact Nat.lt_add_of_pos_right (by decide)

/-- What is handed to the writers if a frame of a VLAN goes to some ports. -/
def sends (d : Daemon) (vlan : Vlan) (frame : EthernetFrame) (ports : List PortId) :
    List Delivery :=
  (ports.filterMap fun port => d.switch.encodeForEgress port vlan frame).filterMap d.deliver

/-- A frame goes to the egress ports of the switch that has learned from it. -/
theorem out_frame {d : Daemon} {port : PortId} {bytes : List UInt8} (now : Instant)
    {frame : EthernetFrame} (hparse : EthernetFrame.parse bytes = .ok frame) {vlan : Vlan}
    (hr : d.switch.Resolves port frame vlan) :
    daemonMachine.out d (.event port (.frame bytes) now) = d.sends vlan frame
      ((d.switch.letIn port vlan frame now).egressPorts port vlan frame) := by
  change (d.handleFrameEvent port (.frame bytes) now).1 = _
  rw [handleFrameEvent, hparse]
  dsimp only
  rw [forward_eq, verdict_eq_accepted.mpr hr]
  rfl

end Daemon

/-- **A frame is sent to one port only on fresh evidence.** In a run of the loop from a
start-up, on a clock that does not go back, let a frame of a VLAN arrive, with a sweep not
longer than `gap` before it, or nothing at all longer before it. Then the frame is flooded,
or there is a port on which the loop took, less than 300 s and `gap` before, a frame that
the switch let into the same VLAN from the very address this one is for; and then it goes
out of that port alone, or nowhere if it came in there. -/
theorem fresh_or_flooded {probeId : UInt64} {specs : List (Spec × Tap)} {d₀ d : Daemon}
    (h₀ : Daemon.startUp probeId specs = .ok d₀) {wakes : List Wake}
    (hd : d = daemonMachine.run d₀ wakes) (hclock : (wakes.filterMap Wake.time).Pairwise (· ≤ ·))
    {port : PortId} {bytes : List UInt8} {now : Instant} {gap : Duration}
    (hswept : Swept gap now wakes) {frame : EthernetFrame}
    (hparse : EthernetFrame.parse bytes = .ok frame) {vlan : Vlan}
    (hr : d.switch.Resolves port frame vlan) :
    daemonMachine.out d (.event port (.frame bytes) now) =
        d.sends vlan frame (d.switch.floodTargets vlan port) ∨
      ∃ pre p bytes' learned frame' post, wakes ++ [.event port (.frame bytes) now] =
          pre ++ .event p (.frame bytes') learned :: post ∧
        EthernetFrame.parse bytes' = .ok frame' ∧ frame'.src = frame.dst ∧
        (daemonMachine.run d₀ pre).switch.Resolves p frame' vlan ∧
        now < learned + macMaxAge + gap ∧
        daemonMachine.out d (.event port (.frame bytes) now) =
          d.sends vlan frame (if p = port then [] else [p]) := by
  obtain rfl := Daemon.eq_respawnAll_of_spawnAll h₀
  have hempty := Daemon.lookup_reload ⟨Switch.withProbeId probeId, ∅, ⟨0⟩⟩ probeId specs
  have hreach : Reachable d.switch := by
    rw [hd]
    exact daemonMachine.run_invariant (I := fun d => Reachable d.switch) (P := fun _ => True)
      (fun _ wake _ h => Daemon.reachable_next h wake) (fun _ _ => trivial)
      (Daemon.reachable_reload ⟨Switch.withProbeId probeId, ∅, ⟨0⟩⟩ probeId specs)
  rw [Daemon.out_frame now hparse hr]
  rcases hroute : (d.switch.letIn port vlan frame now).macTable.entries.lookup (vlan, frame.dst)
    with _ | e
  · -- no route, so it is flooded
    have hnone : (d.switch.letIn port vlan frame now).macTable.lookup vlan frame.dst = none := by
      rw [MacTable.lookup, hroute]
      rfl
    rw [egressPorts_of_lookup_eq_none hnone,
      floodTargets_congr (ports_letIn _ port vlan frame now)]
    exact Or.inl rfl
  · have hsome : (d.switch.letIn port vlan frame now).macTable.lookup vlan frame.dst =
        some e.port := MacTable.lookup_eq_some.mpr ⟨e, hroute, rfl⟩
    have hunicast : ¬isGroupAddress frame.dst := fun hgroup => by
      have hnone := (hreach.accept hr now).lookup_of_isGroupAddress vlan hgroup
      rw [macTable_accept, ← macTable_letIn] at hnone
      cases hnone.symm.trans hsome
    rw [egressPorts_of_lookup_eq_some hunicast hsome]
    -- the entry was there, or it is the one of the frame itself
    have hcases : (e = ⟨port, now⟩ ∧ frame.src = frame.dst) ∨
        d.switch.macTable.entries.lookup (vlan, frame.dst) = some e := by
      rw [macTable_letIn] at hroute
      split at hroute
      · exact Or.inr hroute
      · rw [MacTable.lookup_entries_learn] at hroute
        split at hroute
        · next hkey => exact Or.inl ⟨(Option.some.inj hroute).symm, (Prod.mk.inj hkey).2.symm⟩
        · exact Or.inr hroute
    rcases hcases with ⟨rfl, hself⟩ | hold
    · refine Or.inr ⟨wakes, port, bytes, now, frame, [], rfl, hparse, hself, hd ▸ hr, ?_, rfl⟩
      exact Nat.lt_add_right gap (Nat.lt_add_of_pos_right (by decide))
    · rw [hd] at hold
      obtain ⟨⟨pre, bytes', frame', post, hsplit, hparse', hr', hsrc⟩, -⟩ :=
        Daemon.entry_of_run hempty hclock hold
      have hyoung := Daemon.young_of_swept hempty hclock hswept hold
      refine Or.inr ⟨pre, e.port, bytes', e.lastSeen, frame',
        post ++ [.event port (.frame bytes) now], ?_, hparse', hsrc, hr', hyoung, rfl⟩
      rw [hsplit, List.append_assoc, List.cons_append]

/-- With the sweeps of the loop a host that has sent a frame may still be known 329 s later,
if the last sweep was then 30 s ago, but not longer. -/
theorem fresh_or_flooded_known :
    ∃ pre p bytes learned post, [Wake.event ⟨0⟩ (.frame (hostFrame 1 9).wireBytes) 0,
        .ageSweep (299 * 10 ^ 9), .event ⟨1⟩ (.frame (hostFrame 9 1).wireBytes) (329 * 10 ^ 9)] =
        pre ++ .event p (.frame bytes) learned :: post ∧
      329 * 10 ^ 9 < learned + macMaxAge + macAgeSweepInterval := by
  have hstart : Daemon.startUp 7 [(⟨"tap0", .access 10⟩, ⟨true, true⟩),
      (⟨"tap1", .access 10⟩, ⟨true, true⟩), (⟨"tap2", .access 10⟩, ⟨true, true⟩)] = .ok _ := rfl
  have hparse : EthernetFrame.parse (hostFrame 9 1).wireBytes = .ok (hostFrame 9 1) := by decide
  have hsorted : ([Wake.event ⟨0⟩ (.frame (hostFrame 1 9).wireBytes) 0,
      .ageSweep (299 * 10 ^ 9)].filterMap Wake.time).Pairwise (· ≤ ·) := by decide
  have hswept : Swept macAgeSweepInterval (329 * 10 ^ 9)
      [Wake.event ⟨0⟩ (.frame (hostFrame 1 9).wireBytes) 0, .ageSweep (299 * 10 ^ 9)] :=
    Or.inl ⟨299 * 10 ^ 9, by simp, by decide⟩
  rcases @fresh_or_flooded _ _ _ _ hstart _ rfl hsorted ⟨1⟩ _ _ _ hswept _ hparse 10 (by decide)
    with hflood | ⟨pre, p, bytes', learned, frame', post, hsplit, -, -, -, hyoung, -⟩
  · -- it is not flooded: nothing is sent to port 2
    exact absurd hflood (by decide)
  · exact ⟨pre, p, bytes', learned, post, hsplit, hyoung⟩

end VlanSwitch
