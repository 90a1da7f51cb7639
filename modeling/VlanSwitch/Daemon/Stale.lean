import Mathlib.Data.Multiset.Basic
import VlanSwitch.Daemon.Tables
import VlanSwitch.Switch.Accounting
import VlanSwitch.Switch.Bridge

/-!
# What arrives too late

The readers of a port put what they see into a queue, and the loop takes it from there.
A port may be gone by then: a reload tears its ports down while what they reported is
still waiting, and so may do an event further ahead in the queue. `VlanSwitch.Loop` is
the loop with its queue, from which events are taken in any order, and with the list
of the port numbers handed out so far.

Nothing that arrives too late does anything (`VlanSwitch.stale_events_harmless`). The
argument has two halves. The numbers handed out are `0, 1, 2, …`
(`VlanSwitch.Loop.Sound.issued_eq`), so that a number, once its port is gone, is nobody's
for good (`VlanSwitch.Daemon.Retired.next`). And an event of a port that is not
registered is taken without effect (`VlanSwitch.Daemon.Retired.handleFrameEvent`), even
the `Down` that removes a port, since a reachable switch keeps nothing of a port that
is not registered (`VlanSwitch.Reachable.removePort_eq_self`).
-/

namespace VlanSwitch

/-! ### A port that is not registered -/

/-- A reachable switch has learned nothing on a port that is not registered. -/
theorem Reachable.port_mem_of_learned {s : Switch} (h : Reachable s) {key : Vlan × Mac}
    {e : Entry} (he : s.macTable.entries.lookup key = some e) : e.port ∈ s.ports := by
  have hroute : s.bridge.routes key.1 key.2 = some e.port :=
    MacTable.lookup_eq_some.mpr ⟨e, he, rfl⟩
  obtain ⟨entry, hentry, -⟩ := h.bridge_sound key.1 key.2 e.port hroute
  exact Finmap.mem_of_lookup_eq_some hentry

/-- **Removing a port that is not registered does nothing**: not even what was learned
or counted on it is left. -/
theorem Reachable.removePort_eq_self {s : Switch} (h : Reachable s) {p : PortId}
    (hp : p ∉ s.ports) : s.removePort p = s := by
  have hcounters : p ∉ s.portCounters := fun hc => hp (h.mem_ports_of_mem_portCounters p hc)
  refine Switch.eq_of_fields (Finmap.erase_of_notMem hp) ?_ (Finmap.erase_of_notMem hcounters)
    rfl rfl
  refine congrArg MacTable.mk (Finmap.ext_lookup fun key => ?_)
  refine (s.macTable.lookup_entries_removePort p key).trans ?_
  rcases he : s.macTable.entries.lookup key with _ | e
  · rfl
  · refine Option.filter_eq_some_iff.mpr ⟨rfl, ?_⟩
    refine decide_eq_true fun heq => hp ?_
    exact heq ▸ h.port_mem_of_learned he

/-! ### The numbers -/

namespace PortIdAllocator

/-- There is a number to hand out below the last one. -/
theorem next_eq_error {a : PortIdAllocator} {e : AllocError} :
    a.next = .error e ↔ a.id = 0xFFFFFFFF := by
  rw [next]
  split
  · next h => exact ⟨fun _ => h, fun _ => rfl⟩
  · next h => exact ⟨fun hc => absurd hc (by simp), fun hc => absurd hc h⟩

/-- **Once there is no number left, there never is.** -/
theorem next_error_of_le {a b : PortIdAllocator} {e : AllocError} (h : a.next = .error e)
    (hle : a.id.toNat ≤ b.id.toNat) : b.next = .error e := by
  rw [next_eq_error] at h ⊢
  refine UInt32.toNat_inj.mp (Nat.le_antisymm ?_ (h ▸ hle))
  exact Nat.lt_succ_iff.mp b.id.toNat_lt

end PortIdAllocator

/-- **The numbers of a list of ports are consecutive**, from the next one on. -/
theorem map_id_attempts (portIds : PortIdAllocator) (specs : List (Spec × Tap)) :
    (attempts portIds specs).map (fun a => a.port.id.toNat) =
      List.range' portIds.id.toNat (attempts portIds specs).length := by
  induction specs generalizing portIds with
  | nil => rfl
  | cons s specs ih =>
    rcases hnext : portIds.next with e | ⟨port, portIds'⟩
    · rw [attempts_of_error hnext]
      rfl
    · obtain ⟨hport, hsucc⟩ := PortIdAllocator.next_eq_ok hnext
      rw [attempts_cons hnext, List.map_cons, List.length_cons, List.range'_succ, ih, hsucc, hport]

namespace Daemon

/-- Respawning uses up a number for each attempt, successful or not. -/
theorem portIds_respawnAll (d : Daemon) (specs : List (Spec × Tap)) :
    (d.respawnAll specs).portIds.id.toNat =
      d.portIds.id.toNat + (attempts d.portIds specs).length := by
  induction specs generalizing d with
  | nil => rfl
  | cons s specs ih =>
    rcases hnext : d.portIds.next with e | ⟨port, portIds⟩
    · rw [attempts_of_error hnext, respawnAll_of_error hnext]
      rfl
    · obtain ⟨-, hsucc⟩ := PortIdAllocator.next_eq_ok hnext
      rw [attempts_cons hnext, List.length_cons, respawnAll_cons hnext, ih, afterAttempt, hsucc]
      exact Nat.add_right_comm _ 1 _

/-- Spawning is adding ports, which keeps a switch reachable. -/
theorem reachable_foldl_spawn {s : Switch} (h : Reachable s) (attempts : List Attempt) :
    Reachable (attempts.foldl Attempt.spawn s) := by
  induction attempts generalizing s with
  | nil => exact h
  | cons a attempts ih =>
    refine ih ?_
    rw [Attempt.spawn_eq]
    split
    · exact h.next (.addPort a.port a.spec.mode)
    · exact h

/-- A start-up that succeeds spawns as a reload does. -/
theorem eq_respawnAll_of_spawnAll {d d' : Daemon} {specs : List (Spec × Tap)}
    (h : d.spawnAll specs = .ok d') : d' = d.respawnAll specs := by
  induction specs generalizing d with
  | nil => exact (Except.ok.inj h).symm
  | cons s specs ih =>
    obtain ⟨port, portIds, hnext, -, hrest⟩ := exists_of_spawnAll_cons h
    rw [respawnAll_cons hnext]
    exact ih hrest

/-- A start-up spawns some of its ports, and then the others. -/
theorem spawnAll_append {d d' : Daemon} {pre : List (Spec × Tap)} (h : d.spawnAll pre = .ok d')
    (post : List (Spec × Tap)) : d.spawnAll (pre ++ post) = d'.spawnAll post := by
  induction pre generalizing d with
  | nil => exact congrArg (spawnAll · post) (Except.ok.inj h)
  | cons s pre ih =>
    obtain ⟨port, portIds, hnext, hok, hrest⟩ := exists_of_spawnAll_cons h
    rw [List.cons_append, spawnAll_cons_of_succeeds hnext hok]
    exact ih hrest

/-- A reload spawns some of its ports, and then the others. -/
theorem respawnAll_append (d : Daemon) (pre post : List (Spec × Tap)) :
    d.respawnAll (pre ++ post) = (d.respawnAll pre).respawnAll post := by
  induction pre generalizing d with
  | nil => rfl
  | cons s pre ih =>
    rcases hnext : d.portIds.next with e | ⟨port, portIds⟩
    · -- out of numbers, neither part spawns anything
      rw [respawnAll_of_error hnext, respawnAll_of_error hnext, respawnAll_of_error hnext]
    · rw [List.cons_append, respawnAll_cons hnext, respawnAll_cons hnext]
      exact ih _

/-! ### A number that is nobody's -/

/-- What an event can do to the state: remove its port, nothing, or what `forward`
does. -/
theorem handleFrameEvent_snd (d : Daemon) (ingress : PortId) (event : PortEvent) (now : Instant) :
    (event = .down ∧ (d.handleFrameEvent ingress event now).2 =
        { d with switch := d.switch.removePort ingress, handles := d.handles.erase ingress }) ∨
      (d.handleFrameEvent ingress event now).2 = d ∨
      ∃ frame, (d.handleFrameEvent ingress event now).2 =
        { d with switch := (d.switch.forward ingress frame now).2 } := by
  rcases event with bytes | _
  · rw [handleFrameEvent]
    rcases EthernetFrame.parse bytes with e | frame
    · exact Or.inr (Or.inl rfl)
    · refine Or.inr (Or.inr ⟨frame, ?_⟩)
      dsimp only
      rcases d.switch.forward ingress frame now with ⟨e | ds, switch⟩ <;> rfl
  · exact Or.inl ⟨rfl, rfl⟩

end Daemon

/-- A reload that finds a configuration, and so replaces the switch. -/
def Wake.Reloads (wake : Wake) : Prop :=
  ∃ probeId specs, wake = .sighup (.loaded probeId specs)

namespace Daemon

/-- A turn of the loop that does not reload is one operation on the switch at most, and
neither adds a port nor unblocks one. -/
theorem exists_op_of_not_reloads (d : Daemon) {wake : Wake} (h : ¬wake.Reloads) :
    (daemonMachine.next d wake).switch = d.switch ∨
      ∃ op, (daemonMachine.next d wake).switch = machine.next d.switch op ∧
        (∀ q m, op ≠ .addPort q m) ∧ ∀ q, op ≠ .unblockPort q := by
  rcases wake with ⟨ingress, event, now⟩ | load | now
  · change (d.handleFrameEvent ingress event now).2.switch = _ ∨
      ∃ op, (d.handleFrameEvent ingress event now).2.switch = _ ∧ _
    rcases d.handleFrameEvent_snd ingress event now with ⟨-, heq⟩ | heq | ⟨frame, heq⟩
    · rw [heq]
      exact Or.inr ⟨.removePort ingress, rfl, fun _ _ hc => (by cases hc), fun _ hc => by cases hc⟩
    · rw [heq]
      exact Or.inl rfl
    · rw [heq]
      exact Or.inr ⟨.forward ingress frame now, rfl, fun _ _ hc => (by cases hc),
        fun _ hc => by cases hc⟩
  · rcases load with _ | _ | ⟨probeId, specs⟩
    · exact Or.inl rfl
    · exact Or.inl rfl
    · exact absurd ⟨probeId, specs, rfl⟩ h
  · exact Or.inr ⟨.ageOut macMaxAge now, rfl, fun _ _ hc => (by cases hc), fun _ hc => by cases hc⟩

/-- A reload starts with a new switch. -/
theorem reachable_reload (d : Daemon) (probeId : UInt64) (specs : List (Spec × Tap)) :
    Reachable (d.reload (.loaded probeId specs)).switch := by
  rw [reload, (respawnAll_eq _ specs).1]
  exact reachable_foldl_spawn ⟨probeId, [], rfl⟩ _

/-- A daemon stays one with a reachable switch, whatever the loop does. -/
theorem reachable_next {d : Daemon} (h : Reachable d.switch) (wake : Wake) :
    Reachable (daemonMachine.next d wake).switch := by
  by_cases hreload : wake.Reloads
  · obtain ⟨probeId, specs, rfl⟩ := hreload
    exact reachable_reload d probeId specs
  · rcases d.exists_op_of_not_reloads hreload with heq | ⟨op, heq, -⟩
    · rw [heq]
      exact h
    · rw [heq]
      exact h.next op

/-- **A retired number**: it was handed out, and no port and no handle has it. -/
structure Retired (d : Daemon) (p : PortId) : Prop where
  issued : p.id.toNat < d.portIds.id.toNat
  port : p ∉ d.switch.ports
  handle : p ∉ d.handles

section Retired

variable {d : Daemon} {p : PortId}

/-- A reload retires every number handed out before it: the new ports get later ones. -/
theorem retired_reload (h : p.id.toNat < d.portIds.id.toNat) (probeId : UInt64)
    (specs : List (Spec × Tap)) : (d.reload (.loaded probeId specs)).Retired p := by
  have hlate : ∀ a ∈ attempts d.portIds specs, a.port ≠ p := fun a ha heq => by
    have hle := le_of_mem_attempts ha
    rw [heq] at hle
    omega
  refine ⟨?_, fun hp => ?_, fun hp => ?_⟩
  · rw [reload, portIds_respawnAll]
    exact Nat.lt_add_right _ h
  · obtain ⟨a, ha, hport, -⟩ := mem_ports_reload.mp hp
    exact hlate a ha hport
  · obtain ⟨a, ha, hport, -⟩ := mem_handles_reload.mp hp
    exact hlate a ha hport

/-- `Down` retires the number of its port. -/
theorem retired_down (h : p.id.toNat < d.portIds.id.toNat) (now : Instant) :
    (d.handleFrameEvent p .down now).2.Retired p :=
  ⟨h, Finmap.notMem_erase_self, Finset.notMem_erase p d.handles⟩

/-- **A retired number stays retired**, whatever the loop does. -/
theorem Retired.next (h : d.Retired p) (wake : Wake) : (daemonMachine.next d wake).Retired p := by
  rcases wake with ⟨ingress, event, now⟩ | load | now
  · change (d.handleFrameEvent ingress event now).2.Retired p
    rcases d.handleFrameEvent_snd ingress event now with ⟨-, heq⟩ | heq | ⟨frame, heq⟩
    · rw [heq]
      exact ⟨h.issued, fun hp => h.port (Finmap.mem_erase.mp hp).2,
        fun hp => h.handle (Finset.mem_of_mem_erase hp)⟩
    · rw [heq]
      exact h
    · rw [heq]
      exact ⟨h.issued, fun hp => h.port (Switch.mem_ports_forward.mp hp), h.handle⟩
  · rcases load with _ | _ | ⟨probeId, specs⟩
    · exact h
    · exact h
    · exact retired_reload h.issued probeId specs
  · exact ⟨h.issued, h.port, h.handle⟩

/-- **What arrives for a retired number is taken without effect**: a `Down`, bytes that
are not a frame, and a frame of any kind. -/
theorem Retired.handleFrameEvent (h : d.Retired p) (hreach : Reachable d.switch)
    (event : PortEvent) (now : Instant) : d.handleFrameEvent p event now = ([], d) := by
  rcases event with bytes | _
  · rw [Daemon.handleFrameEvent]
    rcases EthernetFrame.parse bytes with e | frame
    · rfl
    · have hforward : d.switch.forward p frame now = (.error (.unknownPort p), d.switch) := by
        rw [Switch.forward_eq, Switch.verdict_eq_unknown.mpr h.port]
      dsimp only
      rw [hforward]
  · rw [Daemon.handleFrameEvent, hreach.removePort_eq_self h.port,
      Finset.erase_eq_of_notMem h.handle]

end Retired

end Daemon

/-! ### The loop and its queue -/

/-- **The loop with its queue**: the daemon, what waits to be taken, and the port
numbers handed out so far. -/
structure Loop where
  daemon : Daemon
  queue : Multiset (PortId × PortEvent)
  issued : List PortId
  deriving DecidableEq

/-- What happens next. -/
inductive Turn where
  /-- A reader puts an event of a port into the queue. -/
  | arrives (port : PortId) (event : PortEvent)
  /-- The loop wakes up. -/
  | wakes (wake : Wake)
  deriving DecidableEq

/-- The numbers a turn hands out. -/
def Wake.issues (d : Daemon) : Wake → List PortId
  | .sighup (.loaded _ specs) => (attempts d.portIds specs).map Attempt.port
  | _ => []

/-- What a turn leaves of the queue. -/
def Wake.leaves (queue : Multiset (PortId × PortEvent)) : Wake → Multiset (PortId × PortEvent)
  | .event ingress reported _ => queue.erase (ingress, reported)
  | _ => queue

/-- **The loop and its queue, as a machine.** -/
def loopMachine : Machine Loop Turn (List Delivery) where
  step l
    | .arrives port event => ([], { l with queue := (port, event) ::ₘ l.queue })
    | .wakes wake =>
      (daemonMachine.out l.daemon wake,
        { daemon := daemonMachine.next l.daemon wake
          queue := wake.leaves l.queue
          issued := l.issued ++ wake.issues l.daemon })

/-- The loop after a start-up. -/
def Loop.start (specs : List (Spec × Tap)) (d : Daemon) : Loop where
  daemon := d
  queue := 0
  issued := (attempts ⟨0⟩ specs).map Attempt.port

/-- What can happen: a port reports under a number it once got, and the loop takes
anything that waits. -/
def Turn.Possible (l : Loop) : Turn → Prop
  | .arrives port _ => port ∈ l.issued
  | .wakes (.event ingress reported _) => (ingress, reported) ∈ l.queue
  | .wakes _ => True

/-- The port `p` ends here: everything handed out so far is torn down, or `p` reports
that it is down. -/
def Turn.Ends (l : Loop) (p : PortId) : Turn → Prop
  | .wakes (.sighup (.loaded _ _)) => p ∈ l.issued
  | .wakes (.event ingress .down _) => p = ingress
  | _ => False

namespace Loop

/-- **What holds of the loop at any time.** -/
structure Sound (l : Loop) : Prop where
  reachable : Reachable l.daemon.switch
  issued_eq : l.issued.map (fun p => p.id.toNat) = List.range l.daemon.portIds.id.toNat
  ports : ∀ p ∈ l.daemon.switch.ports, p ∈ l.issued
  handles : ∀ p ∈ l.daemon.handles, p ∈ l.issued
  queue : ∀ e ∈ l.queue, e.1 ∈ l.issued

section Sound

variable {l : Loop}

/-- The numbers handed out are those below the next one. -/
theorem Sound.mem_issued (h : l.Sound) {p : PortId} :
    p ∈ l.issued ↔ p.id.toNat < l.daemon.portIds.id.toNat := by
  rw [← List.mem_range, ← h.issued_eq, List.mem_map]
  refine ⟨fun hp => ⟨p, hp, rfl⟩, ?_⟩
  rintro ⟨q, hq, heq⟩
  obtain ⟨id⟩ := q
  obtain ⟨id'⟩ := p
  obtain rfl : id = id' := UInt32.toNat_inj.mp heq
  exact hq

theorem Sound.nodup_issued (h : l.Sound) : l.issued.Nodup :=
  List.Nodup.of_map _ (h.issued_eq ▸ List.nodup_range)

/-- The number handed out next is new. -/
theorem Sound.next_notMem (h : l.Sound) {port : PortId} {portIds : PortIdAllocator}
    (hnext : l.daemon.portIds.next = .ok (port, portIds)) : port ∉ l.issued := by
  rw [h.mem_issued, (PortIdAllocator.next_eq_ok hnext).1]
  exact lt_irrefl _

/-- Spawning continues the numbers handed out. -/
theorem range_append_attempts (portIds : PortIdAllocator) (specs : List (Spec × Tap)) :
    List.range portIds.id.toNat ++ ((attempts portIds specs).map Attempt.port).map
        (fun p => p.id.toNat) =
      List.range (portIds.id.toNat + (attempts portIds specs).length) := by
  rw [List.map_map]
  change _ ++ (attempts portIds specs).map (fun a => a.port.id.toNat) = _
  rw [map_id_attempts, List.range_eq_range', List.range_eq_range', ← List.range'_append_1,
    Nat.zero_add]

theorem sound_start {probeId : UInt64} {specs : List (Spec × Tap)} {d : Daemon}
    (h : Daemon.startUp probeId specs = .ok d) : (start specs d).Sound := by
  obtain rfl := Daemon.eq_respawnAll_of_spawnAll h
  have hrespawn := Daemon.respawnAll_eq ⟨Switch.withProbeId probeId, ∅, ⟨0⟩⟩ specs
  refine ⟨?_, ?_, fun p hp => ?_, fun p hp => ?_, fun e he => absurd he (Multiset.notMem_zero e)⟩
  · change Reachable (Daemon.respawnAll _ specs).switch
    rw [hrespawn.1]
    exact Daemon.reachable_foldl_spawn ⟨probeId, [], rfl⟩ _
  · change _ = List.range (Daemon.respawnAll _ specs).portIds.id.toNat
    rw [Daemon.portIds_respawnAll]
    exact range_append_attempts ⟨0⟩ specs
  · change p ∈ (Daemon.respawnAll _ specs).switch.ports at hp
    rw [hrespawn.1, Attempt.mem_foldl_spawn] at hp
    obtain ⟨a, ha, rfl, -⟩ := hp.resolve_left Finmap.notMem_empty
    exact List.mem_map_of_mem ha
  · change p ∈ (Daemon.respawnAll _ specs).handles at hp
    rw [hrespawn.2, Attempt.mem_foldl_enlist] at hp
    obtain ⟨a, ha, rfl, -⟩ := hp.resolve_left (Finset.notMem_empty p)
    exact List.mem_map_of_mem ha

/-- An event of the daemon hands out no number, and registers and keeps no more. -/
theorem Sound.event (h : l.Sound) (ingress : PortId) (event : PortEvent) (now : Instant) :
    (loopMachine.next l (.wakes (.event ingress event now))).Sound := by
  have hissued : l.issued ++ Wake.issues l.daemon (.event ingress event now) = l.issued :=
    List.append_nil _
  have hqueue : ∀ e ∈ l.queue.erase (ingress, event), e.1 ∈ l.issued :=
    fun e he => h.queue e (Multiset.mem_of_mem_erase he)
  change Sound ⟨(l.daemon.handleFrameEvent ingress event now).2, l.queue.erase (ingress, event),
    l.issued ++ Wake.issues l.daemon (.event ingress event now)⟩
  rw [hissued]
  rcases l.daemon.handleFrameEvent_snd ingress event now with ⟨-, heq⟩ | heq | ⟨frame, heq⟩
  · rw [heq]
    exact ⟨h.reachable.next (.removePort ingress), h.issued_eq,
      fun p hp => h.ports p (Finmap.mem_erase.mp hp).2,
      fun p hp => h.handles p (Finset.mem_of_mem_erase hp), hqueue⟩
  · rw [heq]
    exact ⟨h.reachable, h.issued_eq, h.ports, h.handles, hqueue⟩
  · rw [heq]
    exact ⟨h.reachable.next (.forward ingress frame now), h.issued_eq,
      fun p hp => h.ports p (Switch.mem_ports_forward.mp hp), h.handles, hqueue⟩

/-- **A reload starts over, with numbers that were not handed out before.** -/
theorem Sound.reload (h : l.Sound) (probeId : UInt64) (specs : List (Spec × Tap)) :
    (loopMachine.next l (.wakes (.sighup (.loaded probeId specs)))).Sound := by
  have hrespawn := Daemon.respawnAll_eq
    { l.daemon with switch := Switch.withProbeId probeId, handles := ∅ } specs
  refine ⟨?_, ?_, fun p hp => ?_, fun p hp => ?_, fun e he => ?_⟩
  · change Reachable (Daemon.respawnAll _ specs).switch
    rw [hrespawn.1]
    exact Daemon.reachable_foldl_spawn ⟨probeId, [], rfl⟩ _
  · change (l.issued ++ _).map _ = List.range (Daemon.respawnAll _ specs).portIds.id.toNat
    rw [Daemon.portIds_respawnAll, List.map_append, h.issued_eq]
    exact range_append_attempts l.daemon.portIds specs
  · obtain ⟨a, ha, rfl, -⟩ := Daemon.mem_ports_reload.mp hp
    exact List.mem_append_right _ (List.mem_map_of_mem ha)
  · obtain ⟨a, ha, rfl, -⟩ := Daemon.mem_handles_reload.mp hp
    exact List.mem_append_right _ (List.mem_map_of_mem ha)
  · exact List.mem_append_left _ (h.queue e he)

/-- **A possible turn keeps the loop sound.** -/
theorem Sound.next (h : l.Sound) {turn : Turn} (hturn : turn.Possible l) :
    (loopMachine.next l turn).Sound := by
  have hnone : l.issued ++ [] = l.issued := List.append_nil _
  rcases turn with ⟨port, event⟩ | ⟨ingress, event, now⟩ | load | now
  · refine ⟨h.reachable, h.issued_eq, h.ports, h.handles, fun e he => ?_⟩
    rcases Multiset.mem_cons.mp he with rfl | he
    · exact hturn
    · exact h.queue e he
  · exact h.event ingress event now
  · rcases load with _ | _ | ⟨probeId, specs⟩
    · change Sound ⟨l.daemon, l.queue, l.issued ++ []⟩
      exact hnone.symm ▸ h
    · change Sound ⟨l.daemon, l.queue, l.issued ++ []⟩
      exact hnone.symm ▸ h
    · exact h.reload probeId specs
  · change Sound ⟨{ l.daemon with switch := (l.daemon.switch.ageOut macMaxAge now).2 }, l.queue,
      l.issued ++ []⟩
    rw [hnone]
    exact ⟨h.reachable.next (.ageOut macMaxAge now), h.issued_eq, h.ports, h.handles, h.queue⟩

/-- **A run of possible turns keeps the loop sound.** -/
theorem Sound.run (h : l.Sound) {turns : List Turn}
    (hturns : ∀ e ∈ loopMachine.trace l turns, e.2.Possible e.1) :
    (loopMachine.run l turns).Sound := by
  induction turns generalizing l with
  | nil => exact h
  | cons turn turns ih =>
    rw [Machine.trace_cons, List.forall_mem_cons] at hturns
    exact ih (h.next hturns.1) hturns.2

/-- The next number never decreases. -/
theorem le_portIds_run (l : Loop) (turns : List Turn) :
    l.daemon.portIds.id.toNat ≤ (loopMachine.run l turns).daemon.portIds.id.toNat := by
  refine loopMachine.run_invariant (P := fun _ => True)
    (I := fun m => l.daemon.portIds.id.toNat ≤ m.daemon.portIds.id.toNat)
    (fun m turn _ hm => hm.trans ?_) (fun _ _ => trivial) le_rfl
  rcases turn with ⟨port, event⟩ | ⟨ingress, event, now⟩ | load | now
  · exact le_rfl
  · change _ ≤ (m.daemon.handleFrameEvent ingress event now).2.portIds.id.toNat
    -- no event touches the numbers
    refine (congrArg (fun a : PortIdAllocator => a.id.toNat) ?_).le
    rcases m.daemon.handleFrameEvent_snd ingress event now with ⟨-, heq⟩ | heq | ⟨frame, heq⟩
    · exact (congrArg Daemon.portIds heq).symm
    · exact (congrArg Daemon.portIds heq).symm
    · exact (congrArg Daemon.portIds heq).symm
  · rcases load with _ | _ | ⟨probeId, specs⟩
    · exact le_rfl
    · exact le_rfl
    · change _ ≤ (Daemon.respawnAll _ specs).portIds.id.toNat
      rw [Daemon.portIds_respawnAll]
      exact Nat.le_add_right _ _
  · exact le_rfl

/-- A retired number stays retired over a run. -/
theorem retired_run {p : PortId} (h : l.daemon.Retired p) (turns : List Turn) :
    (loopMachine.run l turns).daemon.Retired p := by
  refine loopMachine.run_invariant (P := fun _ => True) (I := fun m => m.daemon.Retired p)
    (fun m turn _ hm => ?_) (fun _ _ => trivial) h
  rcases turn with ⟨port, event⟩ | wake
  · exact hm
  · exact hm.next wake

/-- **Where a port ends, its number is retired.** -/
theorem Sound.retired (h : l.Sound) {p : PortId} {turn : Turn} (hturn : turn.Possible l)
    (hends : turn.Ends l p) : (loopMachine.next l turn).daemon.Retired p := by
  rcases turn with ⟨port, event⟩ | ⟨ingress, bytes | _, now⟩ | (_ | _ | ⟨probeId, specs⟩) | now
  · exact hends.elim
  · exact hends.elim
  · obtain rfl : p = ingress := hends
    exact Daemon.retired_down (h.mem_issued.mp (h.queue _ hturn)) now
  · exact hends.elim
  · exact hends.elim
  · exact Daemon.retired_reload (h.mem_issued.mp hends) probeId specs
  · exact hends.elim

end Sound

end Loop

/-- **Stale events are harmless, and no port number is used twice.** In a run of the
loop from a start-up that succeeded, events arriving under any number handed out before
and being taken in any order, among reloads of any outcome: the numbers handed out are
distinct, and every port and handle has one of them; when there is none left, there is
none from then on; at start-up and in a reload, some ports being spawned and others to
come, the next number has no handle yet; and once everything was torn down by a reload,
or a port by its `Down`, whatever is taken from the queue under a number torn down leaves
the daemon as it was and hands nothing to the writers. -/
theorem stale_events_harmless {probeId : UInt64} {specs : List (Spec × Tap)} {d₀ : Daemon}
    (h₀ : Daemon.startUp probeId specs = .ok d₀) {turns : List Turn}
    (hturns : ∀ e ∈ loopMachine.trace (Loop.start specs d₀) turns, e.2.Possible e.1) {l : Loop}
    (hl : l = loopMachine.run (Loop.start specs d₀) turns) :
    l.issued.Nodup ∧
    (∀ p, p ∈ l.daemon.switch.ports ∨ p ∈ l.daemon.handles → p ∈ l.issued) ∧
    (∀ m turn e, (m, turn) ∈ loopMachine.trace (Loop.start specs d₀) turns →
      m.daemon.portIds.next = .error e → l.daemon.portIds.next = .error e) ∧
    (∀ pre post d, specs = pre ++ post → Daemon.startUp probeId pre = .ok d →
      d.spawnAll post = .ok d₀ ∧
      ∀ port portIds, d.portIds.next = .ok (port, portIds) → port ∉ d.handles) ∧
    (∀ probeId' pre post d, d = l.daemon.reload (.loaded probeId' pre) →
      l.daemon.reload (.loaded probeId' (pre ++ post)) = d.respawnAll post ∧
      ∀ port portIds, d.portIds.next = .ok (port, portIds) →
        port ∉ d.handles ∧ port ∉ l.issued) ∧
    ∀ m turn p, (m, turn) ∈ loopMachine.trace (Loop.start specs d₀) turns → turn.Ends m p →
      ∀ event now, l.daemon.handleFrameEvent p event now = ([], l.daemon) := by
  have hsound : l.Sound := hl ▸ (Loop.sound_start h₀).run hturns
  refine ⟨hsound.nodup_issued, ?_, ?_, ?_, ?_, ?_⟩
  · rintro p (hp | hp)
    · exact hsound.ports p hp
    · exact hsound.handles p hp
  · intro m turn e he herror
    obtain ⟨pre, post, rfl, rfl⟩ := loopMachine.mem_trace.mp he
    rw [Machine.run_append] at hl
    refine PortIdAllocator.next_error_of_le herror ?_
    rw [hl]
    exact Loop.le_portIds_run _ _
  · rintro pre post d rfl hd
    refine ⟨(Daemon.spawnAll_append hd post).symm.trans h₀, fun port portIds hnext hport => ?_⟩
    have hstart := Loop.sound_start hd
    exact hstart.next_notMem hnext (hstart.handles port hport)
  · rintro probeId' pre post d rfl
    refine ⟨Daemon.respawnAll_append _ pre post, fun port portIds hnext => ?_⟩
    -- the daemon after a reload is that of a sound loop, which has handed out no less
    have hreload := hsound.reload probeId' pre
    have hnew := hreload.next_notMem hnext
    exact ⟨fun hport => hnew (hreload.handles port hport),
      fun hport => hnew (List.mem_append_left _ hport)⟩
  · intro m turn p he hends event now
    have hpossible : turn.Possible m := hturns _ he
    obtain ⟨pre, post, rfl, rfl⟩ := loopMachine.mem_trace.mp he
    have hpre : (loopMachine.run (Loop.start specs d₀) pre).Sound := by
      refine (Loop.sound_start h₀).run fun e he => hturns e ?_
      rw [Machine.trace_append]
      exact List.mem_append_left _ he
    have hretired : l.daemon.Retired p := by
      rw [hl, Machine.run_append]
      exact Loop.retired_run (hpre.retired hpossible hends) post
    exact hretired.handleFrameEvent hsound.reachable event now

/-- A `Down` of a port that a reload replaced does not reach the port that replaced it. -/
theorem stale_events_harmless_down :
    let d₀ : Daemon := ⟨(Switch.withProbeId 7).addPort ⟨0⟩ (.access 10), {⟨0⟩}, ⟨1⟩⟩
    let l := loopMachine.run (Loop.start [(⟨"tap0", .access 10⟩, ⟨true, true⟩)] d₀)
      [.arrives ⟨0⟩ .down, .wakes (.sighup (.loaded 8 [(⟨"tap0", .access 10⟩, ⟨true, true⟩)]))]
    l.daemon.handleFrameEvent ⟨0⟩ .down 0 = ([], l.daemon) := by
  have hrun := @stale_events_harmless 7 [(⟨"tap0", .access 10⟩, ⟨true, true⟩)]
    ⟨(Switch.withProbeId 7).addPort ⟨0⟩ (.access 10), {⟨0⟩}, ⟨1⟩⟩ rfl
    [.arrives ⟨0⟩ .down, .wakes (.sighup (.loaded 8 [(⟨"tap0", .access 10⟩, ⟨true, true⟩)]))]
    (by
      simp only [Machine.trace_cons, Machine.trace_nil, List.forall_mem_cons]
      exact ⟨List.mem_singleton_self _, trivial, fun e he => absurd he List.not_mem_nil⟩) _ rfl
  exact hrun.2.2.2.2.2 _ _ ⟨0⟩ (List.mem_cons_of_mem _ List.mem_cons_self)
    (List.mem_singleton_self _) .down 0

end VlanSwitch
