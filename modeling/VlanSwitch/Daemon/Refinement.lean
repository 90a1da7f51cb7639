import VlanSwitch.Daemon.Queues

/-!
# The process refines the loop

Seen from the loop, the tasks of the process only do one thing: they put events into
its queue. So a run of the process is a run of the loop with its queue
(`VlanSwitch.process_refines_loop`), a move of a reader being an arrival and a move of
the loop a turn of it, and nothing else being visible; and since the ports that have
tasks have numbers that were handed out, whatever a reader puts into the queue is what
the loop has to expect. What is known of the loop is thereby known of the process. In
particular a port that is torn down is gone for good (`VlanSwitch.torn_down_silent`).
-/

namespace VlanSwitch

/-! ### What the loop sees of a move -/

/-- The turn of the loop that a move is, if it is one. -/
def Process.wake (s : Process) : Move → Option Wake
  | .handles now => s.events.head?.map fun e => .event e.1 e.2 now
  | .sighup load => some (.sighup load)
  | .ageSweep now => some (.ageSweep now)
  | _ => none

/-- A writer's moves are its own. -/
theorem Process.exists_takes_eq (s : Process) (p : PortId) :
    ∃ tasks, processMachine.next s (.takes p) = { s with tasks } := by
  change ∃ tasks, (s.takes p).2 = { s with tasks }
  unfold takes
  split
  · exact ⟨s.tasks, rfl⟩
  · split
    · exact ⟨_, rfl⟩
    · exact ⟨s.tasks, rfl⟩

theorem Process.exists_sends_eq (s : Process) (p : PortId) (answer : Except IoError ℕ) :
    ∃ tasks, processMachine.next s (.sends p answer) = { s with tasks } := by
  change ∃ tasks, (s.sends p answer).2 = { s with tasks }
  unfold sends
  split
  · exact ⟨s.tasks, rfl⟩
  · split
    · exact ⟨s.tasks, rfl⟩
    · exact ⟨_, rfl⟩

theorem Process.exists_ends_eq (s : Process) (p : PortId) :
    ∃ tasks, processMachine.next s (.ends p) = { s with tasks } := by
  change ∃ tasks, (s.ends p).2 = { s with tasks }
  unfold ends
  split
  · exact ⟨s.tasks, rfl⟩
  · split
    · exact ⟨_, rfl⟩
    · exact ⟨s.tasks, rfl⟩

/-- A reply touches the requests only. -/
theorem Process.exists_answers_eq (s : Process) :
    ∃ requests, processMachine.next s .answers = { s with requests } := by
  change ∃ requests, s.answers.2 = { s with requests }
  unfold answers
  split
  · exact ⟨s.requests, rfl⟩
  · exact ⟨_, rfl⟩

/-- **A move does to the daemon what the turn does that it is**, and nothing if it is
none. -/
theorem Process.daemon_next (s : Process) (move : Move) :
    (processMachine.next s move).daemon =
      ((s.wake move).map (daemonMachine.next s.daemon)).getD s.daemon := by
  cases move with
  | reads p answer =>
    change (s.reads p answer).2.daemon = s.daemon
    unfold reads
    split
    · rfl
    · split <;> rfl
  | takes p =>
    obtain ⟨tasks, heq⟩ := s.exists_takes_eq p
    rw [heq]
    rfl
  | sends p answer =>
    obtain ⟨tasks, heq⟩ := s.exists_sends_eq p answer
    rw [heq]
    rfl
  | ends p =>
    obtain ⟨tasks, heq⟩ := s.exists_ends_eq p
    rw [heq]
    rfl
  | asks client => rfl
  | handles now =>
    change (s.handles now).2.daemon = _
    rw [handles, wake]
    rcases s.events with _ | ⟨⟨p, event⟩, events⟩ <;> rfl
  | sighup load => exact s.daemon_reload load
  | sigusr1 => rfl
  | ageSweep now => rfl
  | loopProbe => rfl
  | answers =>
    obtain ⟨requests, heq⟩ := s.exists_answers_eq
    rw [heq]
    rfl

/-- What a run does to the daemon is what some turns do. -/
theorem Process.exists_wakes (s : Process) (moves : List Move) :
    ∃ wakes, (processMachine.run s moves).daemon = daemonMachine.run s.daemon wakes := by
  obtain ⟨wakes, -, hwakes⟩ := Machine.exists_simulation (N := daemonMachine)
    (R := fun s d => s.daemon = d) (P := fun _ _ => True) (M := processMachine)
    (fun s d move hd => by
      subst hd
      refine ⟨(s.wake move).toList, fun _ _ => trivial, ?_⟩
      rw [s.daemon_next move]
      rcases s.wake move with _ | wake <;> rfl) (rfl : s.daemon = s.daemon) moves
  exact ⟨wakes, hwakes⟩

/-! ### The simulation -/

/-- **A process and the loop it simulates**: they agree on the daemon and on what waits,
the one has its accounts in order and the other is sound. -/
structure Process.Simulates (s : Process) (l : Loop) : Prop where
  daemon : s.daemon = l.daemon
  events : (s.events : Multiset (PortId × PortEvent)) = l.queue
  accounts : ∃ h, s.Accounts h
  sound : l.Sound

namespace Process.Simulates

variable {s : Process} {l : Loop}

/-- A port with tasks has a number that was handed out. -/
theorem mem_issued (h : s.Simulates l) {p : PortId} {t : Tasks}
    (ht : s.tasks.lookup p = some t) : p ∈ l.issued := by
  obtain ⟨_, hacc⟩ := h.accounts
  rw [h.sound.mem_issued, ← h.daemon]
  by_contra hnot
  have hfresh := ((hacc.line p).fresh (decide_eq_false hnot)).2.1
  have hsome : (s.line p).tasks = some t := ht
  rw [hfresh] at hsome
  cases hsome

/-- A move that is a turn of the loop. -/
theorem next_of_wake (h : s.Simulates l) {move : Move} {wake : Wake}
    (hwake : s.wake move = some wake) (hpossible : (Turn.wakes wake).Possible l)
    (hevents : ((processMachine.next s move).events : Multiset (PortId × PortEvent)) =
      wake.leaves l.queue) :
    (processMachine.next s move).Simulates (loopMachine.next l (.wakes wake)) where
  daemon := by
    rw [s.daemon_next move, hwake, h.daemon]
    rfl
  events := hevents
  accounts := by
    obtain ⟨history, hacc⟩ := h.accounts
    exact ⟨_, hacc.next move⟩
  sound := h.sound.next hpossible

/-- A move that the loop does not see. -/
theorem next_of_none (h : s.Simulates l) {move : Move} (hwake : s.wake move = none)
    (hevents : (processMachine.next s move).events = s.events) :
    (processMachine.next s move).Simulates l where
  daemon := by
    rw [s.daemon_next move, hwake, ← h.daemon]
    rfl
  events := by rw [hevents, h.events]
  accounts := by
    obtain ⟨history, hacc⟩ := h.accounts
    exact ⟨_, hacc.next move⟩
  sound := h.sound

/-- **A move of a reader is an arrival**, if the reader is running. -/
theorem exists_turns_reads (h : s.Simulates l) (p : PortId)
    (answer : Except IoError (List UInt8)) :
    ∃ turns, (∀ e ∈ loopMachine.trace l turns, e.2.Possible e.1) ∧
      (processMachine.next s (.reads p answer)).Simulates (loopMachine.run l turns) := by
  by_cases hreads : ∃ t, s.tasks.lookup p = some t ∧ t.reading = true
  · obtain ⟨t, ht, hreading⟩ := hreads
    have hmem := h.mem_issued ht
    have hpossible : (Turn.arrives p (readerStep answer).1).Possible l := hmem
    have hnext : (processMachine.next s (.reads p answer)).events =
        s.events ++ [(p, (readerStep answer).1)] := by
      change (s.reads p answer).2.events = _
      rw [reads, ht]
      dsimp only
      rw [if_pos hreading]
    refine ⟨[.arrives p (readerStep answer).1], by simpa using hpossible, ?_, ?_, ?_, ?_⟩
    · rw [s.daemon_next]
      exact h.daemon
    · rw [hnext]
      change _ = (p, (readerStep answer).1) ::ₘ l.queue
      rw [← h.events, ← Multiset.coe_add, add_comm]
      rfl
    · obtain ⟨history, hacc⟩ := h.accounts
      exact ⟨_, hacc.next _⟩
    · exact h.sound.next hpossible
  · refine ⟨[], fun e he => absurd he List.not_mem_nil, h.next_of_none rfl ?_⟩
    change (s.reads p answer).2.events = s.events
    rw [reads]
    rcases ht : s.tasks.lookup p with _ | t
    · rfl
    · dsimp only
      rw [if_neg fun hreading => hreads ⟨t, ht, hreading⟩]

/-- **When the loop takes an event, it is a turn.** -/
theorem exists_turns_handles (h : s.Simulates l) (now : Instant) :
    ∃ turns, (∀ e ∈ loopMachine.trace l turns, e.2.Possible e.1) ∧
      (processMachine.next s (.handles now)).Simulates (loopMachine.run l turns) := by
  rcases hevents : s.events with _ | ⟨⟨p, event⟩, events⟩
  · refine ⟨[], fun e he => absurd he List.not_mem_nil, h.next_of_none ?_ ?_⟩
    · rw [wake, hevents]
      rfl
    · change (s.handles now).2.events = s.events
      rw [handles, hevents]
      exact hevents
  · have hqueue := h.events
    rw [hevents] at hqueue
    have hpossible : (Turn.wakes (.event p event now)).Possible l := by
      change (p, event) ∈ l.queue
      rw [← hqueue]
      exact Multiset.mem_coe.mpr List.mem_cons_self
    refine ⟨[.wakes (.event p event now)], by simpa using hpossible, ?_⟩
    refine h.next_of_wake ?_ hpossible ?_
    · rw [wake, hevents]
      rfl
    · change ((s.handles now).2.events : Multiset (PortId × PortEvent)) =
        l.queue.erase (p, event)
      rw [handles, hevents, ← hqueue, ← Multiset.cons_coe, Multiset.erase_cons_head]

/-- **A move is matched by at most one turn of the loop, and one that is possible.** -/
theorem exists_turns (h : s.Simulates l) (move : Move) :
    ∃ turns, (∀ e ∈ loopMachine.trace l turns, e.2.Possible e.1) ∧
      (processMachine.next s move).Simulates (loopMachine.run l turns) := by
  have hnone : (processMachine.next s move).events = s.events → s.wake move = none →
      ∃ turns, (∀ e ∈ loopMachine.trace l turns, e.2.Possible e.1) ∧
        (processMachine.next s move).Simulates (loopMachine.run l turns) :=
    fun hevents hwake => ⟨[], fun e he => absurd he List.not_mem_nil,
      h.next_of_none hwake hevents⟩
  cases move with
  | reads p answer => exact h.exists_turns_reads p answer
  | takes p =>
    obtain ⟨tasks, heq⟩ := s.exists_takes_eq p
    exact hnone (by rw [heq]) rfl
  | sends p answer =>
    obtain ⟨tasks, heq⟩ := s.exists_sends_eq p answer
    exact hnone (by rw [heq]) rfl
  | ends p =>
    obtain ⟨tasks, heq⟩ := s.exists_ends_eq p
    exact hnone (by rw [heq]) rfl
  | asks client => exact hnone rfl rfl
  | handles now => exact h.exists_turns_handles now
  | sighup load =>
    have hpossible : (Turn.wakes (.sighup load)).Possible l := trivial
    refine ⟨[.wakes (.sighup load)], by simpa using hpossible, ?_⟩
    refine h.next_of_wake rfl hpossible ?_
    change ((s.reload load).events : Multiset (PortId × PortEvent)) = l.queue
    rw [events_reload, h.events]
  | sigusr1 => exact hnone rfl rfl
  | ageSweep now =>
    have hpossible : (Turn.wakes (.ageSweep now)).Possible l := trivial
    exact ⟨[.wakes (.ageSweep now)], by simpa using hpossible,
      h.next_of_wake rfl hpossible h.events⟩
  | loopProbe => exact hnone rfl rfl
  | answers =>
    obtain ⟨requests, heq⟩ := s.exists_answers_eq
    exact hnone (by rw [heq]) rfl

/-- A process that has begun simulates the loop after its start-up. -/
theorem start {probeId : UInt64} {specs : List (Spec × Tap)}
    (h₀ : startUp probeId specs = .ok s) :
    Daemon.startUp probeId specs = .ok s.daemon ∧ s.Simulates (Loop.start specs s.daemon) := by
  have hdaemon := (eq_respawnAll_of_spawnAll h₀).2
  refine ⟨hdaemon, rfl, ?_, ⟨[], Accounts.start h₀⟩, Loop.sound_start hdaemon⟩
  have hfifo := (Accounts.start h₀).fifo
  have hnil : s.events = [] := hfifo.symm
  rw [hnil]
  rfl

/-- **A run is matched by a run of the loop.** -/
theorem run (h : s.Simulates l) (moves : List Move) :
    ∃ turns, (∀ e ∈ loopMachine.trace l turns, e.2.Possible e.1) ∧
      (processMachine.run s moves).Simulates (loopMachine.run l turns) :=
  Machine.exists_simulation (P := fun l turn => Turn.Possible l turn)
    (fun _ _ move h => h.exists_turns move) h moves

end Process.Simulates

/-- **The process refines the loop.** Every run of the process from a start-up that
succeeded is matched by a run of the loop with its queue, from the same start-up, every
turn of which is possible: they end with the same daemon, and with the same events
waiting; and the tasks there are are those of ports whose numbers were handed out, no
number twice. -/
theorem process_refines_loop {probeId : UInt64} {specs : List (Spec × Tap)} {s₀ : Process}
    (h₀ : Process.startUp probeId specs = .ok s₀) (moves : List Move) {s : Process}
    (hs : s = processMachine.run s₀ moves) :
    ∃ d₀ turns l, Daemon.startUp probeId specs = .ok d₀ ∧
      (∀ e ∈ loopMachine.trace (Loop.start specs d₀) turns, e.2.Possible e.1) ∧
      l = loopMachine.run (Loop.start specs d₀) turns ∧
      s.daemon = l.daemon ∧ (s.events : Multiset (PortId × PortEvent)) = l.queue ∧
      l.issued.Nodup ∧ ∀ p ∈ s.tasks, p ∈ l.issued := by
  obtain ⟨hstart, hsim₀⟩ := Process.Simulates.start h₀
  obtain ⟨turns, hturns, hsim⟩ := hsim₀.run moves
  rw [← hs] at hsim
  refine ⟨s₀.daemon, turns, _, hstart, hturns, rfl, hsim.daemon, hsim.events,
    hsim.sound.nodup_issued, fun p hp => ?_⟩
  obtain ⟨t, ht⟩ := Finmap.mem_iff.mp hp
  exact hsim.mem_issued ht

/-- A reader reports and the loop takes what it reported. -/
theorem process_refines_loop_report :
    ∃ s₀ turns l, Process.startUp 7 [(⟨"tap0", .access 10⟩, ⟨true, true⟩)] = .ok s₀ ∧
      l = loopMachine.run (Loop.start [(⟨"tap0", .access 10⟩, ⟨true, true⟩)] s₀.daemon) turns ∧
      (processMachine.run s₀ [.reads ⟨0⟩ (.ok [1]), .handles 0]).daemon = l.daemon := by
  obtain ⟨d₀, turns, l, hd₀, -, hl, hdaemon, -⟩ :=
    @process_refines_loop 7 [(⟨"tap0", .access 10⟩, ⟨true, true⟩)] _ rfl
      [.reads ⟨0⟩ (.ok [1]), .handles 0] _ rfl
  obtain rfl := Except.ok.inj hd₀
  exact ⟨_, turns, l, rfl, hl, hdaemon⟩

/-! ### What the loop is known to do -/

/-- A daemon run retires what it retires for good, and stays reachable. -/
theorem Daemon.Retired.run {d : Daemon} {p : PortId} (h : d.Retired p) (wakes : List Wake) :
    (daemonMachine.run d wakes).Retired p :=
  daemonMachine.run_invariant (P := fun _ => True) (I := fun d => d.Retired p)
    (fun _ wake _ hd => hd.next wake) (fun _ _ => trivial) h

/-- **A reload ends what was there before it.** In a run of the process from a start-up
that succeeded, once a configuration is loaded, every port that had a handle until then
is gone for good, whatever follows: its device is neither read nor written again, and
nothing is offered to it. A `Down` that it had reported may still be taken, and does
nothing, as does any frame. -/
theorem torn_down_silent {probeId : UInt64} {specs : List (Spec × Tap)} {s₀ : Process}
    (h₀ : Process.startUp probeId specs = .ok s₀) {pre : List Move} {s : Process}
    (hs : s = processMachine.run s₀ pre) {p : PortId} (hp : p ∈ s.daemon.handles)
    (probeId' : UInt64) (specs' : List (Spec × Tap)) (post : List Move) {s' : Process}
    (hs' : s' = processMachine.run (s.reload (.loaded probeId' specs')) post) :
    (∀ e ∈ processMachine.history (s.reload (.loaded probeId' specs')) post, e.Concerns p →
      e = .handled p .down) ∧
    s'.tasks.lookup p = none ∧ p ∉ s'.daemon.handles ∧ p ∉ s'.daemon.switch.ports ∧
    ∀ event now, s'.daemon.handleFrameEvent p event now = ([], s'.daemon) := by
  have hacc : s.Accounts (processMachine.history s₀ pre) :=
    hs ▸ (Process.Accounts.start h₀).run pre
  -- the line of the port is down after the reload, and stays so
  have hdown := hacc.line_reload hp probeId' specs'
  obtain ⟨hline, hsilent⟩ :=
    (hacc.next (.sighup (.loaded probeId' specs'))).silent_of_down hdown post
  -- its number is retired in the daemon, which is one that the loop can reach
  have hretired := Daemon.retired_reload (hacc.issued hp) probeId' specs'
  rw [← s.daemon_reload] at hretired
  obtain ⟨wakes, hwakes⟩ := (s.reload (.loaded probeId' specs')).exists_wakes post
  have hretired' : s'.daemon.Retired p := by
    rw [hs', hwakes]
    exact hretired.run wakes
  obtain ⟨-, hsim₀⟩ := Process.Simulates.start h₀
  obtain ⟨turns, -, hsim⟩ := hsim₀.run (pre ++ .sighup (.loaded probeId' specs') :: post)
  rw [Machine.run_append, Machine.run_cons, ← hs] at hsim
  have hreach : Reachable s'.daemon.switch := by
    rw [hs', show s.reload (.loaded probeId' specs') =
      processMachine.next s (.sighup (.loaded probeId' specs')) from rfl, hsim.daemon]
    exact hsim.sound.reachable
  refine ⟨hsilent, ?_, hretired'.handle, hretired'.port,
    fun event now => hretired'.handleFrameEvent hreach event now⟩
  rw [hs']
  exact congrArg Line.tasks hline

/-- A port is gone after a reload that asks for the same device again. -/
theorem torn_down_silent_renewed :
    ∃ s₀ s, Process.startUp 7 [(⟨"tap0", .access 10⟩, ⟨true, true⟩)] = .ok s₀ ∧
      s = processMachine.run
        (s₀.reload (.loaded 8 [(⟨"tap0", .access 10⟩, ⟨true, true⟩)])) [.loopProbe] ∧
      s.tasks.lookup ⟨0⟩ = none :=
  ⟨_, _, rfl, rfl, (@torn_down_silent 7 [(⟨"tap0", .access 10⟩, ⟨true, true⟩)] _ rfl [] _ rfl
    ⟨0⟩ (by decide) 8 [(⟨"tap0", .access 10⟩, ⟨true, true⟩)] [.loopProbe] _ rfl).2.1⟩

end VlanSwitch
