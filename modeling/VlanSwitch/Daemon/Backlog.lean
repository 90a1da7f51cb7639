import VlanSwitch.Dashboard.Readings
import VlanSwitch.Lib.Settling

/-!
# The process works off its backlog

The tasks of the process wait for one another: the loop for the readers, a writer for the
loop, a connection of the dashboard for its reply. They cannot wait in a circle, though,
and what is there to be done comes to an end. An event is taken once, and puts at most one
frame into each queue; a frame that waits is taken by its writer, and then sent; a request
is answered; and a writer without a handle ends once. Counted like this, the backlog
(`VlanSwitch.Process.backlog`) goes down with every move the tasks make on their own, so the
process settles (`VlanSwitch.Process.settles`). In a state where none of these moves has an
effect any more (`VlanSwitch.Process.Drained`) there is nothing left that was accepted
anywhere, which together with the accounts of the channels says that all of it was dealt
with (`VlanSwitch.backlog_drains`).
-/

namespace VlanSwitch

/-! ### The backlog -/

/-- A move for which nothing has to come in: a task goes on with what it has. -/
def Move.Internal : Move → Prop
  | .takes _ => True
  | .sends _ _ => True
  | .ends _ => True
  | .handles _ => True
  | .answers => True
  | _ => False

instance : Inhabited Tasks := ⟨⟨"", false, false, .empty, none⟩⟩

/-- What is left for the writer of a port: to take and to send what waits, to send what it
has in its hand, and to end. -/
def Tasks.backlog (t : Tasks) : ℕ :=
  2 * t.outbound.items.length + t.hand.toList.length + if t.writing then 1 else 0

/-- **What is left for the process**: an event to be taken, with a frame for every port
that may come of it, what the writers have, and a request to be answered. -/
def Process.backlog (s : Process) : ℕ :=
  s.events.length * (1 + 2 * s.daemon.handles.card) + s.tasks.total Tasks.backlog +
    s.requests.length

theorem Daemon.card_handles_handleFrameEvent_le (d : Daemon) (ingress : PortId)
    (event : PortEvent) (now : Instant) :
    (d.handleFrameEvent ingress event now).2.handles.card ≤ d.handles.card := by
  rcases d.handleFrameEvent_snd ingress event now with ⟨-, heq⟩ | heq | ⟨frame, heq⟩
  · rw [heq]
    exact Finset.card_le_card (Finset.erase_subset _ _)
  · rw [heq]
  · rw [heq]

namespace Process

/-- At most one frame for each handle is offered at a time. -/
theorem length_offers_le (s : Process) (move : Move) :
    (s.offers move).length ≤ s.daemon.handles.card := by
  obtain ⟨hhandle, hnodup⟩ := s.offers_sound move
  have hcard := List.toFinset_card_of_nodup hnodup
  rw [List.length_map] at hcard
  rw [← hcard]
  refine Finset.card_le_card fun p hp => ?_
  obtain ⟨d, hd, rfl⟩ := List.mem_map.mp (List.mem_toFinset.mp hp)
  exact hhandle d hd

/-! ### Every move brings it down -/

theorem total_insert {tasks : Finmap fun _ : PortId => Tasks} {p : PortId} {t : Tasks}
    (h : tasks.lookup p = some t) (t' : Tasks) :
    (tasks.insert p t').total Tasks.backlog + t.backlog =
      tasks.total Tasks.backlog + t'.backlog := by
  have hvalue : tasks.getOrDefault p = t := by rw [Finmap.getOrDefault, h, Option.getD_some]
  rw [← hvalue]
  exact Finmap.total_insert rfl p t' tasks

/-- A frame that is offered is two moves for its writer. -/
theorem total_trySend_le (tasks : Finmap fun _ : PortId => Tasks) (d : Delivery) :
    (trySend tasks d).2.total Tasks.backlog ≤ tasks.total Tasks.backlog + 2 := by
  rcases trySend_cases tasks d with ⟨-, heq⟩ | ⟨t, outbound, ht, hitems, heq⟩ | ⟨t, -, -, heq⟩
  · rw [heq]
    exact Nat.le_add_right _ 2
  · rw [heq]
    have htotal := total_insert ht { t with outbound }
    simp only [Tasks.backlog, hitems, List.length_append, List.length_singleton] at htotal ⊢
    omega
  · rw [heq]
    exact Nat.le_add_right _ 2

theorem total_trySendAll_le (tasks : Finmap fun _ : PortId => Tasks) (ds : List Delivery) :
    (trySendAll tasks ds).2.total Tasks.backlog ≤ tasks.total Tasks.backlog + 2 * ds.length := by
  induction ds generalizing tasks with
  | nil => exact le_rfl
  | cons d ds ih =>
    have hfirst := total_trySend_le tasks d
    have hrest := ih (trySend tasks d).2
    rw [List.length_cons]
    exact hrest.trans (by omega)

theorem settles_takes (s : Process) (p : PortId) :
    (s.takes p).2 = s ∨ (s.takes p).2.backlog < s.backlog := by
  unfold takes
  split
  · exact Or.inl rfl
  · next t ht =>
    split
    · next bytes outbound hhand hrecv =>
      have htotal := total_insert ht { t with outbound, hand := some bytes }
      have hitems := congrArg List.length (Channel.items_of_recv hrecv)
      right
      simp only [backlog, Tasks.backlog, hhand, List.length_cons, Option.toList_some,
        Option.toList_none, List.length_nil] at htotal hitems ⊢
      omega
    · exact Or.inl rfl

theorem settles_sends (s : Process) (p : PortId) (answer : Except IoError ℕ) :
    (s.sends p answer).2 = s ∨ (s.sends p answer).2.backlog < s.backlog := by
  unfold sends
  split
  · exact Or.inl rfl
  · next t ht =>
    split
    · exact Or.inl rfl
    · next bytes hhand =>
      have htotal := total_insert ht { t with hand := none }
      right
      simp only [backlog, Tasks.backlog, hhand, List.length_cons, Option.toList_some,
        Option.toList_none, List.length_nil] at htotal ⊢
      omega

theorem settles_ends (s : Process) (p : PortId) :
    (s.ends p).2 = s ∨ (s.ends p).2.backlog < s.backlog := by
  unfold ends
  split
  · exact Or.inl rfl
  · next t ht =>
    split
    · next hends =>
      have htotal := total_insert ht { t with writing := false }
      right
      simp only [backlog, Tasks.backlog, hends.1, if_true, Bool.false_eq_true, if_false]
        at htotal ⊢
      omega
    · exact Or.inl rfl

/-- An event pays for the frames that come of it. -/
theorem settles_handles (s : Process) (now : Instant) :
    (s.handles now).2 = s ∨ (s.handles now).2.backlog < s.backlog := by
  have hlength := s.length_offers_le (.handles now)
  have hoffered := total_trySendAll_le s.tasks (s.offers (.handles now))
  obtain ⟨daemon, tasks, events, requests⟩ := s
  rcases events with _ | ⟨⟨ingress, event⟩, events⟩
  · exact Or.inl rfl
  · right
    have hcard := daemon.card_handles_handleFrameEvent_le ingress event now
    dsimp only [offers] at hlength hoffered
    have hevents := Nat.mul_le_mul_left events.length
      (Nat.add_le_add_left (Nat.mul_le_mul_left 2 hcard) 1)
    simp only [handles, backlog, List.length_cons]
    rw [Nat.add_mul, Nat.one_mul]
    omega

theorem settles_answers (s : Process) : s.answers.2 = s ∨ s.answers.2.backlog < s.backlog := by
  obtain ⟨daemon, tasks, events, requests⟩ := s
  rcases requests with _ | ⟨client, requests⟩
  · exact Or.inl rfl
  · exact Or.inr (Nat.lt_succ_self _)

/-- **Every move the tasks make on their own brings the backlog down**, unless it does
nothing. -/
theorem settles : processMachine.Settles Move.Internal backlog := by
  intro s move h
  cases move with
  | takes p => exact s.settles_takes p
  | sends p answer => exact s.settles_sends p answer
  | ends p => exact s.settles_ends p
  | handles now => exact s.settles_handles now
  | answers => exact s.settles_answers
  | _ => exact h.elim

/-! ### What is left in the end -/

/-- **Nothing is left to be done**: no event waits, no request, and no frame, and every
writer that is running has a handle. -/
structure Drained (s : Process) : Prop where
  events : s.events = []
  requests : s.requests = []
  hand : ∀ p t, s.tasks.lookup p = some t → t.hand = none
  outbound : ∀ p t, s.tasks.lookup p = some t → t.outbound.items = []
  writing : ∀ p t, s.tasks.lookup p = some t → t.writing = true → p ∈ s.daemon.handles

section Settled

variable {s : Process} (h : processMachine.Settled Move.Internal s) {p : PortId} {t t' : Tasks}
include h

omit h in
/-- A move that puts other tasks for a port does something. -/
theorem eq_of_insert_eq (ht : s.tasks.lookup p = some t)
    (hsame : { s with tasks := s.tasks.insert p t' } = s) : t' = t := by
  have htasks : s.tasks.insert p t' = s.tasks := congrArg Process.tasks hsame
  have hlookup := congrArg (Finmap.lookup p) htasks
  rw [Finmap.lookup_insert, ht] at hlookup
  exact Option.some.inj hlookup

/-- A writer with a frame in its hand could send it. -/
theorem hand_eq_none_of_settled (ht : s.tasks.lookup p = some t) : t.hand = none := by
  rcases hsome : t.hand with _ | bytes
  · rfl
  · have hnext : (s.sends p (.ok 0)).2 = s := h (.sends p (.ok 0)) trivial
    rw [sends, ht] at hnext
    dsimp only at hnext
    rw [hsome] at hnext
    have hhand := congrArg Tasks.hand (eq_of_insert_eq ht hnext)
    rw [hsome] at hhand
    cases hhand

/-- A writer with nothing in its hand could take what waits. -/
theorem items_eq_nil_of_settled (ht : s.tasks.lookup p = some t) : t.outbound.items = [] := by
  have hnone := hand_eq_none_of_settled h ht
  rw [← Channel.recv_eq_none]
  rcases hrecv : t.outbound.recv with _ | ⟨bytes, outbound⟩
  · rfl
  · have hnext : (s.takes p).2 = s := h (.takes p) trivial
    rw [takes, ht] at hnext
    dsimp only at hnext
    rw [hnone, hrecv] at hnext
    have hhand := congrArg Tasks.hand (eq_of_insert_eq ht hnext)
    rw [hnone] at hhand
    cases hhand

/-- A writer with nothing to do and no handle could end. -/
theorem mem_handles_of_settled (ht : s.tasks.lookup p = some t) (hwriting : t.writing = true) :
    p ∈ s.daemon.handles := by
  by_contra hhandle
  have hrecv := Channel.recv_eq_none.mpr (items_eq_nil_of_settled h ht)
  have hnext : (s.ends p).2 = s := h (.ends p) trivial
  rw [ends, ht] at hnext
  dsimp only at hnext
  rw [if_pos ⟨hwriting, hand_eq_none_of_settled h ht, hrecv, hhandle⟩] at hnext
  have hended := congrArg Tasks.writing (eq_of_insert_eq ht hnext)
  rw [hwriting] at hended
  cases hended

/-- The loop could take an event. -/
theorem events_eq_nil_of_settled : s.events = [] := by
  rcases hevents : s.events with _ | ⟨⟨ingress, event⟩, events⟩
  · rfl
  · have hnext : (s.handles 0).2 = s := h (.handles 0) trivial
    have hlength := congrArg (fun s => s.events.length) hnext
    rw [handles, hevents] at hlength
    dsimp only at hlength
    rw [List.length_cons] at hlength
    omega

/-- The loop could reply to a request. -/
theorem requests_eq_nil_of_settled : s.requests = [] := by
  rcases hrequests : s.requests with _ | ⟨client, requests⟩
  · rfl
  · have hnext : s.answers.2 = s := h .answers trivial
    have hlength := congrArg (fun s => s.requests.length) hnext
    rw [answers, hrequests] at hlength
    dsimp only at hlength
    rw [List.length_cons] at hlength
    omega

/-- **Where no move has an effect**, nothing is left. -/
theorem drained_of_settled : s.Drained where
  events := events_eq_nil_of_settled h
  requests := requests_eq_nil_of_settled h
  hand _ _ ht := hand_eq_none_of_settled h ht
  outbound _ _ ht := items_eq_nil_of_settled h ht
  writing _ _ ht := mem_handles_of_settled h ht

end Settled

end Process

/-- **The process works off its backlog.** In a run of the process from a start-up that
succeeded, at any moment, let nothing come in from outside any more: let the tasks only go
on with what they have, in any order. Then they make no more moves that have an effect than
the backlog says; they can go on until none has any; and whenever they have come to that,
every event that a reader ever reported has been taken by the loop, every request has been
replied to, in order, every frame that was put into the queue of a port that still has its
tasks was given to its device, and such a port has a handle exactly if its reader is
running, and exactly if its writer is. -/
theorem backlog_drains {probeId : UInt64} {specs : List (Spec × Tap)} {s₀ : Process}
    (h₀ : Process.startUp probeId specs = .ok s₀) (pre : List Move) {s : Process}
    (hs : s = processMachine.run s₀ pre) :
    (∀ work, (∀ move ∈ work, move.Internal) → processMachine.Busy s work →
      work.length ≤ s.backlog) ∧
    (∃ work, (∀ move ∈ work, move.Internal) ∧ processMachine.Busy s work ∧
      processMachine.Settled Move.Internal (processMachine.run s work)) ∧
    ∀ work s' h, s' = processMachine.run s work → h = processMachine.history s₀ (pre ++ work) →
      processMachine.Settled Move.Internal s' →
        reported h = handled h ∧ asked h = (replied h).map Prod.fst ∧
        ∀ p t, s'.tasks.lookup p = some t → queued p h = sent p h ∧
          (p ∈ s'.daemon.handles ↔ t.reading = true) ∧
          (p ∈ s'.daemon.handles ↔ t.writing = true) := by
  subst hs
  refine ⟨fun work hwork hbusy => ?_, Process.settles.exists_settled _, ?_⟩
  · exact (Nat.le_add_right _ _).trans (Process.settles.length_le hwork hbusy)
  · rintro work s' h rfl rfl hsettled
    have hdrained := Process.drained_of_settled hsettled
    have hacc := (Process.Accounts.start h₀).run (pre ++ work)
    have horder := Process.inOrder_run (Process.requests_startUp h₀).1 (pre ++ work)
    rw [Machine.run_append] at hacc horder
    refine ⟨?_, ?_, fun p t ht => ⟨?_, ?_, fun hp => ?_, hdrained.writing p t ht⟩⟩
    · have hfifo := hacc.fifo
      rw [hdrained.events, List.append_nil] at hfifo
      exact hfifo
    · rw [hdrained.requests, List.append_nil] at horder
      exact horder
    · rw [(hacc.line p).outbound t ht, hdrained.hand p t ht, hdrained.outbound p t ht]
      exact List.append_nil _
    · have hnone : (p, .down) ∉ (processMachine.run (processMachine.run s₀ pre) work).events := by
        rw [hdrained.events]
        exact List.not_mem_nil
      rw [hacc.mem_handles_iff hnone, ht]
      simp only [Option.some.injEq, exists_eq_left']
    · obtain ⟨-, t', ht', hwriting⟩ := (hacc.line p).handle (decide_eq_true hp)
      obtain rfl := Option.some.inj (ht.symm.trans ht')
      exact hwriting

/-- A frame was read, and is dealt with. -/
theorem backlog_drains_frame :
    ∃ s₀ work, Process.startUp 7 [(⟨"tap0", .access 10⟩, ⟨true, true⟩)] = .ok s₀ ∧
      (∀ move ∈ work, move.Internal) ∧
      handled (processMachine.history s₀
        ([.reads ⟨0⟩ (.ok (hostFrame 1 2).wireBytes)] ++ work)) =
          reported (processMachine.history s₀
            ([.reads ⟨0⟩ (.ok (hostFrame 1 2).wireBytes)] ++ work)) := by
  obtain ⟨-, ⟨work, hwork, -, hsettled⟩, hdone⟩ :=
    @backlog_drains 7 [(⟨"tap0", .access 10⟩, ⟨true, true⟩)] _ rfl
      [.reads ⟨0⟩ (.ok (hostFrame 1 2).wireBytes)] _ rfl
  exact ⟨_, work, rfl, hwork, (hdone work _ _ rfl rfl hsettled).1.symm⟩

end VlanSwitch
