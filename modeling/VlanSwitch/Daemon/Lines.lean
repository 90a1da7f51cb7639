import VlanSwitch.Daemon.Process
import VlanSwitch.Daemon.Stale
import VlanSwitch.Switch.Egress

/-!
# The process, port by port

A move of the process concerns one port, or offers frames to several, or replaces them
all. What it does to a given port is one of few things whatever move it is, and they are
listed once, as the steps of what the process has for the port
(`VlanSwitch.Line.Step`): its number, its handle, and its tasks. Everything that is
proved about the tasks goes by cases on that list (`VlanSwitch.Process.line_step`).

The state of the loop itself is that of the daemon: spawning and reloading do to it what
they do without tasks (`VlanSwitch.Process.respawnAll_eq`,
`VlanSwitch.Process.daemon_reload`).

The frames that a move offers to the writers (`VlanSwitch.Process.offers`) go to different
ports, all of them with a handle, so each is offered to the queue as it was before the
move: it is queued if there is room, and else dropped (`VlanSwitch.Process.offers_iff`).
Whatever else happens has a cause of its own (`VlanSwitch.Process.causes_of_mem_out`).
-/

namespace VlanSwitch

/-! ### What happened on a port -/

namespace Happening

/-- The event that a reader reported. -/
def reportedEvent : Happening → Option (PortId × PortEvent)
  | .reported p event => some (p, event)
  | _ => none

/-- The event that the loop took. -/
def handledEvent : Happening → Option (PortId × PortEvent)
  | .handled p event => some (p, event)
  | _ => none

/-- The frame that was put into the queue of `p`. -/
def queuedOn (p : PortId) : Happening → Option (List UInt8)
  | .queued q bytes => if q = p then some bytes else none
  | _ => none

/-- The frame that the writer of `p` gave to its device. -/
def sentOn (p : PortId) : Happening → Option (List UInt8)
  | .sent q bytes _ => if q = p then some bytes else none
  | _ => none

/-- It is about the port `p` or its tasks. The frames of a port that the loop takes are
not: by then the port may be gone. -/
def Concerns (p : PortId) : Happening → Prop
  | .reported q _ | .handled q .down | .queued q _ | .dropped q _ | .sent q _ _ | .ended q => q = p
  | _ => False

end Happening

/-- The events that readers reported, in order. -/
def reported (h : List Happening) : List (PortId × PortEvent) :=
  h.filterMap Happening.reportedEvent

/-- The events that the loop took, in order. -/
def handled (h : List Happening) : List (PortId × PortEvent) :=
  h.filterMap Happening.handledEvent

/-- The frames that were put into the queue of a port, in order. -/
def queued (p : PortId) (h : List Happening) : List (List UInt8) :=
  h.filterMap (Happening.queuedOn p)

/-- The frames that the writer of a port gave to its device, in order. -/
def sent (p : PortId) (h : List Happening) : List (List UInt8) :=
  h.filterMap (Happening.sentOn p)

@[simp] theorem reported_append (h h' : List Happening) :
    reported (h ++ h') = reported h ++ reported h' := List.filterMap_append

@[simp] theorem handled_append (h h' : List Happening) :
    handled (h ++ h') = handled h ++ handled h' := List.filterMap_append

@[simp] theorem queued_append (p : PortId) (h h' : List Happening) :
    queued p (h ++ h') = queued p h ++ queued p h' := List.filterMap_append

@[simp] theorem sent_append (p : PortId) (h h' : List Happening) :
    sent p (h ++ h') = sent p h ++ sent p h' := List.filterMap_append

theorem mem_reported {p : PortId} {event : PortEvent} {h : List Happening} :
    (p, event) ∈ reported h ↔ .reported p event ∈ h := by
  rw [reported, List.mem_filterMap]
  constructor
  · rintro ⟨e, he, heq⟩
    cases e <;> cases heq
    exact he
  · exact fun he => ⟨_, he, rfl⟩

theorem mem_handled {p : PortId} {event : PortEvent} {h : List Happening} :
    (p, event) ∈ handled h ↔ .handled p event ∈ h := by
  rw [handled, List.mem_filterMap]
  constructor
  · rintro ⟨e, he, heq⟩
    cases e <;> cases heq
    exact he
  · exact fun he => ⟨_, he, rfl⟩

/-- **Nothing of it is about the port `p`.** -/
def Quiet (p : PortId) (o : List Happening) : Prop := ∀ e ∈ o, ¬e.Concerns p

section Quiet

variable {p : PortId} {o o' : List Happening}

@[simp] theorem quiet_nil : Quiet p [] := fun _ he => absurd he List.not_mem_nil

@[simp] theorem quiet_cons {e : Happening} : Quiet p (e :: o) ↔ ¬e.Concerns p ∧ Quiet p o :=
  List.forall_mem_cons

theorem Quiet.append (h : Quiet p o) (h' : Quiet p o') : Quiet p (o ++ o') := fun e he =>
  (List.mem_append.mp he).elim (h e) (h' e)

theorem Quiet.queued (h : Quiet p o) : queued p o = [] := by
  refine List.filterMap_eq_nil_iff.mpr fun e he => ?_
  rcases e with _ | _ | ⟨q, bytes⟩ | _ | _ | _ | _ | _ | _ <;> try rfl
  exact if_neg (h _ he)

theorem Quiet.sent (h : Quiet p o) : sent p o = [] := by
  refine List.filterMap_eq_nil_iff.mpr fun e he => ?_
  rcases e with _ | _ | _ | _ | ⟨q, bytes, answer⟩ | _ | _ | _ | _ <;> try rfl
  exact if_neg (h _ he)

theorem Quiet.notMem {e : Happening} (h : Quiet p o) (he : e.Concerns p) : e ∉ o :=
  fun hmem => h e hmem he

/-- All that is about the port `p` is that frames are offered to it. -/
def OffersOnly (p : PortId) (o : List Happening) : Prop :=
  ∀ e ∈ o, e.Concerns p → ∃ bytes, e = .queued p bytes ∨ e = .dropped p bytes

theorem OffersOnly.notMem (h : OffersOnly p o) {e : Happening} (he : e.Concerns p)
    (hqueued : ∀ bytes, e ≠ .queued p bytes) (hdropped : ∀ bytes, e ≠ .dropped p bytes) :
    e ∉ o := fun hmem => by
  obtain ⟨bytes, heq | heq⟩ := h e hmem he
  · exact hqueued bytes heq
  · exact hdropped bytes heq

end Quiet

/-! ### Spawning -/

/-- The tasks after an attempt to spawn a port. -/
def Attempt.launch (tasks : Finmap fun _ : PortId => Tasks) (a : Attempt) :
    Finmap fun _ : PortId => Tasks :=
  if a.Succeeds then tasks.insert a.port (Tasks.spawned a.spec.name) else tasks

/-- Attempts on other ports leave the tasks of a port alone. -/
theorem Attempt.lookup_foldl_launch_of_ne {tasks : Finmap fun _ : PortId => Tasks}
    {attempts : List Attempt} {p : PortId} (h : ∀ a ∈ attempts, a.Succeeds → a.port ≠ p) :
    (attempts.foldl Attempt.launch tasks).lookup p = tasks.lookup p := by
  induction attempts generalizing tasks with
  | nil => rfl
  | cons a attempts ih =>
    rw [List.forall_mem_cons] at h
    refine (ih h.2).trans ?_
    rw [launch]
    split
    · next hok => exact Finmap.lookup_insert_of_ne _ (h.1 hok).symm
    · rfl

/-- A port that was spawned has the tasks it was spawned with. -/
theorem Attempt.lookup_foldl_launch_of_mem {tasks : Finmap fun _ : PortId => Tasks}
    {attempts : List Attempt} {p : PortId} (h : ∃ a ∈ attempts, a.port = p ∧ a.Succeeds) :
    ∃ a ∈ attempts, a.port = p ∧ a.Succeeds ∧
      (attempts.foldl Attempt.launch tasks).lookup p = some (Tasks.spawned a.spec.name) := by
  induction attempts generalizing tasks with
  | nil =>
    obtain ⟨a, ha, -⟩ := h
    exact absurd ha List.not_mem_nil
  | cons a attempts ih =>
    by_cases hlater : ∃ b ∈ attempts, b.port = p ∧ b.Succeeds
    · obtain ⟨b, hb, hrest⟩ := ih hlater
      exact ⟨b, List.mem_cons_of_mem a hb, hrest⟩
    · obtain ⟨b, hb, rfl, hok⟩ := h
      -- it is the first attempt that spawned the port, and none of the others did
      rcases List.mem_cons.mp hb with rfl | hb
      · refine ⟨b, List.mem_cons_self, rfl, hok, ?_⟩
        refine (lookup_foldl_launch_of_ne fun c hc hcok heq => hlater ⟨c, hc, heq, hcok⟩).trans ?_
        rw [launch, if_pos hok]
        exact Finmap.lookup_insert _
      · exact absurd ⟨b, hb, rfl, hok⟩ hlater

namespace Process

theorem respawnAll_of_error {s : Process} {e : AllocError} (h : s.daemon.portIds.next = .error e)
    (specs : List (Spec × Tap)) : s.respawnAll specs = s := by
  rcases specs with _ | ⟨⟨spec, tap⟩, specs⟩
  · rfl
  · rw [respawnAll, h]

/-- The process after an attempt to spawn a port. -/
def afterAttempt (s : Process) (a : Attempt) (portIds : PortIdAllocator) : Process :=
  { s with daemon := s.daemon.afterAttempt a portIds, tasks := a.launch s.tasks }

theorem respawnAll_cons {s : Process} {port : PortId} {portIds : PortIdAllocator}
    (h : s.daemon.portIds.next = .ok (port, portIds)) (spec : Spec × Tap)
    (specs : List (Spec × Tap)) :
    s.respawnAll (spec :: specs) =
      (s.afterAttempt ⟨port, spec.1, spec.2⟩ portIds).respawnAll specs := by
  obtain ⟨spec, opened, named⟩ := spec
  rw [respawnAll, h]
  rcases opened with _ | _ <;> rcases named with _ | _ <;> rfl

/-- **Respawning does to the daemon what it does without tasks**, and spawns tasks for
each port that gets a handle; the channels into the loop are left alone. -/
theorem respawnAll_eq (s : Process) (specs : List (Spec × Tap)) :
    s.respawnAll specs =
      { s with
        daemon := s.daemon.respawnAll specs
        tasks := (attempts s.daemon.portIds specs).foldl Attempt.launch s.tasks } := by
  induction specs generalizing s with
  | nil => rfl
  | cons spec specs ih =>
    rcases hnext : s.daemon.portIds.next with e | ⟨port, portIds⟩
    · rw [respawnAll_of_error hnext, Daemon.respawnAll_of_error hnext, attempts_of_error hnext]
      rfl
    · rw [respawnAll_cons hnext, Daemon.respawnAll_cons hnext, attempts_cons hnext, ih]
      rfl

theorem daemon_reload (s : Process) (load : Load) :
    (s.reload load).daemon = s.daemon.reload load := by
  rcases load with _ | _ | ⟨probeId, specs⟩
  · rfl
  · rfl
  · rw [reload, respawnAll_eq]
    rfl

theorem tasks_reload (s : Process) (probeId : UInt64) (specs : List (Spec × Tap)) :
    (s.reload (.loaded probeId specs)).tasks =
      (attempts s.daemon.portIds specs).foldl Attempt.launch s.teardown := by
  rw [reload, respawnAll_eq]

theorem events_reload (s : Process) (load : Load) : (s.reload load).events = s.events := by
  rcases load with _ | _ | ⟨probeId, specs⟩
  · rfl
  · rfl
  · rw [reload, respawnAll_eq]

/-- A start-up that succeeds spawns as a reload does, and as the daemon does without
tasks. -/
theorem eq_respawnAll_of_spawnAll {s s' : Process} {specs : List (Spec × Tap)}
    (h : s.spawnAll specs = .ok s') :
    s' = s.respawnAll specs ∧ s.daemon.spawnAll specs = .ok s'.daemon := by
  induction specs generalizing s with
  | nil =>
    obtain rfl := Except.ok.inj h
    exact ⟨rfl, rfl⟩
  | cons spec specs ih =>
    obtain ⟨spec, opened, named⟩ := spec
    rcases hnext : s.daemon.portIds.next with e | ⟨port, portIds⟩
    · rw [spawnAll, hnext] at h
      cases h
    · rw [spawnAll, hnext] at h
      rw [respawnAll_cons hnext, Daemon.spawnAll, hnext]
      rcases opened with _ | _
      · cases h
      · rcases named with _ | _
        · cases h
        · exact ih h

/-! ### Offering frames -/

/-- What becomes of a frame that is offered: nothing if its port has no tasks, else it
is queued, or dropped if the queue is full. -/
theorem trySend_cases (tasks : Finmap fun _ : PortId => Tasks) (d : Delivery) :
    (tasks.lookup d.port = none ∧ trySend tasks d = ([], tasks)) ∨
      (∃ t outbound, tasks.lookup d.port = some t ∧
        outbound.items = t.outbound.items ++ [d.bytes] ∧
        trySend tasks d =
          ([.queued d.port d.bytes], tasks.insert d.port { t with outbound })) ∨
      ∃ t, tasks.lookup d.port = some t ∧ t.outbound.items.length = outboundQueueDepth ∧
        trySend tasks d = ([.dropped d.port d.bytes], tasks) := by
  rw [trySend]
  rcases hlookup : tasks.lookup d.port with _ | t
  · exact Or.inl ⟨rfl, rfl⟩
  · dsimp only
    rcases hsend : t.outbound.trySend d.bytes with _ | outbound
    · exact Or.inr (Or.inr ⟨t, rfl, Channel.trySend_eq_none.mp hsend, rfl⟩)
    · exact Or.inr (Or.inl ⟨t, outbound, rfl, Channel.items_of_trySend hsend, rfl⟩)

theorem fst_trySendAll_cons (tasks : Finmap fun _ : PortId => Tasks) (d : Delivery)
    (ds : List Delivery) : (trySendAll tasks (d :: ds)).1 =
      (trySend tasks d).1 ++ (trySendAll (trySend tasks d).2 ds).1 := rfl

theorem mem_trySend {tasks : Finmap fun _ : PortId => Tasks} {d : Delivery} {e : Happening}
    (h : e ∈ (trySend tasks d).1) : e = .queued d.port d.bytes ∨ e = .dropped d.port d.bytes := by
  rcases trySend_cases tasks d with ⟨-, heq⟩ | ⟨t, outbound, -, -, heq⟩ | ⟨t, -, -, heq⟩
  · rw [heq] at h
    exact absurd h List.not_mem_nil
  · rw [heq] at h
    exact Or.inl (List.mem_singleton.mp h)
  · rw [heq] at h
    exact Or.inr (List.mem_singleton.mp h)

/-- What happens when frames are offered is about the ports they are offered to. -/
theorem mem_trySendAll {tasks : Finmap fun _ : PortId => Tasks} {ds : List Delivery}
    {e : Happening} (h : e ∈ (trySendAll tasks ds).1) :
    ∃ d ∈ ds, e = .queued d.port d.bytes ∨ e = .dropped d.port d.bytes := by
  induction ds generalizing tasks with
  | nil => exact absurd h List.not_mem_nil
  | cons d ds ih =>
    rw [fst_trySendAll_cons] at h
    rcases List.mem_append.mp h with he | he
    · exact ⟨d, List.mem_cons_self, mem_trySend he⟩
    · obtain ⟨d', hd', he'⟩ := ih he
      exact ⟨d', List.mem_cons_of_mem d hd', he'⟩

/-- Frames offered to other ports are not about the port `p`. -/
theorem quiet_trySendAll {tasks : Finmap fun _ : PortId => Tasks} {ds : List Delivery}
    {p : PortId} (h : ∀ d ∈ ds, d.port ≠ p) : Quiet p (trySendAll tasks ds).1 := by
  intro e he hconcerns
  obtain ⟨d, hd, rfl | rfl⟩ := mem_trySendAll he
  · exact h d hd hconcerns
  · exact h d hd hconcerns

/-- Offering a frame to one port leaves another alone. -/
theorem lookup_trySend_of_ne {tasks : Finmap fun _ : PortId => Tasks} {d : Delivery} {p : PortId}
    (h : d.port ≠ p) : (trySend tasks d).2.lookup p = tasks.lookup p := by
  rcases trySend_cases tasks d with ⟨-, heq⟩ | ⟨t, outbound, -, -, heq⟩ | ⟨t, -, -, heq⟩
  · rw [heq]
  · rw [heq]
    exact Finmap.lookup_insert_of_ne _ h.symm
  · rw [heq]

theorem lookup_trySendAll_of_ne {tasks : Finmap fun _ : PortId => Tasks} {ds : List Delivery}
    {p : PortId} (h : ∀ d ∈ ds, d.port ≠ p) :
    (trySendAll tasks ds).2.lookup p = tasks.lookup p := by
  induction ds generalizing tasks with
  | nil => rfl
  | cons d ds ih =>
    rw [List.forall_mem_cons] at h
    exact (ih h.2).trans (lookup_trySend_of_ne h.1)

/-- What is true of the line of a port when frames have been offered to it. -/
structure Offered (p : PortId) (t : Tasks) (o : List Happening) (t' : Tasks) : Prop where
  rest : t' = { t with outbound := t'.outbound }
  items : t'.outbound.items = t.outbound.items ++ queued p o

/-- What is not about a port offers nothing to it. -/
theorem Offered.of_quiet {p : PortId} (t : Tasks) {o : List Happening} (h : Quiet p o) :
    Offered p t o t := by
  refine ⟨rfl, ?_⟩
  rw [h.queued, List.append_nil]

theorem Offered.trans {p : PortId} {t t' t'' : Tasks} {o o' : List Happening}
    (h : Offered p t o t') (h' : Offered p t' o' t'') : Offered p t (o ++ o') t'' := by
  refine ⟨?_, ?_⟩
  · rw [h'.rest, h.rest]
  · rw [h'.items, h.items, queued_append, List.append_assoc]

/-- A frame offered to another port is not about the port `p`. -/
theorem quiet_trySend {tasks : Finmap fun _ : PortId => Tasks} {d : Delivery} {p : PortId}
    (h : d.port ≠ p) : Quiet p (trySend tasks d).1 := by
  intro e he hconcerns
  rcases mem_trySend he with rfl | rfl
  · exact h hconcerns
  · exact h hconcerns

/-- Offering a frame puts it at the end of its port's queue, unless the queue is full. -/
theorem lookup_trySend {tasks : Finmap fun _ : PortId => Tasks} {p : PortId} {t : Tasks}
    (h : tasks.lookup p = some t) (d : Delivery) :
    ∃ t', (trySend tasks d).2.lookup p = some t' ∧ Offered p t (trySend tasks d).1 t' := by
  by_cases hp : d.port = p
  · subst hp
    rcases trySend_cases tasks d with ⟨hnone, -⟩ | ⟨t', outbound, ht', hitems, heq⟩ |
        ⟨t', -, -, heq⟩
    · rw [h] at hnone
      cases hnone
    · obtain rfl := Option.some.inj (h.symm.trans ht')
      rw [heq]
      refine ⟨{ t with outbound }, Finmap.lookup_insert _, rfl, ?_⟩
      rw [hitems, queued, List.filterMap_cons, Happening.queuedOn, if_pos rfl, List.filterMap_nil]
    · rw [heq]
      exact ⟨t, h, rfl, (List.append_nil _).symm⟩
  · exact ⟨t, (lookup_trySend_of_ne hp).trans h, Offered.of_quiet t (quiet_trySend hp)⟩

/-- **Offering frames to a port** puts what it reports as queued at the end of the
port's queue. -/
theorem lookup_trySendAll {tasks : Finmap fun _ : PortId => Tasks} {p : PortId} {t : Tasks}
    (h : tasks.lookup p = some t) (ds : List Delivery) :
    ∃ t', (trySendAll tasks ds).2.lookup p = some t' ∧
      Offered p t (trySendAll tasks ds).1 t' := by
  induction ds generalizing tasks t with
  | nil => exact ⟨t, h, rfl, (List.append_nil _).symm⟩
  | cons d ds ih =>
    obtain ⟨t', ht', hoffered⟩ := lookup_trySend h d
    obtain ⟨t'', ht'', hoffered'⟩ := ih ht'
    exact ⟨t'', ht'', hoffered.trans hoffered'⟩

theorem filterMap_deliver (d : Daemon) (ds : List Delivery) :
    ds.filterMap d.deliver = ds.filter fun delivery => delivery.port ∈ d.handles := by
  induction ds with
  | nil => rfl
  | cons delivery ds ih =>
    by_cases h : delivery.port ∈ d.handles
    · have hsome : d.deliver delivery = some delivery := if_pos h
      rw [List.filterMap_cons_some hsome, List.filter_cons, if_pos (decide_eq_true h), ih]
    · have hnone : d.deliver delivery = none := if_neg h
      rw [List.filterMap_cons_none hnone, List.filter_cons, if_neg (by simpa using h), ih]

/-- The deliveries that come of an event go to ports with a handle, to each at most one,
and it hands out no number. -/
theorem handleFrameEvent_frame (d : Daemon) (ingress : PortId) (bytes : List UInt8)
    (now : Instant) :
    (∀ delivery ∈ (d.handleFrameEvent ingress (.frame bytes) now).1, delivery.port ∈ d.handles) ∧
      ((d.handleFrameEvent ingress (.frame bytes) now).1.map Delivery.port).Nodup ∧
      (d.handleFrameEvent ingress (.frame bytes) now).2.handles = d.handles ∧
      (d.handleFrameEvent ingress (.frame bytes) now).2.portIds = d.portIds := by
  rw [Daemon.handleFrameEvent]
  rcases EthernetFrame.parse bytes with e | frame
  · exact ⟨fun _ h => absurd h List.not_mem_nil, List.nodup_nil, rfl, rfl⟩
  · dsimp only
    rcases hforward : d.switch.forward ingress frame now with ⟨e | ds, switch⟩
    · exact ⟨fun _ h => absurd h List.not_mem_nil, List.nodup_nil, rfl, rfl⟩
    · dsimp only
      rw [filterMap_deliver]
      refine ⟨fun delivery h => of_decide_eq_true (List.mem_filter.mp h).2, ?_, rfl, rfl⟩
      have hnodup := Switch.nodup_port_of_forward (congrArg Prod.fst hforward)
      exact (List.filter_sublist.map _).nodup hnodup

/-- **The frames that a move offers** to the writers of the ports: what comes of the event
that the loop takes, or its probe. -/
def offers (s : Process) : Move → List Delivery
  | .handles now =>
    match s.events with
    | [] => []
    | (ingress, event) :: _ => (s.daemon.handleFrameEvent ingress event now).1
  | .loopProbe => s.daemon.loopProbes
  | _ => []

/-- Frames are offered to ports with a handle only, to each at most one. -/
theorem offers_sound (s : Process) (move : Move) :
    (∀ d ∈ s.offers move, d.port ∈ s.daemon.handles) ∧
      ((s.offers move).map Delivery.port).Nodup := by
  cases move with
  | handles now =>
    rw [offers]
    rcases s.events with _ | ⟨⟨ingress, bytes | _⟩, events⟩
    · exact ⟨fun d hd => absurd hd List.not_mem_nil, List.nodup_nil⟩
    · obtain ⟨hhandle, hnodup, -⟩ := handleFrameEvent_frame s.daemon ingress bytes now
      exact ⟨hhandle, hnodup⟩
    · exact ⟨fun d hd => absurd hd List.not_mem_nil, List.nodup_nil⟩
  | loopProbe =>
    refine ⟨fun d hd => ?_, ?_⟩
    · obtain ⟨p, hp, rfl⟩ := List.mem_map.mp hd
      exact Finset.mem_sortedList.mp hp
    · rw [offers, Daemon.loopProbes, List.map_map]
      refine (congrArg List.Nodup (List.map_id _)).mpr ?_
      exact Finset.nodup_sortedList _
  | _ => exact ⟨fun d hd => absurd hd List.not_mem_nil, List.nodup_nil⟩

end Process

/-! ### The line of a port -/

/-- **What the process has for a port**: whether its number was handed out, whether it
has a handle, and its tasks. -/
structure Line where
  issued : Bool
  handle : Bool
  tasks : Option Tasks

/-- What the process has for the port `p`. -/
def Process.line (s : Process) (p : PortId) : Line where
  issued := decide (p.id.toNat < s.daemon.portIds.id.toNat)
  handle := decide (p ∈ s.daemon.handles)
  tasks := s.tasks.lookup p

/-- **What a move can do to what the process has for a port.** -/
inductive Line.Step (p : PortId) : Line → List Happening → Line → Prop
  /-- The move is not about the port. -/
  | idle {l : Line} {o : List Happening} : Quiet p o → Line.Step p l o l
  /-- The reader reports, and reads on unless it reported that the device is gone. -/
  | reads {i b : Bool} {t : Tasks} {event : PortEvent} : t.reading = true →
    Line.Step p ⟨i, b, some t⟩ [.reported p event]
      ⟨i, b, some { t with reading := decide (event ≠ .down) }⟩
  /-- The loop offers frames. -/
  | offered {i : Bool} {t t' : Tasks} {o : List Happening} : Process.Offered p t o t' →
    OffersOnly p o → Line.Step p ⟨i, true, some t⟩ o ⟨i, true, some t'⟩
  /-- The writer takes a frame. -/
  | takes {i b : Bool} {t : Tasks} {bytes : List UInt8}
    {outbound : Channel (List UInt8) outboundQueueDepth} : t.hand = none →
    t.outbound.items = bytes :: outbound.items →
    Line.Step p ⟨i, b, some t⟩ [] ⟨i, b, some { t with outbound, hand := some bytes }⟩
  /-- The writer has sent its frame. -/
  | sends {i b : Bool} {t : Tasks} {bytes : List UInt8} {answer : Except IoError ℕ} :
    t.hand = some bytes →
    Line.Step p ⟨i, b, some t⟩ [.sent p bytes answer] ⟨i, b, some { t with hand := none }⟩
  /-- The writer ends. -/
  | ends {i : Bool} {t : Tasks} : t.hand = none → t.outbound.items = [] →
    Line.Step p ⟨i, false, some t⟩ [.ended p] ⟨i, false, some { t with writing := false }⟩
  /-- The loop takes the `Down` of the port, and drops its handle. -/
  | down {i b : Bool} {t : Option Tasks} :
    Line.Step p ⟨i, b, t⟩ [.handled p .down] ⟨i, false, t⟩
  /-- A reload aborts the tasks, -/
  | aborted {i i' : Bool} {t : Option Tasks} : (i = true → i' = true) →
    Line.Step p ⟨i, true, t⟩ [] ⟨i', false, none⟩
  /-- except those of a port without a handle, -/
  | spared {i i' : Bool} {t : Option Tasks} : (i = true → i' = true) →
    Line.Step p ⟨i, false, t⟩ [] ⟨i', false, t⟩
  /-- and spawns new ones under numbers that were not handed out before. -/
  | spawned {b : Bool} {t : Option Tasks} {name : String} :
    Line.Step p ⟨false, b, t⟩ [] ⟨true, true, some (Tasks.spawned name)⟩

namespace Process

/-- Every handle has its tasks. -/
def Staffed (s : Process) : Prop := ∀ p ∈ s.daemon.handles, p ∈ s.tasks

/-- Frames that are offered to ports with a handle, as a step of the line of a port. -/
theorem line_step_trySendAll {s s' : Process} (hs : s.Staffed) (move : Move)
    {o : List Happening} (p : PortId) (ho : Quiet p o)
    (htasks : s'.tasks = (trySendAll s.tasks (s.offers move)).2)
    (hissued : s'.daemon.portIds = s.daemon.portIds)
    (hhandles : s'.daemon.handles = s.daemon.handles) :
    Line.Step p (s.line p) (o ++ (trySendAll s.tasks (s.offers move)).1) (s'.line p) := by
  by_cases hp : p ∈ s.daemon.handles
  · obtain ⟨t, ht⟩ := Finmap.mem_iff.mp (hs p hp)
    obtain ⟨t', ht', hoffered⟩ := lookup_trySendAll ht (s.offers move)
    rw [line, line, htasks, ht, ht', hissued, hhandles, decide_eq_true hp]
    refine Line.Step.offered ((Offered.of_quiet t ho).trans hoffered) fun e he hconcerns => ?_
    rcases List.mem_append.mp he with he | he
    · exact absurd hconcerns (ho e he)
    · obtain ⟨d, -, rfl | rfl⟩ := mem_trySendAll he
      · exact ⟨d.bytes, Or.inl (congrArg (Happening.queued · d.bytes) hconcerns)⟩
      · exact ⟨d.bytes, Or.inr (congrArg (Happening.dropped · d.bytes) hconcerns)⟩
  · have hne : ∀ d ∈ s.offers move, d.port ≠ p := fun d hd heq =>
      hp (heq ▸ (s.offers_sound move).1 d hd)
    rw [line, line, htasks, lookup_trySendAll_of_ne hne, hissued, hhandles]
    exact Line.Step.idle (ho.append (quiet_trySendAll hne))

/-- A move of the tasks of one port, as a step of the line of each. -/
theorem line_insert {s : Process} {q : PortId} {t' : Tasks} {events : List (PortId × PortEvent)}
    {o : List Happening} (hquiet : ∀ p, p ≠ q → Quiet p o)
    (hstep : Line.Step q (s.line q) o ⟨(s.line q).issued, (s.line q).handle, some t'⟩)
    (p : PortId) :
    Line.Step p (s.line p) o
      (Process.line { s with tasks := s.tasks.insert q t', events := events } p) := by
  by_cases hp : p = q
  · subst hp
    rw [line, line, Finmap.lookup_insert]
    exact hstep
  · rw [line, line, Finmap.lookup_insert_of_ne _ hp]
    exact Line.Step.idle (hquiet p hp)

/-- A move that leaves the daemon and the tasks alone. -/
theorem line_idle {s s' : Process} (htasks : s'.tasks = s.tasks) (hdaemon : s'.daemon = s.daemon)
    {o : List Happening} {p : PortId} (hquiet : Quiet p o) :
    Line.Step p (s.line p) o (s'.line p) := by
  have hline : s'.line p = s.line p := by rw [line, htasks, hdaemon, line]
  exact hline ▸ Line.Step.idle hquiet

theorem readerStep_snd (answer : Except IoError (List UInt8)) :
    (readerStep answer).2 = decide ((readerStep answer).1 ≠ .down) := by
  rw [readerStep]
  rcases TapPort.recv answer with e | bytes
  · rfl
  · dsimp only
    split <;> rfl

theorem line_step_reads (s : Process) (q : PortId) (answer : Except IoError (List UInt8))
    (p : PortId) : Line.Step p (s.line p) (s.reads q answer).1 ((s.reads q answer).2.line p) := by
  rw [reads]
  rcases ht : s.tasks.lookup q with _ | t
  · exact line_idle rfl rfl quiet_nil
  · dsimp only
    split
    · next hreading =>
      refine line_insert (fun r hr => ?_) ?_ p
      · exact quiet_cons.mpr ⟨fun h => hr h.symm, quiet_nil⟩
      · rw [line, ht, readerStep_snd]
        exact Line.Step.reads hreading
    · exact line_idle rfl rfl quiet_nil

theorem line_step_takes (s : Process) (q p : PortId) :
    Line.Step p (s.line p) (s.takes q).1 ((s.takes q).2.line p) := by
  rw [takes]
  rcases ht : s.tasks.lookup q with _ | t
  · exact line_idle rfl rfl quiet_nil
  · dsimp only
    split
    · next bytes outbound hhand hrecv =>
      refine line_insert (fun r _ => quiet_nil) ?_ p
      rw [line, ht]
      exact Line.Step.takes hhand (Channel.items_of_recv hrecv)
    · exact line_idle rfl rfl quiet_nil

theorem line_step_sends (s : Process) (q : PortId) (answer : Except IoError ℕ) (p : PortId) :
    Line.Step p (s.line p) (s.sends q answer).1 ((s.sends q answer).2.line p) := by
  rw [sends]
  rcases ht : s.tasks.lookup q with _ | t
  · exact line_idle rfl rfl quiet_nil
  · dsimp only
    split
    · exact line_idle rfl rfl quiet_nil
    · next bytes hhand =>
      refine line_insert (fun r hr => ?_) ?_ p
      · exact quiet_cons.mpr ⟨fun h => hr h.symm, quiet_nil⟩
      · rw [line, ht]
        exact Line.Step.sends hhand

theorem line_step_ends (s : Process) (q p : PortId) :
    Line.Step p (s.line p) (s.ends q).1 ((s.ends q).2.line p) := by
  rw [ends]
  rcases ht : s.tasks.lookup q with _ | t
  · exact line_idle rfl rfl quiet_nil
  · dsimp only
    split
    · next hends =>
      obtain ⟨-, hhand, hrecv, hhandle⟩ := hends
      refine line_insert (fun r hr => ?_) ?_ p
      · exact quiet_cons.mpr ⟨fun h => hr h.symm, quiet_nil⟩
      · rw [line, ht, decide_eq_false hhandle]
        exact Line.Step.ends hhand (Channel.recv_eq_none.mp hrecv)
    · exact line_idle rfl rfl quiet_nil

/-- The loop takes an event. -/
theorem line_step_handles {s : Process} (hs : s.Staffed) (now : Instant) (p : PortId) :
    Line.Step p (s.line p) (s.handles now).1 ((s.handles now).2.line p) := by
  obtain ⟨daemon, tasks, events, requests⟩ := s
  rcases events with _ | ⟨⟨ingress, bytes | _⟩, events⟩
  · exact line_idle rfl rfl quiet_nil
  · obtain ⟨-, -, hhandles, hissued⟩ := handleFrameEvent_frame daemon ingress bytes now
    have hquiet : Quiet p [Happening.handled ingress (.frame bytes)] :=
      quiet_cons.mpr ⟨id, quiet_nil⟩
    exact line_step_trySendAll hs (.handles now) p hquiet rfl hissued hhandles
  · rw [line, line]
    by_cases hp : p = ingress
    · subst hp
      have hhandle : decide (p ∈ (daemon.handleFrameEvent p .down now).2.handles) = false :=
        decide_eq_false (Finset.notMem_erase p daemon.handles)
      change Line.Step p _ _ ⟨_, decide (p ∈ (daemon.handleFrameEvent p .down now).2.handles), _⟩
      rw [hhandle]
      exact Line.Step.down
    · have hmem : p ∈ (daemon.handleFrameEvent ingress .down now).2.handles ↔
          p ∈ daemon.handles := Finset.mem_erase.trans (and_iff_right hp)
      have hquiet : Quiet p [Happening.handled ingress .down] :=
        quiet_cons.mpr ⟨fun h => hp h.symm, quiet_nil⟩
      change Line.Step p _ _
        ⟨_, decide (p ∈ (daemon.handleFrameEvent ingress .down now).2.handles), _⟩
      simp only [hmem]
      exact Line.Step.idle hquiet

theorem line_step_loopProbe {s : Process} (hs : s.Staffed) (p : PortId) :
    Line.Step p (s.line p) s.loopProbe.1 (s.loopProbe.2.line p) :=
  line_step_trySendAll hs .loopProbe p quiet_nil rfl rfl rfl

/-- **A reload aborts the tasks of every port with a handle, and spawns new ones.** -/
theorem line_step_reload (s : Process) (probeId : UInt64) (specs : List (Spec × Tap))
    (p : PortId) :
    Line.Step p (s.line p) [] ((s.reload (.loaded probeId specs)).line p) := by
  have hmono : s.daemon.portIds.id.toNat ≤
      (s.daemon.reload (.loaded probeId specs)).portIds.id.toNat := by
    rw [Daemon.reload, Daemon.portIds_respawnAll]
    exact Nat.le_add_right _ _
  have hissued : decide (p.id.toNat < s.daemon.portIds.id.toNat) = true →
      decide (p.id.toNat < (s.daemon.reload (.loaded probeId specs)).portIds.id.toNat) = true :=
    fun h => decide_eq_true (lt_of_lt_of_le (of_decide_eq_true h) hmono)
  rw [line, line, daemon_reload, tasks_reload]
  by_cases hp : ∃ a ∈ attempts s.daemon.portIds specs, a.port = p ∧ a.Succeeds
  · rw [decide_eq_true (Daemon.mem_handles_reload.mpr hp)]
    obtain ⟨a, ha, rfl, -, hlookup⟩ := Attempt.lookup_foldl_launch_of_mem hp
    -- the number is one of those that are handed out by the reload
    have hid : a.port.id.toNat ∈ (attempts s.daemon.portIds specs).map (·.port.id.toNat) :=
      List.mem_map_of_mem ha
    rw [map_id_attempts, List.mem_range'_1] at hid
    have hnew : a.port.id.toNat <
        (s.daemon.reload (.loaded probeId specs)).portIds.id.toNat := by
      rw [Daemon.reload, Daemon.portIds_respawnAll]
      exact hid.2
    rw [hlookup, decide_eq_false (Nat.not_lt.mpr hid.1), decide_eq_true hnew]
    exact Line.Step.spawned
  · rw [decide_eq_false fun h => hp (Daemon.mem_handles_reload.mp h),
      Attempt.lookup_foldl_launch_of_ne fun a ha hok heq => hp ⟨a, ha, heq, hok⟩, teardown,
      Finmap.lookup_retain]
    by_cases hhandle : p ∈ s.daemon.handles
    · have hnone : (s.tasks.lookup p).filter (fun _ => decide (p ∉ s.daemon.handles)) = none :=
        Option.filter_eq_none_iff.mpr fun t _ => by simpa using hhandle
      rw [decide_eq_true hhandle, hnone]
      exact Line.Step.aborted hissued
    · have hsame : (s.tasks.lookup p).filter (fun _ => decide (p ∉ s.daemon.handles)) =
          s.tasks.lookup p := by
        rw [decide_eq_true hhandle]
        rcases s.tasks.lookup p with _ | t <;> rfl
      rw [decide_eq_false hhandle, hsame]
      exact Line.Step.spared hissued

/-- **What a move does to the line of a port is one of the steps.** -/
theorem line_step {s : Process} (hs : s.Staffed) (move : Move) (p : PortId) :
    Line.Step p (s.line p) (processMachine.out s move) ((processMachine.next s move).line p) := by
  cases move with
  | reads q answer => exact s.line_step_reads q answer p
  | takes q => exact s.line_step_takes q p
  | sends q answer => exact s.line_step_sends q answer p
  | ends q => exact s.line_step_ends q p
  | asks client => exact line_idle rfl rfl (quiet_cons.mpr ⟨id, quiet_nil⟩)
  | handles now => exact line_step_handles hs now p
  | sighup load =>
    rcases load with _ | _ | ⟨probeId, specs⟩
    · exact line_idle rfl rfl quiet_nil
    · exact line_idle rfl rfl quiet_nil
    · exact s.line_step_reload probeId specs p
  | sigusr1 => exact line_idle rfl rfl (quiet_cons.mpr ⟨id, quiet_nil⟩)
  | ageSweep now => exact Line.Step.idle quiet_nil
  | loopProbe => exact line_step_loopProbe hs p
  | answers =>
    change Line.Step p (s.line p) s.answers.1 (s.answers.2.line p)
    rw [answers]
    rcases s.requests with _ | ⟨client, requests⟩
    · exact line_idle rfl rfl quiet_nil
    · exact line_idle rfl rfl (quiet_cons.mpr ⟨id, quiet_nil⟩)

/-! ### Where what happens comes from -/

/-- **What a move needs for something to happen.** -/
inductive Causes (s : Process) : Move → Happening → Prop
  | reported {p : PortId} {t : Tasks} {answer : Except IoError (List UInt8)} :
    s.tasks.lookup p = some t → t.reading = true →
    Causes s (.reads p answer) (.reported p (readerStep answer).1)
  | handled {p : PortId} {event : PortEvent} {events : List (PortId × PortEvent)}
    {now : Instant} : s.events = (p, event) :: events →
    Causes s (.handles now) (.handled p event)
  /-- A frame was offered. -/
  | offered {move : Move} {e : Happening} : e ∈ (trySendAll s.tasks (s.offers move)).1 →
    Causes s move e
  | sent {p : PortId} {t : Tasks} {bytes : List UInt8} {answer : Except IoError ℕ} :
    s.tasks.lookup p = some t → t.hand = some bytes →
    Causes s (.sends p answer) (.sent p bytes answer)
  | ended {p : PortId} {t : Tasks} : s.tasks.lookup p = some t →
    Causes s (.ends p) (.ended p)
  | asked {client : Client} : Causes s (.asks client) (.asked client)
  | replied {client : Client} {requests : List Client} : s.requests = client :: requests →
    Causes s .answers (.replied client (renderCountersJson s.daemon.switch))
  | dumped : Causes s .sigusr1 (.dumped (dumpCounters s.daemon.switch))

theorem causes_reads {s : Process} {p : PortId} {answer : Except IoError (List UInt8)}
    {e : Happening} (h : e ∈ (s.reads p answer).1) : Causes s (.reads p answer) e := by
  unfold reads at h
  split at h
  · exact absurd h List.not_mem_nil
  · next t ht =>
    split at h
    · next hreading =>
      obtain rfl := List.mem_singleton.mp h
      exact Causes.reported ht hreading
    · exact absurd h List.not_mem_nil

/-- Taking a frame is not seen from outside. -/
theorem takes_fst (s : Process) (p : PortId) : (s.takes p).1 = [] := by
  unfold takes
  split
  · rfl
  · split <;> rfl

theorem causes_sends {s : Process} {p : PortId} {answer : Except IoError ℕ} {e : Happening}
    (h : e ∈ (s.sends p answer).1) : Causes s (.sends p answer) e := by
  unfold sends at h
  split at h
  · exact absurd h List.not_mem_nil
  · next t ht =>
    split at h
    · exact absurd h List.not_mem_nil
    · next bytes hhand =>
      obtain rfl := List.mem_singleton.mp h
      exact Causes.sent ht hhand

theorem causes_ends {s : Process} {p : PortId} {e : Happening} (h : e ∈ (s.ends p).1) :
    Causes s (.ends p) e := by
  unfold ends at h
  split at h
  · exact absurd h List.not_mem_nil
  · next t ht =>
    split at h
    · obtain rfl := List.mem_singleton.mp h
      exact Causes.ended ht
    · exact absurd h List.not_mem_nil

/-- Of an event the loop takes it is seen that it was taken, and what became of the frames
it offers. -/
theorem handles_fst (s : Process) (now : Instant) :
    (s.handles now).1 =
      (s.events.head?.map fun event => .handled event.1 event.2).toList ++
        (trySendAll s.tasks (s.offers (.handles now))).1 := by
  rw [handles, offers]
  rcases s.events with _ | ⟨⟨ingress, event⟩, events⟩ <;> rfl

theorem causes_handles {s : Process} {now : Instant} {e : Happening}
    (h : e ∈ (s.handles now).1) : Causes s (.handles now) e := by
  rw [handles_fst] at h
  rcases List.mem_append.mp h with h | h
  · obtain ⟨⟨p, event⟩, hhead, rfl⟩ := Option.map_eq_some_iff.mp (Option.mem_toList.mp h)
    obtain ⟨events, hevents⟩ := List.head?_eq_some_iff.mp hhead
    exact Causes.handled hevents
  · exact Causes.offered h

theorem causes_answers {s : Process} {e : Happening} (h : e ∈ s.answers.1) :
    Causes s .answers e := by
  unfold answers at h
  split at h
  · exact absurd h List.not_mem_nil
  · next client requests hrequests =>
    obtain rfl := List.mem_singleton.mp h
    exact Causes.replied hrequests

/-- **Nothing happens without a cause.** -/
theorem causes_of_mem_out {s : Process} {move : Move} {e : Happening}
    (h : e ∈ processMachine.out s move) : Causes s move e := by
  cases move with
  | reads p answer => exact causes_reads h
  | takes p =>
    change e ∈ (s.takes p).1 at h
    rw [takes_fst] at h
    exact absurd h List.not_mem_nil
  | sends p answer => exact causes_sends h
  | ends p => exact causes_ends h
  | asks client =>
    obtain rfl := List.mem_singleton.mp h
    exact Causes.asked
  | handles now => exact causes_handles h
  | sighup load => exact absurd h List.not_mem_nil
  | sigusr1 =>
    obtain rfl := List.mem_singleton.mp h
    exact Causes.dumped
  | ageSweep now => exact absurd h List.not_mem_nil
  | loopProbe => exact Causes.offered h
  | answers => exact causes_answers h

/-- What is reported is what a reader made of an answer of its device. -/
theorem reads_of_reported_mem_out {s : Process} {move : Move} {p : PortId} {event : PortEvent}
    (h : .reported p event ∈ processMachine.out s move) :
    ∃ answer, move = .reads p answer ∧ (readerStep answer).1 = event := by
  generalize heq : Happening.reported p event = e at h
  cases causes_of_mem_out h with
  | reported ht hreading =>
    obtain ⟨rfl, rfl⟩ := Happening.reported.inj heq
    exact ⟨_, rfl, rfl⟩
  | offered he =>
    obtain ⟨d, -, rfl | rfl⟩ := mem_trySendAll he
    · cases heq
    · cases heq
  | _ => cases heq

end Process

end VlanSwitch
