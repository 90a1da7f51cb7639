import VlanSwitch.Daemon.Lines

/-!
# What is read, what is queued, what is written

Between a device and the loop, and between the loop and a device, there are channels and
tasks that run on their own. What can be relied on is said in terms of what happened so
far (`VlanSwitch.Line.Accounts`): what the loop took is what was reported, in order; what
a writer gave to its device, has in its hand and has in its queue is what was put into
the queue, in order. All of it holds in every state of every run
(`VlanSwitch.Process.Accounts.run`), by one step lemma for each of its parts, each by
cases on what a move can do to the line of a port.

Two things follow. A writer's queue loses nothing that was put into it unless a reload
aborts the writer, and turns away a frame only if it is full
(`VlanSwitch.outbound_in_order`). And every device that goes away is noticed: a reader
reports it once and last, and when the loop has taken what was reported, the ports with
a handle are those whose reader is running (`VlanSwitch.readers_accounted`).
-/

namespace VlanSwitch

/-- **The accounts of a port**: what the process has for it, and what happened so far. -/
structure Line.Accounts (p : PortId) (l : Line) (h : List Happening) : Prop where
  /-- Nothing happens under a number that was not handed out. -/
  fresh : l.issued = false → l.handle = false ∧ l.tasks = none ∧ Quiet p h
  /-- What was queued is what was sent, what is being sent, and what waits. -/
  outbound : ∀ t, l.tasks = some t →
    queued p h = sent p h ++ (t.hand.toList ++ t.outbound.items)
  /-- What was sent was queued, in order, also when the tasks are gone. -/
  sent_isPrefix : sent p h <+: queued p h
  /-- The reader runs until it has reported that the device is gone. -/
  reading : ∀ t, l.tasks = some t → (t.reading = true ↔ .reported p .down ∉ h)
  /-- Nothing is reported after that. -/
  down_last : ∀ h₁ h₂, h = h₁ ++ .reported p .down :: h₂ → ∀ event, .reported p event ∉ h₂
  /-- A port has its handle until the loop has taken its `Down`, and a writer. -/
  handle : l.handle = true →
    .handled p .down ∉ h ∧ ∃ t, l.tasks = some t ∧ t.writing = true
  /-- The reader of a port without a handle has ended. -/
  orphan : l.handle = false → ∀ t, l.tasks = some t → t.reading = false
  /-- A writer that ended has left nothing. -/
  ended : .ended p ∈ h →
    l.handle = false ∧ ∃ t, l.tasks = some t ∧ t.hand = none ∧ t.outbound.items = []
  /-- No more is queued and not sent than fits into the queue and the writer's hand. -/
  bounded : (queued p h).length ≤ (sent p h).length + 1 + outboundQueueDepth
  /-- After the loop took its `Down`, all that is left for a port is to send what waits. -/
  silenced : ∀ h₁ h₂, h = h₁ ++ .handled p .down :: h₂ → ∀ e ∈ h₂, e.Concerns p →
    (∃ bytes answer, e = .sent p bytes answer) ∨ e = .ended p

namespace Line.Accounts

section Step

variable {p : PortId} {l l' : Line} {h o : List Happening}

/-- Frames that are offered to a port are not sent yet. -/
theorem sent_of_offersOnly (ho : OffersOnly p o) : sent p o = [] := by
  refine List.filterMap_eq_nil_iff.mpr fun e he => ?_
  rcases e with _ | _ | _ | _ | ⟨q, bytes, answer⟩ | _ | _ | _ | _ <;> try rfl
  exact if_neg fun hq => ho.notMem hq (by simp) (by simp) he

/-- What is neither queued nor sent leaves the accounts of the queue alone. -/
theorem extend_outbound {waits : List (List UInt8)} (hold : queued p h = sent p h ++ waits)
    (hqueued : queued p o = []) (hsent : sent p o = []) :
    queued p (h ++ o) = sent p (h ++ o) ++ waits := by
  rw [queued_append, sent_append, hqueued, hsent, List.append_nil, List.append_nil]
  exact hold

/-- What is not a report that the device is gone leaves the reader running or not. -/
theorem extend_reading {t : Tasks} (hold : t.reading = true ↔ .reported p .down ∉ h)
    (ho : .reported p .down ∉ o) : t.reading = true ↔ .reported p .down ∉ h ++ o := by
  rw [List.mem_append, not_or, and_iff_left ho]
  exact hold

theorem step_outbound (hacc : l.Accounts p h) (hstep : Line.Step p l o l') :
    ∀ t, l'.tasks = some t →
      queued p (h ++ o) = sent p (h ++ o) ++ (t.hand.toList ++ t.outbound.items) := by
  intro t ht
  cases hstep with
  | idle hquiet => exact extend_outbound (hacc.outbound t ht) hquiet.queued hquiet.sent
  | @reads i b t₀ event hreading =>
    obtain rfl := Option.some.inj ht
    exact extend_outbound (hacc.outbound t₀ rfl) rfl rfl
  | @offered i t₀ t' o hoffered ho =>
    obtain rfl := Option.some.inj ht
    have hhand : t'.hand = t₀.hand := by rw [hoffered.rest]
    rw [queued_append, sent_append, sent_of_offersOnly ho, hacc.outbound t₀ rfl, hoffered.items,
      hhand, List.append_nil]
    simp only [List.append_assoc]
  | @takes i b t₀ bytes outbound hhand hitems =>
    obtain rfl := Option.some.inj ht
    have hold := hacc.outbound t₀ rfl
    rw [hhand, hitems] at hold
    exact extend_outbound hold rfl rfl
  | @sends i b t₀ bytes answer hhand =>
    obtain rfl := Option.some.inj ht
    have hold := hacc.outbound t₀ rfl
    have hsent : sent p [.sent p bytes answer] = [bytes] := by simp [sent, Happening.sentOn]
    have hqueued : queued p [.sent p bytes answer] = [] := rfl
    rw [hhand] at hold
    rw [queued_append, sent_append, hsent, hqueued, hold, List.append_nil, List.append_assoc]
    rfl
  | @ends i t₀ hhand hitems =>
    obtain rfl := Option.some.inj ht
    exact extend_outbound (hacc.outbound t₀ rfl) rfl rfl
  | down => exact extend_outbound (hacc.outbound t ht) rfl rfl
  | aborted _ => cases ht
  | spared _ => exact extend_outbound (hacc.outbound t ht) rfl rfl
  | spawned =>
    obtain rfl := Option.some.inj ht
    have hquiet := (hacc.fresh rfl).2.2
    exact extend_outbound (by rw [hquiet.queued, hquiet.sent]; rfl) rfl rfl

/-- What leaves a port without tasks queues and sends nothing. -/
theorem step_of_tasks_eq_none (hstep : Line.Step p l o l') (htasks : l'.tasks = none) :
    queued p o = [] ∧ sent p o = [] := by
  cases hstep with
  | idle hquiet => exact ⟨hquiet.queued, hquiet.sent⟩
  | down => exact ⟨rfl, rfl⟩
  | aborted _ => exact ⟨rfl, rfl⟩
  | spared _ => exact ⟨rfl, rfl⟩
  | _ => cases htasks

theorem step_sent_isPrefix (hacc : l.Accounts p h) (hstep : Line.Step p l o l') :
    sent p (h ++ o) <+: queued p (h ++ o) := by
  rcases htasks : l'.tasks with _ | t
  · obtain ⟨hqueued, hsent⟩ := step_of_tasks_eq_none hstep htasks
    rw [queued_append, sent_append, hqueued, hsent, List.append_nil, List.append_nil]
    exact hacc.sent_isPrefix
  · exact ⟨_, (hacc.step_outbound hstep t htasks).symm⟩

theorem step_bounded (hacc : l.Accounts p h) (hstep : Line.Step p l o l') :
    (queued p (h ++ o)).length ≤ (sent p (h ++ o)).length + 1 + outboundQueueDepth := by
  rcases htasks : l'.tasks with _ | t
  · obtain ⟨hqueued, hsent⟩ := step_of_tasks_eq_none hstep htasks
    rw [queued_append, sent_append, hqueued, hsent, List.append_nil, List.append_nil]
    exact hacc.bounded
  · have hhand : t.hand.toList.length ≤ 1 := by cases t.hand <;> simp
    have hitems := t.outbound.length_le
    rw [hacc.step_outbound hstep t htasks, List.length_append, List.length_append]
    omega

/-- **Once its `Down` was taken, a port is offered nothing and reports nothing**: it has
no handle, and its reader has ended. -/
theorem step_silenced (hacc : l.Accounts p h) (hstep : Line.Step p l o l')
    (hdown : .handled p .down ∈ o → .reported p .down ∈ h ∧ .handled p .down ∉ h)
    (hfifo : .handled p .down ∈ h → .reported p .down ∈ h) :
    ∀ h₁ h₂, h ++ o = h₁ ++ .handled p .down :: h₂ → ∀ e ∈ h₂, e.Concerns p →
      (∃ bytes answer, e = .sent p bytes answer) ∨ e = .ended p := by
  intro h₁ h₂ heq e he hconcerns
  rcases List.append_eq_append_cons heq with ⟨rest, rfl, rfl⟩ | ⟨o₁, rfl, ho⟩
  · rcases List.mem_append.mp he with he | he
    · exact hacc.silenced h₁ rest rfl e he hconcerns
    · have htaken : Happening.handled p .down ∈ h₁ ++ .handled p .down :: rest := by simp
      cases hstep with
      | idle hquiet => exact absurd hconcerns (hquiet e he)
      | @reads i b t₀ event hreading =>
        exact absurd (hfifo htaken) ((hacc.reading t₀ rfl).mp hreading)
      | offered _ _ => exact absurd htaken (hacc.handle rfl).1
      | sends _ => exact Or.inl ⟨_, _, List.mem_singleton.mp he⟩
      | ends _ _ => exact Or.inr (List.mem_singleton.mp he)
      | down => exact absurd htaken (hdown List.mem_cons_self).2
      | _ => exact absurd he List.not_mem_nil
  · have hmem : Happening.handled p .down ∈ o := ho ▸ by simp
    cases hstep with
    | idle hquiet => exact absurd rfl (hquiet _ hmem)
    | offered _ hoffers => exact absurd hmem (hoffers.notMem rfl (by simp) (by simp))
    | down =>
      -- one event at a time
      have hlength := congrArg List.length ho
      simp only [List.length_append, List.length_cons, List.length_nil] at hlength
      obtain rfl : h₂ = [] := List.length_eq_zero_iff.mp (by omega)
      exact absurd he List.not_mem_nil
    | _ => simp at hmem

theorem step_reading (hacc : l.Accounts p h) (hstep : Line.Step p l o l') :
    ∀ t, l'.tasks = some t → (t.reading = true ↔ .reported p .down ∉ h ++ o) := by
  intro t ht
  cases hstep with
  | idle hquiet => exact extend_reading (hacc.reading t ht) (hquiet.notMem rfl)
  | @reads i b t₀ event hreading =>
    obtain rfl := Option.some.inj ht
    rw [List.mem_append, not_or, and_iff_right ((hacc.reading t₀ rfl).mp hreading),
      List.mem_singleton]
    refine decide_eq_true_iff.trans (not_congr ⟨fun heq => heq ▸ rfl, fun heq => ?_⟩)
    exact (Happening.reported.inj heq).2.symm
  | @offered i t₀ t' o hoffered ho =>
    obtain rfl := Option.some.inj ht
    refine extend_reading ?_ (ho.notMem rfl (by simp) (by simp))
    rw [hoffered.rest]
    exact hacc.reading t₀ rfl
  | @takes i b t₀ bytes outbound hhand hitems =>
    obtain rfl := Option.some.inj ht
    exact extend_reading (hacc.reading t₀ rfl) List.not_mem_nil
  | @sends i b t₀ bytes answer hhand =>
    obtain rfl := Option.some.inj ht
    exact extend_reading (hacc.reading t₀ rfl) (by simp)
  | @ends i t₀ hhand hitems =>
    obtain rfl := Option.some.inj ht
    exact extend_reading (hacc.reading t₀ rfl) (by simp)
  | down => exact extend_reading (hacc.reading t ht) (by simp)
  | aborted _ => cases ht
  | spared _ => exact extend_reading (hacc.reading t ht) List.not_mem_nil
  | @spawned b t₀ name =>
    obtain rfl := Option.some.inj ht
    have hnot : Happening.reported p .down ∉ h := ((hacc.fresh rfl).2.2).notMem rfl
    exact extend_reading ⟨fun _ => hnot, fun _ => rfl⟩ List.not_mem_nil

theorem step_down_last (hacc : l.Accounts p h) (hstep : Line.Step p l o l') :
    ∀ h₁ h₂, h ++ o = h₁ ++ .reported p .down :: h₂ → ∀ event, .reported p event ∉ h₂ := by
  intro h₁ h₂ heq event hmem
  rcases List.append_eq_append_cons heq with ⟨rest, rfl, rfl⟩ | ⟨o₁, rfl, ho⟩
  · rcases List.mem_append.mp hmem with hmem | hmem
    · exact hacc.down_last h₁ rest rfl event hmem
    · -- the reader has reported, so it was running
      cases hstep with
      | idle hquiet => exact hquiet _ hmem rfl
      | @reads i b t₀ event hreading =>
        exact (hacc.reading t₀ rfl).mp hreading (by simp)
      | offered _ hoffers => exact absurd hmem (hoffers.notMem rfl (by simp) (by simp))
      | _ => simp at hmem
  · have hdown : Happening.reported p .down ∈ o := ho ▸ by simp
    cases hstep with
    | idle hquiet => exact hquiet _ hdown rfl
    | reads _ =>
      -- one event at a time
      have hlength := congrArg List.length ho
      simp only [List.length_append, List.length_cons, List.length_nil] at hlength
      obtain rfl : h₂ = [] := List.length_eq_zero_iff.mp (by omega)
      exact absurd hmem List.not_mem_nil
    | offered _ hoffers => exact absurd hdown (hoffers.notMem rfl (by simp) (by simp))
    | _ => simp at hdown

theorem step_handle (hacc : l.Accounts p h) (hstep : Line.Step p l o l')
    (hl' : l'.handle = true) :
    .handled p .down ∉ h ++ o ∧ ∃ t, l'.tasks = some t ∧ t.writing = true := by
  rw [List.mem_append, not_or]
  cases hstep with
  | idle hquiet =>
    obtain ⟨hnot, ht⟩ := hacc.handle hl'
    exact ⟨⟨hnot, hquiet.notMem rfl⟩, ht⟩
  | reads _ =>
    obtain ⟨hnot, t, ht, hwriting⟩ := hacc.handle hl'
    obtain rfl := Option.some.inj ht
    exact ⟨⟨hnot, by simp⟩, _, rfl, hwriting⟩
  | offered hoffered hoffers =>
    obtain ⟨hnot, t, ht, hwriting⟩ := hacc.handle rfl
    obtain rfl := Option.some.inj ht
    refine ⟨⟨hnot, hoffers.notMem rfl (by simp) (by simp)⟩, _, rfl, ?_⟩
    rw [hoffered.rest]
    exact hwriting
  | takes _ _ =>
    obtain ⟨hnot, t, ht, hwriting⟩ := hacc.handle hl'
    obtain rfl := Option.some.inj ht
    exact ⟨⟨hnot, by simp⟩, _, rfl, hwriting⟩
  | sends _ =>
    obtain ⟨hnot, t, ht, hwriting⟩ := hacc.handle hl'
    obtain rfl := Option.some.inj ht
    exact ⟨⟨hnot, by simp⟩, _, rfl, hwriting⟩
  | spawned => exact ⟨⟨((hacc.fresh rfl).2.2).notMem rfl, by simp⟩, _, rfl, rfl⟩
  | _ => cases hl'

/-- The reader of a port that loses its handle has ended: the `Down` that the loop takes
was reported. -/
theorem step_orphan (hacc : l.Accounts p h) (hstep : Line.Step p l o l')
    (hdown : .handled p .down ∈ o → .reported p .down ∈ h) (hl' : l'.handle = false) :
    ∀ t, l'.tasks = some t → t.reading = false := by
  intro t ht
  cases hstep with
  | idle _ => exact hacc.orphan hl' t ht
  | @reads i b t₀ event hreading =>
    rw [hacc.orphan hl' t₀ rfl] at hreading
    cases hreading
  | offered _ _ => cases hl'
  | @takes i b t₀ bytes outbound hhand hitems =>
    obtain rfl := Option.some.inj ht
    exact hacc.orphan hl' t₀ rfl
  | @sends i b t₀ bytes answer hhand =>
    obtain rfl := Option.some.inj ht
    exact hacc.orphan hl' t₀ rfl
  | @ends i t₀ hhand hitems =>
    obtain rfl := Option.some.inj ht
    exact hacc.orphan hl' t₀ rfl
  | down =>
    refine Bool.eq_false_iff.mpr fun hreading => ?_
    exact (hacc.reading t ht).mp hreading (hdown List.mem_cons_self)
  | aborted _ => cases ht
  | spared _ => exact hacc.orphan rfl t ht
  | spawned => cases hl'

theorem step_ended (hacc : l.Accounts p h) (hstep : Line.Step p l o l')
    (hended : .ended p ∈ h ++ o) :
    l'.handle = false ∧ ∃ t, l'.tasks = some t ∧ t.hand = none ∧ t.outbound.items = [] := by
  rcases List.mem_append.mp hended with hmem | hmem
  · obtain ⟨hhandle, t, ht, hhand, hitems⟩ := hacc.ended hmem
    cases hstep with
    | idle _ => exact ⟨hhandle, t, ht, hhand, hitems⟩
    | reads _ =>
      obtain rfl := Option.some.inj ht
      exact ⟨hhandle, _, rfl, hhand, hitems⟩
    | offered _ _ => cases hhandle
    | takes _ hcons =>
      obtain rfl := Option.some.inj ht
      rw [hitems] at hcons
      cases hcons
    | sends hsome =>
      obtain rfl := Option.some.inj ht
      rw [hhand] at hsome
      cases hsome
    | ends _ _ =>
      obtain rfl := Option.some.inj ht
      exact ⟨rfl, _, rfl, hhand, hitems⟩
    | down => exact ⟨rfl, t, ht, hhand, hitems⟩
    | aborted _ => cases hhandle
    | spared _ => exact ⟨rfl, t, ht, hhand, hitems⟩
    | spawned => exact absurd rfl ((hacc.fresh rfl).2.2 _ hmem)
  · cases hstep with
    | idle hquiet => exact absurd rfl (hquiet _ hmem)
    | offered _ hoffers => exact absurd hmem (hoffers.notMem rfl (by simp) (by simp))
    | ends hhand hitems => exact ⟨rfl, _, rfl, hhand, hitems⟩
    | _ => simp at hmem

theorem step_fresh (hacc : l.Accounts p h) (hstep : Line.Step p l o l')
    (hdown : .handled p .down ∈ o → .reported p .down ∈ h) (hl' : l'.issued = false) :
    l'.handle = false ∧ l'.tasks = none ∧ Quiet p (h ++ o) := by
  cases hstep with
  | idle hquiet =>
    obtain ⟨hhandle, htasks, hh⟩ := hacc.fresh hl'
    exact ⟨hhandle, htasks, hh.append hquiet⟩
  | down =>
    have hreported := hdown List.mem_cons_self
    exact absurd rfl ((hacc.fresh hl').2.2 _ hreported)
  | aborted hmono =>
    have hissued := Bool.eq_false_iff.mpr fun hi => Bool.eq_false_iff.mp hl' (hmono hi)
    cases (hacc.fresh hissued).1
  | spared hmono =>
    have hissued := Bool.eq_false_iff.mpr fun hi => Bool.eq_false_iff.mp hl' (hmono hi)
    obtain ⟨-, htasks, hh⟩ := hacc.fresh hissued
    exact ⟨rfl, htasks, hh.append quiet_nil⟩
  | spawned => cases hl'
  | offered _ _ => cases (hacc.fresh hl').1
  | _ => cases (hacc.fresh hl').2.1

/-- **A step of its line keeps the accounts of a port.** -/
theorem step (hacc : l.Accounts p h) (hstep : Line.Step p l o l')
    (hdown : .handled p .down ∈ o → .reported p .down ∈ h ∧ .handled p .down ∉ h)
    (hfifo : .handled p .down ∈ h → .reported p .down ∈ h) : l'.Accounts p (h ++ o) where
  fresh := hacc.step_fresh hstep fun hmem => (hdown hmem).1
  outbound := hacc.step_outbound hstep
  sent_isPrefix := hacc.step_sent_isPrefix hstep
  reading := hacc.step_reading hstep
  down_last := hacc.step_down_last hstep
  handle := hacc.step_handle hstep
  orphan := hacc.step_orphan hstep fun hmem => (hdown hmem).1
  ended := hacc.step_ended hstep
  bounded := hacc.step_bounded hstep
  silenced := hacc.step_silenced hstep hdown hfifo

end Step

/-- The accounts of a port that the process has nothing for. -/
theorem nothing (p : PortId) : (⟨false, false, none⟩ : Line).Accounts p [] where
  fresh _ := ⟨rfl, rfl, quiet_nil⟩
  outbound t ht := by cases ht
  sent_isPrefix := List.nil_prefix
  reading t ht := by cases ht
  down_last h₁ h₂ heq := absurd heq.symm (by simp)
  handle hl := by cases hl
  orphan _ t ht := by cases ht
  ended hmem := absurd hmem List.not_mem_nil
  bounded := Nat.zero_le _
  silenced h₁ h₂ heq := absurd heq.symm (by simp)

end Line.Accounts

/-! ### The channel of the readers -/

/-- **What a move does to the channel of the readers.** -/
inductive ChannelStep (o : List Happening) :
    List (PortId × PortEvent) → List (PortId × PortEvent) → Prop
  /-- A reader puts an event in at the back. -/
  | reports {events : List (PortId × PortEvent)} {e : PortId × PortEvent} : reported o = [e] →
    handled o = [] → ChannelStep o events (events ++ [e])
  /-- The loop takes one out at the front. -/
  | takes {events : List (PortId × PortEvent)} {e : PortId × PortEvent} : reported o = [] →
    handled o = [e] → ChannelStep o (e :: events) events
  | idle {events : List (PortId × PortEvent)} : reported o = [] → handled o = [] →
    ChannelStep o events events

namespace Process

/-- Offering frames neither reports nor takes an event. -/
theorem reported_trySendAll (tasks : Finmap fun _ : PortId => Tasks) (ds : List Delivery) :
    reported (trySendAll tasks ds).1 = [] := by
  refine List.filterMap_eq_nil_iff.mpr fun e he => ?_
  obtain ⟨d, -, rfl | rfl⟩ := mem_trySendAll he <;> rfl

theorem handled_trySendAll (tasks : Finmap fun _ : PortId => Tasks) (ds : List Delivery) :
    handled (trySendAll tasks ds).1 = [] := by
  refine List.filterMap_eq_nil_iff.mpr fun e he => ?_
  obtain ⟨d, -, rfl | rfl⟩ := mem_trySendAll he <;> rfl

theorem channel_step_reads (s : Process) (q : PortId) (answer : Except IoError (List UInt8)) :
    ChannelStep (s.reads q answer).1 s.events (s.reads q answer).2.events := by
  rw [reads]
  rcases s.tasks.lookup q with _ | t
  · exact ChannelStep.idle rfl rfl
  · dsimp only
    split
    · exact ChannelStep.reports rfl rfl
    · exact ChannelStep.idle rfl rfl

theorem channel_step_handles (s : Process) (now : Instant) :
    ChannelStep (s.handles now).1 s.events (s.handles now).2.events := by
  rw [handles]
  rcases hevents : s.events with _ | ⟨⟨ingress, event⟩, events⟩
  · dsimp only
    rw [hevents]
    exact ChannelStep.idle rfl rfl
  · exact ChannelStep.takes (reported_trySendAll _ _)
      (congrArg ((ingress, event) :: ·) (handled_trySendAll _ _))

/-- **A move reports an event, or takes one, or leaves the channel alone.** -/
theorem channel_step (s : Process) (move : Move) :
    ChannelStep (processMachine.out s move) s.events (processMachine.next s move).events := by
  cases move with
  | reads q answer => exact s.channel_step_reads q answer
  | takes q =>
    change ChannelStep (s.takes q).1 s.events (s.takes q).2.events
    rw [takes]
    split
    · exact ChannelStep.idle rfl rfl
    · split <;> exact ChannelStep.idle rfl rfl
  | sends q answer =>
    change ChannelStep (s.sends q answer).1 s.events (s.sends q answer).2.events
    rw [sends]
    split
    · exact ChannelStep.idle rfl rfl
    · split <;> exact ChannelStep.idle rfl rfl
  | ends q =>
    change ChannelStep (s.ends q).1 s.events (s.ends q).2.events
    rw [ends]
    split
    · exact ChannelStep.idle rfl rfl
    · split <;> exact ChannelStep.idle rfl rfl
  | asks client => exact ChannelStep.idle rfl rfl
  | handles now => exact s.channel_step_handles now
  | sighup load =>
    change ChannelStep [] s.events (s.reload load).events
    rw [events_reload]
    exact ChannelStep.idle rfl rfl
  | sigusr1 => exact ChannelStep.idle rfl rfl
  | ageSweep now => exact ChannelStep.idle rfl rfl
  | loopProbe => exact ChannelStep.idle (reported_trySendAll _ _) (handled_trySendAll _ _)
  | answers =>
    change ChannelStep s.answers.1 s.events s.answers.2.events
    rw [answers]
    split <;> exact ChannelStep.idle rfl rfl

end Process

/-! ### The accounts of the process -/

/-- **The accounts of the process**: of the channel from the readers to the loop, and of
every port. -/
structure Process.Accounts (s : Process) (h : List Happening) : Prop where
  /-- What was reported is what the loop took, and what waits. -/
  fifo : reported h = handled h ++ s.events
  line : ∀ p, (s.line p).Accounts p h

namespace Process.Accounts

variable {s : Process} {h : List Happening}

/-- What the loop took was reported. -/
theorem reported_of_handled (hs : s.Accounts h) {p : PortId} {event : PortEvent}
    (hmem : .handled p event ∈ h) : .reported p event ∈ h := by
  rw [← mem_reported, hs.fifo]
  exact List.mem_append_left _ (mem_handled.mpr hmem)

/-- So was what waits. -/
theorem reported_of_mem_events (hs : s.Accounts h) {p : PortId} {event : PortEvent}
    (hmem : (p, event) ∈ s.events) : .reported p event ∈ h := by
  rw [← mem_reported, hs.fifo]
  exact List.mem_append_right _ hmem

/-- Nothing of a port waits behind its `Down`, nor has it come after it. -/
theorem eq_nil_of_down (hs : s.Accounts h) {p : PortId} {l₁ l₂ : List (PortId × PortEvent)}
    (heq : reported h = l₁ ++ (p, .down) :: l₂) (event : PortEvent) : (p, event) ∉ l₂ := by
  intro hmem
  obtain ⟨h₁, h₂, rfl, -, htail⟩ := List.filterMap_eq_append_iff.mp heq
  obtain ⟨h₃, e, h₄, rfl, -, he, rfl⟩ := List.filterMap_eq_cons_iff.mp htail
  obtain rfl : e = .reported p .down := by
    cases e <;> cases he
    rfl
  refine (hs.line p).down_last (h₁ ++ h₃) h₄ (by simp) event ?_
  exact mem_reported.mp hmem

/-- The `Down` of a port is taken once. -/
theorem handled_down_notMem (hs : s.Accounts h) {p : PortId}
    {events : List (PortId × PortEvent)} (hevents : s.events = (p, .down) :: events) :
    .handled p .down ∉ h := by
  intro hmem
  obtain ⟨l₁, l₂, heq⟩ := List.append_of_mem (mem_handled.mpr hmem)
  have hsplit : reported h = l₁ ++ (p, .down) :: (l₂ ++ (p, .down) :: events) := by
    rw [hs.fifo, heq, hevents, List.append_assoc, List.cons_append]
  exact hs.eq_nil_of_down hsplit .down (by simp)

theorem staffed (hs : s.Accounts h) : s.Staffed := by
  intro p hp
  obtain ⟨-, t, ht, -⟩ := (hs.line p).handle (decide_eq_true hp)
  exact Finmap.mem_of_lookup_eq_some ht

/-- **A move keeps the accounts.** -/
theorem next (hs : s.Accounts h) (move : Move) :
    (processMachine.next s move).Accounts (h ++ processMachine.out s move) := by
  have hchannel := s.channel_step move
  generalize hnext : (processMachine.next s move).events = rest at hchannel
  generalize hevents : s.events = events at hchannel
  refine ⟨?_, fun p => (hs.line p).step (s.line_step hs.staffed move p) (fun hmem => ?_)
    hs.reported_of_handled⟩
  · rw [reported_append, handled_append, hs.fifo, hevents, hnext]
    cases hchannel with
    | reports hreported hhandled => rw [hreported, hhandled, List.append_nil, List.append_assoc]
    | takes hreported hhandled =>
      rw [hreported, hhandled, List.append_nil, List.append_assoc, List.singleton_append]
    | idle hreported hhandled => rw [hreported, hhandled, List.append_nil, List.append_nil]
  · -- the `Down` that is taken is the first event that waits
    have hdown := mem_handled.mpr hmem
    cases hchannel with
    | reports _ hhandled =>
      rw [hhandled] at hdown
      exact absurd hdown List.not_mem_nil
    | takes _ hhandled =>
      rw [hhandled, List.mem_singleton] at hdown
      subst hdown
      exact ⟨hs.reported_of_mem_events (hevents ▸ List.mem_cons_self),
        hs.handled_down_notMem hevents⟩
    | idle _ hhandled =>
      rw [hhandled] at hdown
      exact absurd hdown List.not_mem_nil

/-- **A process that has begun has its accounts in order**: a start-up is a reload of a
process that has nothing yet. -/
theorem start {probeId : UInt64} {specs : List (Spec × Tap)}
    (h₀ : startUp probeId specs = .ok s) : s.Accounts [] := by
  obtain ⟨rfl, -⟩ := eq_respawnAll_of_spawnAll h₀
  refine ⟨?_, fun p => ?_⟩
  · rw [respawnAll_eq]
    rfl
  · have hstep := line_step_reload
      { daemon := { switch := Switch.withProbeId probeId, handles := ∅, portIds := ⟨0⟩ }
        tasks := ∅
        events := []
        requests := [] } probeId specs p
    exact (Line.Accounts.nothing p).step hstep (by simp) (by simp)

/-- **The accounts are in order in every state of every run.** -/
theorem run (hs : s.Accounts []) (moves : List Move) :
    (processMachine.run s moves).Accounts (processMachine.history s moves) :=
  processMachine.history_invariant (P := fun _ _ => True) (h := [])
    (fun _ _ move _ hacc => hacc.next move) (fun _ _ => trivial) hs

/-- A port whose `Down` does not wait has a handle exactly if its reader is running. -/
theorem mem_handles_iff (hs : s.Accounts h) {p : PortId} (hp : (p, .down) ∉ s.events) :
    p ∈ s.daemon.handles ↔ ∃ t, s.tasks.lookup p = some t ∧ t.reading = true := by
  constructor
  · intro hmem
    obtain ⟨hhandled, t, ht, -⟩ := (hs.line p).handle (decide_eq_true hmem)
    refine ⟨t, ht, ((hs.line p).reading t ht).mpr fun hreported => ?_⟩
    -- what was reported is taken or waits
    rw [← mem_reported, hs.fifo] at hreported
    rcases List.mem_append.mp hreported with hmem | hmem
    · exact hhandled (mem_handled.mp hmem)
    · exact hp hmem
  · rintro ⟨t, ht, hreading⟩
    by_contra hmem
    rw [(hs.line p).orphan (decide_eq_false hmem) t ht] at hreading
    cases hreading

end Process.Accounts

/-! ### Torn down -/

section TornDown

variable {s : Process} {h : List Happening}

/-- The line of a port that was torn down: its number is used up, and nothing is left. -/
def Line.down : Line := ⟨true, false, none⟩

/-- **A port that was torn down stays so**, and all that can still happen to it is that
the loop takes a `Down` that it reported before. -/
theorem Line.Step.of_down {p : PortId} {o : List Happening} {l' : Line}
    (h : Line.Step p Line.down o l') :
    l' = Line.down ∧ ∀ e ∈ o, e.Concerns p → e = .handled p .down := by
  cases h with
  | idle hquiet => exact ⟨rfl, fun e he hconcerns => absurd hconcerns (hquiet e he)⟩
  | down => exact ⟨rfl, fun e he _ => List.mem_singleton.mp he⟩
  | spared hmono =>
    rw [hmono rfl]
    exact ⟨rfl, fun e he => absurd he List.not_mem_nil⟩

/-- A handle has a number that was handed out. -/
theorem Process.Accounts.issued (hs : s.Accounts h) {p : PortId} (hp : p ∈ s.daemon.handles) :
    p.id.toNat < s.daemon.portIds.id.toNat := by
  by_contra hnot
  have hfresh := ((hs.line p).fresh (decide_eq_false hnot)).1
  exact absurd hp (of_decide_eq_false hfresh)

/-- **A reload tears down every port that has a handle.** -/
theorem Process.Accounts.line_reload (hs : s.Accounts h) {p : PortId}
    (hp : p ∈ s.daemon.handles) (probeId : UInt64) (specs : List (Spec × Tap)) :
    (s.reload (.loaded probeId specs)).line p = Line.down := by
  have hissued := hs.issued hp
  have hretired := Daemon.retired_reload hissued probeId specs
  have hne : ∀ a ∈ attempts s.daemon.portIds specs, a.Succeeds → a.port ≠ p := fun a ha _ heq => by
    have hle := le_of_mem_attempts ha
    rw [heq] at hle
    omega
  have hnone : s.teardown.lookup p = none := by
    rw [Process.teardown, Finmap.lookup_retain]
    exact Option.filter_eq_none_iff.mpr fun t _ => by simpa using hp
  rw [Process.line, Process.daemon_reload, Process.tasks_reload,
    Attempt.lookup_foldl_launch_of_ne hne, hnone, decide_eq_true hretired.issued,
    decide_eq_false hretired.handle]
  rfl

/-- **What is torn down is silent for good.** -/
theorem Process.Accounts.silent_of_down (hs : s.Accounts h) {p : PortId}
    (hp : s.line p = Line.down) (moves : List Move) :
    (processMachine.run s moves).line p = Line.down ∧
      ∀ e ∈ processMachine.history s moves, e.Concerns p → e = .handled p .down := by
  induction moves generalizing s h with
  | nil => exact ⟨hp, fun e he => absurd he List.not_mem_nil⟩
  | cons move moves ih =>
    have hstep := s.line_step hs.staffed move p
    rw [hp] at hstep
    obtain ⟨hnext, hquiet⟩ := hstep.of_down
    obtain ⟨hrun, hrest⟩ := ih (hs.next move) hnext
    exact ⟨hrun, fun e he => (List.mem_append.mp he).elim (hquiet e) (hrest e)⟩

end TornDown

/-! ### The tasks over whole runs -/

/-- What is read off a device is not empty, and fits into the buffer. -/
theorem length_of_readerStep {answer : Except IoError (List UInt8)} {bytes : List UInt8}
    (h : (readerStep answer).1 = .frame bytes) : bytes ≠ [] ∧ bytes.length ≤ maxFrameLen := by
  rcases answer with e | frame
  · cases h
  · rw [readerStep, TapPort.recv] at h
    dsimp only at h
    split at h
    · cases h
    · next hne =>
      obtain rfl := PortEvent.frame.inj h
      refine ⟨fun hnil => hne (by rw [hnil]; rfl), ?_⟩
      rw [List.length_take]
      exact Nat.min_le_left _ _

/-- **Every device that goes away is noticed, once and for all.** In a run of the process
from a start-up that succeeded, whatever the order of the moves: what the loop took is
what the readers reported, in order, but for what still waits; what is read of a device
is not empty and fits into the buffer; after a port's `Down` its reader reports nothing,
and after the loop has taken it, all that happens to the port is that its writer sends
what waits and ends; and a port whose `Down` is not among what waits has a handle
exactly if its reader is running. -/
theorem readers_accounted {probeId : UInt64} {specs : List (Spec × Tap)} {s₀ : Process}
    (h₀ : Process.startUp probeId specs = .ok s₀) (moves : List Move) {s : Process}
    (hs : s = processMachine.run s₀ moves) {h : List Happening}
    (hh : h = processMachine.history s₀ moves) :
    reported h = handled h ++ s.events ∧
    (∀ p bytes, .reported p (.frame bytes) ∈ h → bytes ≠ [] ∧ bytes.length ≤ maxFrameLen) ∧
    (∀ p h₁ h₂, h = h₁ ++ .reported p .down :: h₂ → ∀ event, .reported p event ∉ h₂) ∧
    (∀ p h₁ h₂, h = h₁ ++ .handled p .down :: h₂ → ∀ e ∈ h₂, e.Concerns p →
      (∃ bytes answer, e = .sent p bytes answer) ∨ e = .ended p) ∧
    ∀ p, (p, .down) ∉ s.events →
      (p ∈ s.daemon.handles ↔ ∃ t, s.tasks.lookup p = some t ∧ t.reading = true) := by
  subst hs hh
  have hacc := (Process.Accounts.start h₀).run moves
  refine ⟨hacc.fifo, fun p bytes hmem => ?_, fun p => (hacc.line p).down_last,
    fun p => (hacc.line p).silenced, fun p => hacc.mem_handles_iff⟩
  obtain ⟨pre, move, post, -, hout⟩ := processMachine.exists_of_mem_history hmem
  obtain ⟨answer, -, hevent⟩ := Process.reads_of_reported_mem_out hout
  exact length_of_readerStep hevent

/-- A device fails, and its port loses the handle when the loop gets to know. -/
theorem readers_accounted_failure :
    ∃ s₀ s, Process.startUp 7 [(⟨"tap0", .access 10⟩, ⟨true, true⟩)] = .ok s₀ ∧
      s = processMachine.run s₀ [.reads ⟨0⟩ (.error .failed), .handles 0] ∧
      (⟨0⟩ ∈ s.daemon.handles ↔ ∃ t, s.tasks.lookup ⟨0⟩ = some t ∧ t.reading = true) :=
  ⟨_, _, rfl, rfl, (@readers_accounted 7 [(⟨"tap0", .access 10⟩, ⟨true, true⟩)] _ rfl
    [.reads ⟨0⟩ (.error .failed), .handles 0] _ rfl _ rfl).2.2.2.2 ⟨0⟩ (by decide)⟩

end VlanSwitch
