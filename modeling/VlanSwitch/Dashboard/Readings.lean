import VlanSwitch.Daemon.Refinement

/-!
# Readings of the dashboard

A connection of the dashboard has no access to the switch. It makes a channel for the
reply, sends it to the loop and waits; the loop, when it gets round to it, renders the
switch as it is then and sends the text back. These are two more moves of the process,
among those of readers and writers, of the loop and of signals, and two questions are what
they do to the others, and how what one request gets compares with what an earlier one got.

They do nothing to the others (`VlanSwitch.Process.run_without_readings`), and are answered
in the order they come in (`VlanSwitch.Process.inOrder_run`). The comparison is a matter of
the daemon, and of what each turn of the loop can do to what is shown of a port: it adds to
the counters, may block the port and may take it away, but it does not give it back, since a
reload hands out later numbers (`VlanSwitch.Daemon.NeverFalls`). Put together, this is
`VlanSwitch.readings_never_fall`.
-/

namespace VlanSwitch

/-! ### Counters that have grown -/

/-- No count of `c` is above that of `c'`. -/
structure Counters.AtMost (c c' : Counters) : Prop where
  framesIn : c.framesIn ≤ c'.framesIn
  bytesIn : c.bytesIn ≤ c'.bytesIn
  framesOut : c.framesOut ≤ c'.framesOut
  bytesOut : c.bytesOut ≤ c'.bytesOut
  drops : c.drops ≤ c'.drops

namespace Counters.AtMost

variable {c c' c'' : Counters}

theorem refl (c : Counters) : c.AtMost c := ⟨le_rfl, le_rfl, le_rfl, le_rfl, le_rfl⟩

theorem trans (h : c.AtMost c') (h' : c'.AtMost c'') : c.AtMost c'' where
  framesIn := h.framesIn.trans h'.framesIn
  bytesIn := h.bytesIn.trans h'.bytesIn
  framesOut := h.framesOut.trans h'.framesOut
  bytesOut := h.bytesOut.trans h'.bytesOut
  drops := h.drops.trans h'.drops

theorem add_right (c d : Counters) : c.AtMost (c + d) where
  framesIn := Nat.le_add_right _ _
  bytesIn := Nat.le_add_right _ _
  framesOut := Nat.le_add_right _ _
  bytesOut := Nat.le_add_right _ _
  drops := Nat.le_add_right _ _

end Counters.AtMost

namespace Switch

/-- **What is shown of a port after an operation**, other than adding and unblocking
ports, was shown before: in the same mode, with counters that have not fallen, and
blocked still if it was. -/
theorem portSnapshot_next {s : Switch} {op : Op} {p : PortId} {c' : Counters} {blocked' : Bool}
    {mode : PortMode} (hadd : ∀ q m, op ≠ .addPort q m) (hunblock : ∀ q, op ≠ .unblockPort q)
    (h : (machine.next s op).portSnapshot p = some (c', blocked', mode)) :
    ∃ c blocked, s.portSnapshot p = some (c, blocked, mode) ∧ c.AtMost c' ∧
      (blocked = true → blocked' = true) := by
  obtain ⟨hentry', rfl⟩ := portSnapshot_eq_some.mp h
  obtain ⟨⟨m, blocked⟩, hentry, hmode⟩ := (lookup_ports_next hentry').resolve_right (hadd p mode)
  obtain rfl : m = mode := hmode
  -- a port that is removed is not shown
  have hremove : op ≠ .removePort p := by
    rintro rfl
    have hnone := (s.lookup_ports_removePort p p).trans (if_pos rfl)
    cases hnone.symm.trans hentry'
  refine ⟨_, blocked, portSnapshot_eq_some.mpr ⟨hentry, rfl⟩, ?_, ?_⟩
  · rw [portCounter_next, if_neg hremove]
    exact Counters.AtMost.add_right _ _
  · rintro rfl
    have hblocked : s.isBlocked p = true := isBlocked_eq_true.mpr ⟨_, hentry, rfl⟩
    have hnext : (machine.next s op).isBlocked p = true := by
      cases op with
      | addPort q m => exact absurd rfl (hadd q m)
      | unblockPort q => exact absurd rfl (hunblock q)
      | removePort q =>
        have hq : p ≠ q := fun hq => hremove (hq ▸ rfl)
        have hlookup := (s.lookup_ports_removePort q p).trans (if_neg hq)
        exact (isBlocked_congr hlookup).trans hblocked
      | blockPort q => exact isBlocked_blockPort q (Or.inl hblocked)
      | ageOut maxAge now => exact hblocked
      | forward ingress frame now => exact isBlocked_forward hblocked ingress frame now
    obtain ⟨entry, hlookup, hb⟩ := isBlocked_eq_true.mp hnext
    obtain rfl := Option.some.inj (hlookup.symm.trans hentry')
    exact hb

/-- What is shown of a VLAN is there still, with counters that have not fallen. -/
def VlansGrow (s t : Switch) : Prop :=
  ∀ v c, s.vlanCounters.lookup v = some c → ∃ c', t.vlanCounters.lookup v = some c' ∧ c.AtMost c'

theorem VlansGrow.refl (s : Switch) : s.VlansGrow s := fun _ c h => ⟨c, h, .refl c⟩

theorem VlansGrow.trans {s t u : Switch} (h : s.VlansGrow t) (h' : t.VlansGrow u) :
    s.VlansGrow u := by
  intro v c hc
  obtain ⟨c', hc', hle⟩ := h v c hc
  obtain ⟨c'', hc'', hle'⟩ := h' v c' hc'
  exact ⟨c'', hc'', hle.trans hle'⟩

/-- Counting something for a VLAN lets the VLANs grow. -/
theorem vlansGrow_entryOrDefault {s t : Switch} (vlan : Vlan) (gain : Counters)
    (ht : t.vlanCounters = s.vlanCounters.entryOrDefault vlan fun c => c + gain) :
    s.VlansGrow t := by
  intro v c hc
  rw [ht, Finmap.lookup_entryOrDefault]
  split
  · next hv =>
    refine ⟨_, rfl, ?_⟩
    rw [← hv, Finmap.getOrDefault, hc, Option.getD_some]
    exact .add_right c gain
  · exact ⟨c, hc, .refl c⟩

theorem vlansGrow_foldl_countOut (s : Switch) (vlan : Vlan) (ds : List Delivery) :
    s.VlansGrow (ds.foldl (fun s d => s.countOut vlan d) s) := by
  induction ds generalizing s with
  | nil => exact .refl s
  | cons d ds ih =>
    have hcount : s.VlansGrow (s.countOut vlan d) :=
      vlansGrow_entryOrDefault vlan (.outOne d.bytes.length) rfl
    exact hcount.trans (ih _)

/-- **No operation takes a count from a VLAN.** -/
theorem vlansGrow_next (s : Switch) (op : Op) : s.VlansGrow (machine.next s op) := by
  cases op with
  | forward ingress frame now =>
    change s.VlansGrow (s.forward ingress frame now).2
    rw [forward_eq]
    rcases s.verdict ingress frame with _ | _ | _ | e | vlan
    · exact .refl s
    · exact .refl s
    · exact .refl s
    · exact .refl s
    · have hin : s.VlansGrow (s.letIn ingress vlan frame now) :=
        vlansGrow_entryOrDefault vlan (.inOne frame.wireLen)
          (vlanCounters_letIn s ingress vlan frame now)
      exact hin.trans (vlansGrow_foldl_countOut _ vlan _)
  | _ => exact .refl s

end Switch

/-! ### What the daemon shows, from one moment to a later one -/

namespace Daemon

/-- The ports have numbers that were handed out. -/
def Numbered (d : Daemon) : Prop := ∀ p ∈ d.switch.ports, p.id.toNat < d.portIds.id.toNat

theorem numbered_reload (d : Daemon) (probeId : UInt64) (specs : List (Spec × Tap)) :
    (d.reload (.loaded probeId specs)).Numbered := by
  intro p hp
  obtain ⟨a, ha, rfl, -⟩ := mem_ports_reload.mp hp
  have hmem : a.port.id.toNat ∈ (attempts d.portIds specs).map fun a => a.port.id.toNat :=
    List.mem_map_of_mem ha
  rw [map_id_attempts, List.mem_range'_1] at hmem
  rw [reload, portIds_respawnAll]
  exact hmem.2

theorem numbered_startUp {probeId : UInt64} {specs : List (Spec × Tap)} {d : Daemon}
    (h : startUp probeId specs = .ok d) : d.Numbered := by
  obtain rfl := eq_respawnAll_of_spawnAll h
  exact numbered_reload ⟨Switch.withProbeId probeId, ∅, ⟨0⟩⟩ probeId specs

/-- **From one moment to a later one**, whatever happens in between: a port that is shown
later was shown before, in the same mode, with counters that have not fallen, and blocked
still if it was, or else its number was handed out in between. -/
structure NeverFalls (d d' : Daemon) : Prop where
  portIds : d.portIds.id.toNat ≤ d'.portIds.id.toNat
  ports : ∀ p c' blocked' mode, d'.switch.portSnapshot p = some (c', blocked', mode) →
    (∃ c blocked, d.switch.portSnapshot p = some (c, blocked, mode) ∧ c.AtMost c' ∧
      (blocked = true → blocked' = true)) ∨
      (d.portIds.id.toNat ≤ p.id.toNat ∧ p.id.toNat < d'.portIds.id.toNat)

theorem NeverFalls.refl (d : Daemon) : d.NeverFalls d :=
  ⟨le_rfl, fun _ c blocked _ h => Or.inl ⟨c, blocked, h, .refl c, id⟩⟩

theorem NeverFalls.trans {d d' d'' : Daemon} (h : d.NeverFalls d') (h' : d'.NeverFalls d'') :
    d.NeverFalls d'' := by
  refine ⟨h.portIds.trans h'.portIds, fun p c'' blocked'' mode hp => ?_⟩
  rcases h'.ports p c'' blocked'' mode hp with ⟨c', blocked', hp', hle', hb'⟩ | hlate
  · rcases h.ports p c' blocked' mode hp' with ⟨c, blocked, hp, hle, hb⟩ | hlate
    · exact Or.inl ⟨c, blocked, hp, hle.trans hle', fun hblocked => hb' (hb hblocked)⟩
    · exact Or.inr ⟨hlate.1, hlate.2.trans_le h'.portIds⟩
  · exact Or.inr ⟨h.portIds.trans hlate.1, hlate.2⟩

theorem NeverFalls.numbered {d d' : Daemon} (h : d.NeverFalls d') (hd : d.Numbered) :
    d'.Numbered := by
  intro p hp
  obtain ⟨⟨mode, blocked⟩, hentry⟩ := Finmap.mem_iff.mp hp
  have hp' := Switch.portSnapshot_eq_some.mpr ⟨hentry, rfl⟩
  rcases h.ports p _ _ _ hp' with ⟨c, b, hbefore, -⟩ | hlate
  · obtain ⟨hentry', -⟩ := Switch.portSnapshot_eq_some.mp hbefore
    exact (hd p (Finmap.mem_of_lookup_eq_some hentry')).trans_le h.portIds
  · exact hlate.2

theorem le_portIds_next (d : Daemon) (wake : Wake) :
    d.portIds.id.toNat ≤ (daemonMachine.next d wake).portIds.id.toNat :=
  Loop.le_portIds_run ⟨d, 0, []⟩ [.wakes wake]

/-- **One turn of the loop.** -/
theorem neverFalls_next (d : Daemon) (wake : Wake) : d.NeverFalls (daemonMachine.next d wake) := by
  refine ⟨d.le_portIds_next wake, fun p c' blocked' mode hp => ?_⟩
  by_cases hreload : wake.Reloads
  · -- a port of the new switch has a number that is handed out now
    obtain ⟨probeId, specs, rfl⟩ := hreload
    obtain ⟨hentry, -⟩ := Switch.portSnapshot_eq_some.mp hp
    have hmem := Finmap.mem_of_lookup_eq_some hentry
    obtain ⟨a, ha, rfl, -⟩ := mem_ports_reload.mp hmem
    exact Or.inr ⟨le_of_mem_attempts ha, d.numbered_reload probeId specs _ hmem⟩
  · left
    rcases d.exists_op_of_not_reloads hreload with heq | ⟨op, heq, hadd, hunblock⟩
    · rw [heq] at hp
      exact ⟨c', blocked', hp, .refl c', id⟩
    · rw [heq] at hp
      exact Switch.portSnapshot_next hadd hunblock hp

end Daemon

/-! ### The requests in the process -/

/-- A request for the counters, or the loop's turn to answer one. -/
def Move.Reading : Move → Bool
  | .asks _ => true
  | .answers => true
  | _ => false

/-- A request, or a reply. -/
def Happening.Reading : Happening → Bool
  | .asked _ => true
  | .replied _ _ => true
  | _ => false

/-- Who makes a request. -/
def Happening.client? : Happening → Option Client
  | .asked client => some client
  | _ => none

/-- Who is replied to, and with what. -/
def Happening.reply? : Happening → Option (Client × String)
  | .replied client json => some (client, json)
  | _ => none

/-- The requests, in order. -/
def asked (h : List Happening) : List Client := h.filterMap Happening.client?

/-- The replies, in order. -/
def replied (h : List Happening) : List (Client × String) := h.filterMap Happening.reply?

namespace Process

/-- Nothing else makes a request or a reply. -/
theorem reading_of_mem_out {s : Process} {move : Move} (h : move.Reading = false) {e : Happening}
    (he : e ∈ processMachine.out s move) : e.Reading = false := by
  cases causes_of_mem_out he with
  | asked => cases h
  | replied => cases h
  | offered hmem =>
    obtain ⟨d, -, rfl | rfl⟩ := mem_trySendAll hmem
    · rfl
    · rfl
  | _ => rfl

/-- A step that does not see the requests: it does the same whatever they are, and leaves
them as they are. -/
def Blind (f : Process → List Happening × Process) : Prop :=
  ∀ (s : Process) (requests : List Client),
    f { s with requests } = ((f s).1, { (f s).2 with requests })

theorem blind_reads (p : PortId) (answer : Except IoError (List UInt8)) :
    Blind (·.reads p answer) := by
  rintro ⟨daemon, tasks, events, waiting⟩ requests
  dsimp only [Process.reads]
  rcases tasks.lookup p with _ | t
  · rfl
  · dsimp only
    split
    · rfl
    · rfl

theorem blind_takes (p : PortId) : Blind (·.takes p) := by
  rintro ⟨daemon, tasks, events, waiting⟩ requests
  dsimp only [Process.takes]
  rcases tasks.lookup p with _ | t
  · rfl
  · dsimp only
    split
    · rfl
    · rfl

theorem blind_sends (p : PortId) (answer : Except IoError ℕ) : Blind (·.sends p answer) := by
  rintro ⟨daemon, tasks, events, waiting⟩ requests
  dsimp only [Process.sends]
  rcases tasks.lookup p with _ | t
  · rfl
  · dsimp only
    split
    · rfl
    · rfl

theorem blind_ends (p : PortId) : Blind (·.ends p) := by
  rintro ⟨daemon, tasks, events, waiting⟩ requests
  dsimp only [Process.ends]
  rcases tasks.lookup p with _ | t
  · rfl
  · dsimp only
    split
    · rfl
    · rfl

theorem blind_handles (now : Instant) : Blind (·.handles now) := by
  rintro ⟨daemon, tasks, _ | ⟨⟨ingress, event⟩, events⟩, waiting⟩ requests
  · rfl
  · rfl

theorem blind_reload (load : Load) : Blind fun s => ([], s.reload load) := by
  rintro ⟨daemon, tasks, events, waiting⟩ requests
  rcases load with _ | _ | ⟨probeId, specs⟩
  · rfl
  · rfl
  · dsimp only [Process.reload]
    rw [respawnAll_eq, respawnAll_eq]
    rfl

/-- **The other moves do not see the requests.** -/
theorem blind_step {move : Move} (h : move.Reading = false) :
    Blind (processMachine.step · move) := by
  cases move with
  | asks client => cases h
  | answers => cases h
  | reads p answer => exact blind_reads p answer
  | takes p => exact blind_takes p
  | sends p answer => exact blind_sends p answer
  | ends p => exact blind_ends p
  | handles now => exact blind_handles now
  | sighup load => exact blind_reload load
  | sigusr1 => exact fun _ _ => rfl
  | ageSweep now => exact fun _ _ => rfl
  | loopProbe => exact fun _ _ => rfl

theorem step_requests (s : Process) (requests : List Client) {move : Move}
    (h : move.Reading = false) :
    processMachine.out { s with requests } move = processMachine.out s move ∧
      processMachine.next { s with requests } move =
        { processMachine.next s move with requests } := by
  have hstep := blind_step h s requests
  exact ⟨(Prod.ext_iff.mp hstep).1, (Prod.ext_iff.mp hstep).2⟩

/-- A move of the dashboard changes nothing but the requests, and does nothing else. -/
theorem step_reading (s : Process) {move : Move} (h : move.Reading = true) :
    (processMachine.out s move).filter (fun e => !e.Reading) = [] ∧
      ∃ requests, processMachine.next s move = { s with requests } := by
  obtain ⟨daemon, tasks, events, waiting⟩ := s
  cases move with
  | asks client => exact ⟨rfl, _, rfl⟩
  | answers =>
    rcases waiting with _ | ⟨client, waiting⟩
    · exact ⟨rfl, _, rfl⟩
    · exact ⟨rfl, _, rfl⟩
  | _ => cases h

/-- **The rest of the process does not notice the dashboard**: without its moves, all else
goes the same way. -/
theorem run_without_readings (s : Process) (requests : List Client) (moves : List Move) :
    processMachine.run { s with requests } (moves.filter fun move => !move.Reading) =
        { processMachine.run s moves with requests } ∧
      processMachine.history { s with requests } (moves.filter fun move => !move.Reading) =
        (processMachine.history s moves).filter fun e => !e.Reading := by
  induction moves generalizing s with
  | nil => exact ⟨rfl, rfl⟩
  | cons move moves ih =>
    obtain ⟨hrun, hhistory⟩ := ih (processMachine.next s move)
    rw [Machine.run_cons, Machine.history_cons, List.filter_append]
    rcases hmove : move.Reading with _ | _
    · obtain ⟨hout, hnext⟩ := s.step_requests requests hmove
      have hkeep : (processMachine.out s move).filter (fun e => !e.Reading) =
          processMachine.out s move := by
        rw [List.filter_eq_self]
        intro e he
        rw [reading_of_mem_out hmove he]
        rfl
      rw [List.filter_cons_of_pos (by rw [hmove]; rfl), Machine.run_cons, Machine.history_cons,
        hout, hnext, hrun, hhistory, hkeep]
      exact ⟨rfl, rfl⟩
    · obtain ⟨hout, requests', hnext⟩ := s.step_reading hmove
      rw [hnext] at hrun hhistory
      rw [List.filter_cons_of_neg (by rw [hmove]; exact Bool.false_ne_true), hout, hnext]
      exact ⟨hrun, hhistory⟩

/-- **The requests are answered in the order they are made in**, each once: one step. -/
theorem inOrder_next (s : Process) (move : Move) :
    s.requests ++ asked (processMachine.out s move) =
      (replied (processMachine.out s move)).map Prod.fst ++
        (processMachine.next s move).requests := by
  rcases hmove : move.Reading with _ | _
  · have hasked : asked (processMachine.out s move) = [] := by
      rw [asked, List.filterMap_eq_nil_iff]
      intro e he
      have hreading := reading_of_mem_out hmove he
      cases e with
      | asked => cases hreading
      | _ => rfl
    have hreplied : replied (processMachine.out s move) = [] := by
      rw [replied, List.filterMap_eq_nil_iff]
      intro e he
      have hreading := reading_of_mem_out hmove he
      cases e with
      | replied => cases hreading
      | _ => rfl
    have hrequests : (processMachine.next s move).requests = s.requests := by
      have heq := congrArg Process.requests (s.step_requests s.requests hmove).2
      exact heq
    rw [hasked, hreplied, hrequests, List.append_nil]
    rfl
  · cases move with
    | asks client => rfl
    | answers =>
      obtain ⟨daemon, tasks, events, waiting⟩ := s
      rcases waiting with _ | ⟨client, waiting⟩
      · rfl
      · exact List.append_nil _
    | _ => cases hmove

theorem inOrder_run {s : Process} (h : s.requests = []) (moves : List Move) :
    asked (processMachine.history s moves) =
      (replied (processMachine.history s moves)).map Prod.fst ++
        (processMachine.run s moves).requests := by
  refine processMachine.history_invariant (P := fun _ _ => True) (h := [])
    (I := fun t h => asked h = (replied h).map Prod.fst ++ t.requests)
    (fun t h move _ ih => ?_) (fun _ _ => trivial) ?_
  · rw [asked, List.filterMap_append, replied, List.filterMap_append, List.map_append]
    rw [asked, replied] at ih
    rw [ih, List.append_assoc, List.append_assoc]
    exact congrArg _ (t.inOrder_next move)
  · exact h.symm

/-- **Where a reply comes from**: the loop turns to the request that has waited longest,
and shows the switch as it is then. -/
theorem exists_of_replied {s : Process} {moves : List Move} {h₁ h₂ : List Happening}
    {client : Client} {json : String}
    (h : processMachine.history s moves = h₁ ++ .replied client json :: h₂) :
    ∃ pre post waiting, moves = pre ++ .answers :: post ∧ processMachine.history s pre = h₁ ∧
      (processMachine.run s pre).requests = client :: waiting ∧
      json = renderCountersJson (processMachine.run s pre).daemon.switch := by
  obtain ⟨pre, move, post, o₁, o₂, rfl, hout, rfl⟩ := processMachine.exists_of_history_eq h
  have hmem : .replied client json ∈ processMachine.out (processMachine.run s pre) move := by
    rw [hout]
    exact List.mem_append_right _ List.mem_cons_self
  have hcause := causes_of_mem_out hmem
  generalize heq : Happening.replied client json = e at hcause
  cases hcause with
  | @replied client' waiting hwaiting =>
    obtain ⟨rfl, rfl⟩ := Happening.replied.inj heq
    -- the reply is all that happens in this step
    have hnil : o₁ = [] := by
      have hanswers : processMachine.out (processMachine.run s pre) .answers =
          [.replied client (renderCountersJson (processMachine.run s pre).daemon.switch)] := by
        change (processMachine.run s pre).answers.1 = _
        rw [answers, hwaiting]
      have hlen := congrArg List.length (hanswers.symm.trans hout)
      rw [List.length_append, List.length_cons, List.length_cons] at hlen
      exact List.length_eq_zero_iff.mp (by rw [List.length_nil] at hlen; omega)
    exact ⟨pre, post, waiting, rfl, by rw [hnil, List.append_nil], hwaiting, rfl⟩
  | offered he =>
    obtain ⟨d, -, rfl | rfl⟩ := mem_trySendAll he
    · cases heq
    · cases heq
  | _ => cases heq

/-! ### From one reading to the next -/

/-- A process that has begun has no requests, and ports with numbers that were handed out. -/
theorem requests_startUp {probeId : UInt64} {specs : List (Spec × Tap)} {s : Process}
    (h : startUp probeId specs = .ok s) : s.requests = [] ∧ s.daemon.Numbered := by
  obtain ⟨hrespawn, hdaemon⟩ := eq_respawnAll_of_spawnAll h
  refine ⟨?_, Daemon.numbered_startUp hdaemon⟩
  rw [hrespawn, respawnAll_eq]

theorem neverFalls_run (s : Process) (moves : List Move) :
    s.daemon.NeverFalls (processMachine.run s moves).daemon := by
  refine processMachine.run_invariant (I := fun t => s.daemon.NeverFalls t.daemon)
    (P := fun _ => True) (fun t move _ ht => ?_) (fun _ _ => trivial) (.refl s.daemon)
  rw [t.daemon_next move]
  rcases t.wake move with _ | wake
  · exact ht
  · exact ht.trans (t.daemon.neverFalls_next wake)

/-- Without a reload, no count of a VLAN falls either. -/
theorem vlansGrow_run (s : Process) {moves : List Move}
    (h : ∀ probeId specs, .sighup (.loaded probeId specs) ∉ moves) :
    s.daemon.switch.VlansGrow (processMachine.run s moves).daemon.switch := by
  refine processMachine.run_invariant (I := fun t => s.daemon.switch.VlansGrow t.daemon.switch)
    (P := fun move => ∀ probeId specs, move ≠ .sighup (.loaded probeId specs))
    (fun t move hmove ht => ?_) (fun move hmem probeId specs heq => h probeId specs (heq ▸ hmem))
    (.refl s.daemon.switch)
  rw [t.daemon_next move]
  rcases hwake : t.wake move with _ | wake
  · exact ht
  · have hreload : ¬wake.Reloads := by
      rintro ⟨probeId, specs, rfl⟩
      cases move with
      | sighup load =>
        obtain rfl := Wake.sighup.inj (Option.some.inj hwake)
        exact hmove probeId specs rfl
      | handles now =>
        obtain ⟨e, -, he⟩ := Option.map_eq_some_iff.mp hwake
        cases he
      | _ => cases hwake
    refine ht.trans ?_
    change t.daemon.switch.VlansGrow (daemonMachine.next t.daemon wake).switch
    rcases t.daemon.exists_op_of_not_reloads hreload with heq | ⟨op, heq, -⟩
    · rw [heq]
      exact .refl _
    · rw [heq]
      exact t.daemon.switch.vlansGrow_next op

end Process

/-- **No reading falls behind an earlier one.** In a run of the process from a start-up, with
requests for the counters anywhere in it, all else goes as it would go without them; they
are replied to in the order they are made in, once to each; and a reply shows the switch at
a moment after the request. Of two replies the second shows a later moment, and what it
shows of a port is either of a port that the first shows too, in the same mode, with no
count lower, and blocked if it was blocked there, or of a port with a number above all that
the first shows, whatever was reloaded in between. Without a reload in between, what the
first shows of a VLAN is there as well, and no count of it is lower. -/
theorem readings_never_fall {probeId : UInt64} {specs : List (Spec × Tap)} {s₀ : Process}
    (h₀ : Process.startUp probeId specs = .ok s₀) {moves : List Move} {h : List Happening}
    (hh : h = processMachine.history s₀ moves) :
    (processMachine.run s₀ (moves.filter fun move => !move.Reading) =
        { processMachine.run s₀ moves with requests := [] } ∧
      processMachine.history s₀ (moves.filter fun move => !move.Reading) =
        h.filter fun e => !e.Reading) ∧
    asked h = (replied h).map Prod.fst ++ (processMachine.run s₀ moves).requests ∧
    (∀ h₁ client json h₂, h = h₁ ++ .replied client json :: h₂ → ∃ pre post waiting,
      moves = pre ++ .answers :: post ∧ processMachine.history s₀ pre = h₁ ∧
      asked h₁ = (replied h₁).map Prod.fst ++ client :: waiting ∧
      json = renderCountersJson (processMachine.run s₀ pre).daemon.switch) ∧
    ∀ h₁ client json h₂ client' json' h₃,
      h = h₁ ++ .replied client json :: h₂ ++ .replied client' json' :: h₃ →
      ∃ pre mid post s s', moves = pre ++ .answers :: mid ++ .answers :: post ∧
        s = (processMachine.run s₀ pre).daemon.switch ∧
        s' = (processMachine.run s₀ (pre ++ .answers :: mid)).daemon.switch ∧
        json = renderCountersJson s ∧ json' = renderCountersJson s' ∧
        (∀ p c' blocked' mode, s'.portSnapshot p = some (c', blocked', mode) →
          (∃ c blocked, s.portSnapshot p = some (c, blocked, mode) ∧ c.AtMost c' ∧
            (blocked = true → blocked' = true)) ∨ ∀ q, (s.portSnapshot q).isSome → q < p) ∧
        ((∀ probeId specs, .sighup (.loaded probeId specs) ∉ mid) → s.VlansGrow s') := by
  subst hh
  obtain ⟨hrequests, hnumbered⟩ := Process.requests_startUp h₀
  have hwithout := s₀.run_without_readings [] moves
  rw [← hrequests] at hwithout
  refine ⟨hrequests ▸ hwithout, Process.inOrder_run hrequests moves,
    fun h₁ client json h₂ hsplit => ?_, fun h₁ client json h₂ client' json' h₃ hsplit => ?_⟩
  · obtain ⟨pre, post, waiting, hmoves, hpre, hwaiting, hjson⟩ := Process.exists_of_replied hsplit
    have horder := Process.inOrder_run hrequests pre
    rw [hpre, hwaiting] at horder
    exact ⟨pre, post, waiting, hmoves, hpre, horder, hjson⟩
  · obtain ⟨upto, post, _, rfl, hupto, -, rfl⟩ := Process.exists_of_replied hsplit
    obtain ⟨pre, mid, _, rfl, -, -, rfl⟩ := Process.exists_of_replied hupto
    have hmid : processMachine.run s₀ (pre ++ .answers :: mid) =
        processMachine.run (processMachine.run s₀ pre).answers.2 mid := Machine.run_append ..
    have hdaemon : (processMachine.run s₀ pre).answers.2.daemon =
        (processMachine.run s₀ pre).daemon := by
      exact (processMachine.run s₀ pre).daemon_next .answers
    refine ⟨pre, mid, post, _, _, rfl, rfl, rfl, rfl, rfl, fun p c' blocked' mode hp => ?_,
      fun hreload => ?_⟩
    · rw [hmid] at hp
      have hfalls := (processMachine.run s₀ pre).answers.2.neverFalls_run mid
      rw [hdaemon] at hfalls
      rcases hfalls.ports p c' blocked' mode hp with hbefore | ⟨hlate, -⟩
      · exact Or.inl hbefore
      · refine Or.inr fun q hq => ?_
        obtain ⟨entry, hentry⟩ := Option.isSome_iff_exists.mp ((Option.isSome_map ..).symm.trans hq)
        have hlt := (s₀.neverFalls_run pre).numbered hnumbered q
          (Finmap.mem_of_lookup_eq_some hentry)
        exact hlt.trans_le hlate
    · have hgrow := (processMachine.run s₀ pre).answers.2.vlansGrow_run hreload
      rw [hdaemon, ← hmid] at hgrow
      exact hgrow

/-- Two readings, with a frame on the only port in between. -/
theorem readings_never_fall_twice :
    ∃ s₀ s s', Process.startUp 7 [(⟨"tap0", .access 10⟩, ⟨true, true⟩)] = .ok s₀ ∧
      replied (processMachine.history s₀ [.asks 0, .answers,
          .reads ⟨0⟩ (.ok (hostFrame 1 2).wireBytes), .handles 5, .asks 1, .answers]) =
        [(0, renderCountersJson s), (1, renderCountersJson s')] ∧ s.VlansGrow s' := by
  obtain ⟨pre, mid, post, s, s', hmoves, -, -, hjson, hjson', -, hvlans⟩ :=
    (@readings_never_fall 7 [(⟨"tap0", .access 10⟩, ⟨true, true⟩)] _ rfl [.asks 0, .answers,
      .reads ⟨0⟩ (.ok (hostFrame 1 2).wireBytes), .handles 5, .asks 1, .answers] _ rfl).2.2.2
        [.asked 0] 0 _ [.reported ⟨0⟩ (.frame (hostFrame 1 2).wireBytes),
          .handled ⟨0⟩ (.frame (hostFrame 1 2).wireBytes), .asked 1] 1 _ [] rfl
  refine ⟨_, s, s', rfl, ?_, hvlans fun probeId specs hmem => ?_⟩
  · rw [← hjson, ← hjson']
    rfl
  · have hmem' : Move.sighup (.loaded probeId specs) ∈ pre ++ .answers :: mid ++ .answers :: post :=
      List.mem_append_left _ (List.mem_append_right _ (List.mem_cons_of_mem _ hmem))
    rw [← hmoves] at hmem'
    simp at hmem'

end VlanSwitch
