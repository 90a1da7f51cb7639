import VlanSwitch.Network.Wiring

/-!
# The loop guard raises no false alarm

A blocked port is out of service until someone acts, so it matters what can get it
blocked. In a network where every switch draws probe ids of its own there are three
reasons, whatever else happens, and in whatever order: it was blocked on purpose; it is
cabled to a port of the same switch, out of which the switch sent its probe; or the host
on it sent in a probe of that switch (`VlanSwitch.no_false_alarm`). In particular a loop
through two switches or more blocks nothing, and no host gets a port blocked but its own.

The reason is that probes travel one cable only: a switch sends on no frame that reads
as a probe (`VlanSwitch.Network.Traceable`), so that a probe that arrives has come straight
from the switch that built it, or from the host on the port.
-/

namespace VlanSwitch

open Switch

namespace Switch

/-- **What makes an operation block a port**: it is told to, or it meets its own probe
there. -/
theorem isBlocked_next {s : Switch} {op : Op} {p : PortId}
    (h : (machine.next s op).isBlocked p = true) :
    s.isBlocked p = true ∨ op = .blockPort p ∨
      ∃ frame now, op = .forward p frame now ∧ LoopGuard.isOwnProbe frame s.probeId := by
  by_cases hs : s.isBlocked p = true
  · exact Or.inl hs
  · -- an operation on another port leaves the flag alone
    have hother : ∀ t : Switch, t.ports.lookup p = s.ports.lookup p → t.isBlocked p ≠ true :=
      fun t ht => by rwa [isBlocked_congr ht]
    cases op with
    | addPort q mode =>
      have hlookup := s.lookup_ports_addPort q p mode
      split at hlookup
      · obtain ⟨entry, hentry, hblocked⟩ := isBlocked_eq_true.mp h
        obtain rfl := Option.some.inj (hlookup.symm.trans hentry)
        cases hblocked
      · exact absurd h (hother _ hlookup)
    | removePort q =>
      have hlookup := s.lookup_ports_removePort q p
      split at hlookup
      · obtain ⟨entry, hentry, -⟩ := isBlocked_eq_true.mp h
        cases hlookup.symm.trans hentry
      · exact absurd h (hother _ hlookup)
    | blockPort q =>
      have hlookup := s.lookup_ports_blockPort q p
      split at hlookup
      · next hq => exact Or.inr (Or.inl (congrArg _ hq.symm))
      · exact absurd h (hother _ hlookup)
    | unblockPort q =>
      have hlookup := s.lookup_ports_unblockPort q p
      split at hlookup
      · obtain ⟨entry, hentry, hblocked⟩ := isBlocked_eq_true.mp h
        obtain ⟨entry', -, rfl⟩ := Option.map_eq_some_iff.mp (hlookup.symm.trans hentry)
        cases hblocked
      · exact absurd h (hother _ hlookup)
    | ageOut maxAge now => exact absurd h hs
    | forward ingress frame now =>
      have hne : (s.forward ingress frame now).2.isBlocked p ≠ s.isBlocked p := fun heq =>
        hs (heq.symm.trans h)
      obtain ⟨hown, rfl⟩ := isOwnProbe_of_isBlocked_forward hne
      exact Or.inr (Or.inr ⟨frame, now, rfl, hown⟩)

/-- **A switch sends on nothing that reads as a probe.** -/
theorem exists_parse_of_mem {s : Switch} {ingress : PortId} {frame : EthernetFrame}
    {now : Instant} {ds : List Delivery} (hds : (s.forward ingress frame now).1 = .ok ds)
    {d : Delivery} (hd : d ∈ ds) :
    ∃ frame', EthernetFrame.parse d.bytes = .ok frame' ∧ ¬LoopGuard.isAnyProbe frame' := by
  obtain ⟨vlan, hr, rfl⟩ := exists_resolves_of_mem hds hd
  obtain ⟨entry, -, -, henc, heq⟩ := encodeForEgress_eq_some.mp (mem_deliveries.mp hd).2
  refine ⟨(egressFrame entry.mode vlan frame).masked, ?_, ?_⟩
  · rw [heq]
    exact EthernetFrame.parse_wireBytes henc
  · rw [(sameContent_egressFrame entry.mode vlan frame).isAnyProbe_iff]
    exact hr.1

/-- A built probe reads as the probe of its switch. -/
theorem parse_buildLoopProbe (s : Switch) :
    EthernetFrame.parse s.buildLoopProbe = .ok (LoopGuard.returnedFrame s.probeId none []) := by
  have hread := LoopGuard.parse_returned s.probeId none []
  rwa [LoopGuard.returned, EthernetFrame.insertTag, EthernetFrame.tagBytes, List.nil_append,
    List.take_append_drop, List.append_nil] at hread

end Switch

namespace Network

variable {ν : Type} {w : Wiring ν}

/-- Frames come in as bytes: no one hands a frame to a switch past its ports. -/
def Act.OnWire : Act ν → Prop
  | .manage _ (.forward ..) => False
  | _ => True

/-- A probe id a switch has drawn, at the start or when it started anew. -/
def Drawn (ids : ν → UInt64) (acts : List (Act ν)) (n : ν) (probeId : UInt64) : Prop :=
  ids n = probeId ∨ .renew n probeId ∈ acts

theorem Drawn.mono {ids : ν → UInt64} {acts : List (Act ν)} {n : ν} {probeId : UInt64}
    (h : Drawn ids acts n probeId) (act : Act ν) : Drawn ids (acts ++ [act]) n probeId := by
  rcases h with h | h
  · exact Or.inl h
  · exact Or.inr (List.mem_append_left _ h)

/-- A switch sent its probe out of a port. -/
def Probed (ids : ν → UInt64) (acts : List (Act ν)) (socket : Socket ν) (probeId : UInt64) :
    Prop :=
  Drawn ids acts socket.1 probeId ∧ ∃ ports, .tick socket.1 ports ∈ acts ∧ socket.2 ∈ ports

theorem Probed.mono {ids : ν → UInt64} {acts : List (Act ν)} {socket : Socket ν}
    {probeId : UInt64} (h : Probed ids acts socket probeId) (act : Act ν) :
    Probed ids (acts ++ [act]) socket probeId := by
  obtain ⟨hdrawn, ports, htick, hmem⟩ := h
  exact ⟨hdrawn.mono act, ports, List.mem_append_left _ htick, hmem⟩

/-- **What is in flight can be traced to its sender**, as far as probes go: a host sent it
in, or the switch at the other end sent it as its probe, or it is no probe. -/
def Traceable (w : Wiring ν) (ids : ν → UInt64) (acts : List (Act ν)) (socket : Socket ν)
    (bytes : List UInt8) : Prop :=
  (w.mate socket = none ∧ .inject socket bytes ∈ acts) ∨
    (∃ src probeId, w.mate src = some socket ∧ Probed ids acts src probeId ∧
      EthernetFrame.parse bytes = .ok (LoopGuard.returnedFrame probeId none [])) ∨
    ∃ frame, EthernetFrame.parse bytes = .ok frame ∧ ¬LoopGuard.isAnyProbe frame

theorem Traceable.mono {ids : ν → UInt64} {acts : List (Act ν)} {socket : Socket ν}
    {bytes : List UInt8} (h : Traceable w ids acts socket bytes) (act : Act ν) :
    Traceable w ids (acts ++ [act]) socket bytes := by
  rcases h with ⟨hmate, hmem⟩ | ⟨src, probeId, hmate, hprobed, hparse⟩ | hframe
  · exact Or.inl ⟨hmate, List.mem_append_left _ hmem⟩
  · exact Or.inr (Or.inl ⟨src, probeId, hmate, hprobed.mono act, hparse⟩)
  · exact Or.inr (Or.inr hframe)

variable [DecidableEq ν] {ids : ν → UInt64} {acts : List (Act ν)}

/-- The probe id of a switch is one it has drawn. -/
theorem drawn_run (ids : ν → UInt64) (acts : List (Act ν)) (n : ν) :
    Drawn ids acts n (((networkMachine w).run (fresh ids) acts).nodes n).probeId := by
  induction acts using List.reverseRecOn with
  | nil => exact Or.inl rfl
  | append_singleton acts act ih =>
    rw [Machine.run_concat]
    rcases nodes_next ((networkMachine w).run (fresh ids) acts) act n with
      hsame | ⟨op, -, hop⟩ | ⟨port, bytes, now, frame, -, -, -, hforward⟩ | ⟨probeId, rfl, hnew⟩
    · rw [hsame]
      exact ih.mono act
    · rw [hop, probeId_next]
      exact ih.mono act
    · have hid := probeId_next (((networkMachine w).run (fresh ids) acts).nodes n)
        (.forward port frame now)
      rw [hforward]
      exact hid ▸ ih.mono act
    · rw [hnew]
      exact Or.inr (by simp [Switch.withProbeId])

/-- **Everything in flight can be traced.** -/
theorem traceable_of_mem_flight {socket : Socket ν} {bytes : List UInt8}
    (h : (socket, bytes) ∈ ((networkMachine w).run (fresh ids) acts).flight) :
    Traceable w ids acts socket bytes := by
  induction acts using List.reverseRecOn generalizing socket bytes with
  | nil => exact absurd h (Multiset.notMem_zero _)
  | append_singleton acts act ih =>
    rw [Machine.run_concat] at h
    rcases mem_flight_next h with hold | ⟨rfl, hmate⟩ |
      ⟨src, bytes', now, d, rfl, -, hd, -, rfl⟩ | ⟨n, ports, port, rfl, hport, hmate, rfl⟩
    · exact (ih hold).mono act
    · exact Or.inl ⟨hmate, by simp⟩
    · obtain ⟨frame, ds, -, hds, hmem⟩ := mem_takes hd
      exact Or.inr (Or.inr (exists_parse_of_mem hds hmem))
    · refine Or.inr (Or.inl ⟨(n, port), _, hmate, ⟨?_, ports, by simp, hport⟩,
        parse_buildLoopProbe _⟩)
      exact (drawn_run ids acts n).mono _

/-- What can have a port blocked. -/
def Reason (w : Wiring ν) (ids : ν → UInt64) (acts : List (Act ν)) (n : ν) (p : PortId) : Prop :=
  .manage n (.blockPort p) ∈ acts ∨
    (∃ q probeId, w.mate (n, q) = some (n, p) ∧ Probed ids acts (n, q) probeId) ∨
    ∃ bytes frame probeId, w.mate (n, p) = none ∧ .inject (n, p) bytes ∈ acts ∧
      EthernetFrame.parse bytes = .ok frame ∧ LoopGuard.isOwnProbe frame probeId ∧
      Drawn ids acts n probeId

omit [DecidableEq ν] in
theorem Reason.mono {n : ν} {p : PortId} (h : Reason w ids acts n p) (act : Act ν) :
    Reason w ids (acts ++ [act]) n p := by
  rcases h with hmem | ⟨q, probeId, hmate, hprobed⟩ |
    ⟨bytes, frame, probeId, hmate, hmem, hparse, hown, hdrawn⟩
  · exact Or.inl (List.mem_append_left _ hmem)
  · exact Or.inr (Or.inl ⟨q, probeId, hmate, hprobed.mono act⟩)
  · exact Or.inr (Or.inr ⟨bytes, frame, probeId, hmate, List.mem_append_left _ hmem, hparse, hown,
      hdrawn.mono act⟩)

omit [DecidableEq ν] in
/-- **A probe that arrives at its own switch gives a reason to block the port**: no switch
but its own has drawn its id. -/
theorem reason_of_isOwnProbe {n : ν} {p : PortId} {bytes : List UInt8} {frame : EthernetFrame}
    (hids : ∀ m probeId, Drawn ids acts m probeId → Drawn ids acts n probeId → m = n)
    (htrace : Traceable w ids acts (n, p) bytes) (hparse : EthernetFrame.parse bytes = .ok frame)
    {probeId : UInt64} (hown : LoopGuard.isOwnProbe frame probeId)
    (hdrawn : Drawn ids acts n probeId) : Reason w ids acts n p := by
  rcases htrace with ⟨hmate, hmem⟩ | ⟨⟨m, q⟩, sent, hmate, hprobed, hread⟩ | ⟨read, hread, hany⟩
  · exact Or.inr (Or.inr ⟨bytes, frame, probeId, hmate, hmem, hparse, hown, hdrawn⟩)
  · obtain rfl := Except.ok.inj (hparse.symm.trans hread)
    obtain rfl := LoopGuard.isOwnProbe_returnedFrame.mp hown
    obtain rfl := hids m sent hprobed.1 hdrawn
    exact Or.inr (Or.inl ⟨q, sent, hmate, hprobed⟩)
  · obtain rfl := Except.ok.inj (hparse.symm.trans hread)
    exact absurd hown.isAnyProbe hany

end Network

/-- **No false alarms.** Let switches be wired in any way, no two of them ever drawing the
same probe id, and let anything happen in any order: frames and probes sent, taken and
lost, ports and tables operated on, configurations loaded again. A port that is blocked
has been blocked on purpose, or is cabled to a port of the same switch out of which that
switch sent its probe, or has no cable and the host on it sent in a probe of that very
switch. -/
theorem no_false_alarm {ν : Type} [DecidableEq ν] {w : Wiring ν} {ids : ν → UInt64}
    {acts : List (Network.Act ν)} (hacts : ∀ act ∈ acts, act.OnWire)
    (hids : ∀ m n probeId, Network.Drawn ids acts m probeId → Network.Drawn ids acts n probeId →
      m = n) {n : ν} {p : PortId}
    (h : (((Network.networkMachine w).run (Network.fresh ids) acts).nodes n).isBlocked p = true) :
    .manage n (.blockPort p) ∈ acts ∨
      (∃ q probeId, w.mate (n, q) = some (n, p) ∧ Network.Probed ids acts (n, q) probeId) ∨
      ∃ bytes frame probeId, w.mate (n, p) = none ∧ .inject (n, p) bytes ∈ acts ∧
        EthernetFrame.parse bytes = .ok frame ∧ LoopGuard.isOwnProbe frame probeId ∧
        Network.Drawn ids acts n probeId := by
  change Network.Reason w ids acts n p
  induction acts using List.reverseRecOn with
  | nil => simp [Network.fresh, Switch.withProbeId, isBlocked] at h
  | append_singleton acts act ih =>
    rw [List.forall_mem_append] at hacts
    have hids' : ∀ m n probeId, Network.Drawn ids acts m probeId →
        Network.Drawn ids acts n probeId → m = n := fun m n probeId hm hn =>
      hids m n probeId (hm.mono act) (hn.mono act)
    have hbefore := ih hacts.1 hids'
    rw [Machine.run_concat] at h
    rcases Network.nodes_next ((Network.networkMachine w).run (Network.fresh ids) acts) act n with
      hsame | ⟨op, rfl, hop⟩ | ⟨port, bytes, now, frame, rfl, hflight, hparse, hforward⟩ |
        ⟨probeId, -, hnew⟩
    · rw [hsame] at h
      exact (hbefore h).mono act
    · rw [hop] at h
      rcases isBlocked_next h with hwas | rfl | ⟨frame, now, rfl, -⟩
      · exact (hbefore hwas).mono _
      · exact Or.inl (by simp)
      · exact absurd (hacts.2 _ List.mem_cons_self) id
    · rw [hforward] at h
      rcases @isBlocked_next _ (.forward port frame now) p h with hwas | hop |
        ⟨frame', now', hop, hown⟩
      · exact (hbefore hwas).mono _
      · cases hop
      · -- the probe is one its own switch has drawn, and it can be traced
        obtain ⟨rfl, rfl, -⟩ := Op.forward.inj hop
        exact (Network.reason_of_isOwnProbe (fun m probeId => hids' m n probeId)
          (Network.traceable_of_mem_flight hflight) hparse hown
          (Network.drawn_run ids acts n)).mono _
    · rw [hnew] at h
      simp [Switch.withProbeId, isBlocked] at h

/-- The host on port 1 echoes the probe of its switch, and has the port blocked. -/
theorem no_false_alarm_echo :
    ∃ bytes frame, EthernetFrame.parse bytes = .ok frame ∧
      Network.Act.inject (false, ⟨1⟩) bytes ∈ Network.pairSetUp ++
        [.inject (false, ⟨1⟩) (LoopGuard.buildProbe 7),
          .arrive (false, ⟨1⟩) (LoopGuard.buildProbe 7) 0] ∧ LoopGuard.isAnyProbe frame := by
  have hids : ∀ (m n : Bool) probeId,
      Network.Drawn (fun n => if n then 8 else 7) (Network.pairSetUp ++
        [.inject (false, ⟨1⟩) (LoopGuard.buildProbe 7),
          .arrive (false, ⟨1⟩) (LoopGuard.buildProbe 7) 0]) m probeId →
      Network.Drawn (fun n => if n then 8 else 7) (Network.pairSetUp ++
        [.inject (false, ⟨1⟩) (LoopGuard.buildProbe 7),
          .arrive (false, ⟨1⟩) (LoopGuard.buildProbe 7) 0]) n probeId → m = n := by
    intro m n probeId hm hn
    rcases hm with rfl | hm
    · rcases hn with hn | hn
      · cases m <;> cases n <;> first | rfl | exact absurd hn (by decide)
      · simp [Network.pairSetUp] at hn
    · simp [Network.pairSetUp] at hm
  rcases @no_false_alarm Bool _ Wiring.pair _ _ (by simp [Network.pairSetUp, Network.Act.OnWire])
    hids false ⟨1⟩ (by decide) with hmem | ⟨q, _, hmate, -⟩ |
      ⟨bytes, frame, _, -, hmem, hread, hown, -⟩
  · simp [Network.pairSetUp] at hmem
  · -- no cable leads to port 1
    cases Wiring.pair.symm _ _ hmate
  · exact ⟨bytes, frame, hread, hmem, hown.isAnyProbe⟩

end VlanSwitch
