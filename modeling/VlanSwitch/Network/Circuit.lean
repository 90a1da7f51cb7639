import VlanSwitch.Network.Delivery
import VlanSwitch.Network.Flood

/-!
# A loop through several switches storms for ever

The loop guard finds a loop that closes at one switch. A loop that goes through several
switches (`VlanSwitch.Wiring.Circuit`) it does not find, and this is what comes of it. The
probe of a switch that arrives at another is dropped, so no port of such a loop is blocked
by one (`VlanSwitch.Network.not_isOwnProbe_of_cabled`), and the ports stay up as long as no
one takes them down. A frame for a group address that comes in on the loop then goes out
on it again, in the VLAN it came in (`VlanSwitch.Network.circulating_next`): whatever else
happens, as long as no copy is lost, the copies on the loop never get fewer, and there is
always one more to be taken (`VlanSwitch.storm_through_switches`).
-/

namespace VlanSwitch

open Switch

namespace Switch

/-- **What keeps a port up**: it is neither removed nor blocked, and its switch's own probe
does not come in on it. -/
theorem up_next {s : Switch} {op : Op} {p : PortId} (h : s.Up p) (hremove : op ≠ .removePort p)
    (hblock : op ≠ .blockPort p)
    (hown : ∀ frame now, op = .forward p frame now → ¬LoopGuard.isOwnProbe frame s.probeId) :
    (machine.next s op).Up p := by
  cases op with
  | addPort q mode =>
    have hlookup := s.lookup_ports_addPort q p mode
    split at hlookup
    · exact ⟨_, hlookup, rfl⟩
    · exact (up_congr hlookup).mpr h
  | removePort q =>
    have hlookup := s.lookup_ports_removePort q p
    rw [if_neg fun hq => hremove (congrArg _ hq.symm)] at hlookup
    exact (up_congr hlookup).mpr h
  | blockPort q =>
    have hlookup := s.lookup_ports_blockPort q p
    rw [if_neg fun hq => hblock (congrArg _ hq.symm)] at hlookup
    exact (up_congr hlookup).mpr h
  | unblockPort q =>
    have hlookup := s.lookup_ports_unblockPort q p
    split at hlookup
    · next hq =>
      obtain ⟨entry, hentry, -⟩ := h
      obtain rfl := hq
      rw [hentry] at hlookup
      exact ⟨_, hlookup, rfl⟩
    · exact (up_congr hlookup).mpr h
  | ageOut maxAge now => exact h
  | forward q frame now =>
    have hports := s.ports_forward q frame now
    split at hports
    · next hverdict =>
      have hne : p ≠ q := by
        rintro rfl
        exact hown frame now rfl (verdict_eq_ownProbe.mp hverdict).2
      have hlookup := s.lookup_ports_blockPort q p
      rw [if_neg hne] at hlookup
      exact (up_congr ((congrArg _ hports).trans hlookup)).mpr h
    · exact (up_congr (congrArg _ hports)).mpr h

end Switch

variable {ν : Type}

/-- **A loop of cables**: a set of sockets closed under the cables, with another one at the
same switch for each of them. -/
structure Wiring.Circuit (w : Wiring ν) (C : Socket ν → Bool) : Prop where
  cabled : ∀ a, C a → ∃ b, w.mate a = some b ∧ C b
  turns : ∀ a, C a → ∃ q, q ≠ a.2 ∧ C (a.1, q)

namespace Network

/-- On the loop, and a copy of the frame. -/
def circling (C : Socket ν → Bool) (frame₀ : EthernetFrame) (item : Socket ν × List UInt8) : Bool :=
  C item.1 && ofContent frame₀ item.2

/-- How many copies are on the loop. -/
def circulating (C : Socket ν → Bool) (frame₀ : EthernetFrame) (s : Network ν) : ℕ :=
  s.flight.countP fun item => circling C frame₀ item = true

/-- No one takes a port of the loop down, or a copy off it. -/
def Act.Spares (C : Socket ν → Bool) (frame₀ : EthernetFrame) : Act ν → Prop
  | .manage n (.removePort p) => C (n, p) = false
  | .manage n (.blockPort p) => C (n, p) = false
  | .renew n _ => ∀ p, C (n, p) = false
  | .lose socket bytes => circling C frame₀ (socket, bytes) = false
  | _ => True

variable [DecidableEq ν] {w : Wiring ν} {plan : Plan w} {C : Socket ν → Bool} {ids : ν → UInt64}
  {frame₀ : EthernetFrame} {acts : List (Act ν)}

/-- **No probe that comes over a cable between two switches is that of the switch it comes
to.** -/
theorem not_isOwnProbe_of_cabled
    (hids : ∀ m n probeId, Drawn ids acts m probeId → Drawn ids acts n probeId → m = n)
    {n m : ν} {p q : PortId} (hmate : w.mate (n, p) = some (m, q)) (hne : m ≠ n)
    {bytes : List UInt8} (hmem : ((n, p), bytes) ∈ ((networkMachine w).run (fresh ids) acts).flight)
    {frame : EthernetFrame} (hparse : EthernetFrame.parse bytes = .ok frame) :
    ¬LoopGuard.isOwnProbe frame (((networkMachine w).run (fresh ids) acts).nodes n).probeId := by
  intro hown
  rcases traceable_of_mem_flight hmem with ⟨hnone, -⟩ | ⟨src, sent, hsrc, hprobed, hread⟩ |
    ⟨read, hread, hany⟩
  · cases hnone.symm.trans hmate
  · -- the switch at the other end drew the id
    obtain rfl := Except.ok.inj (hparse.symm.trans hread)
    rw [LoopGuard.isOwnProbe_returnedFrame] at hown
    have hother : w.mate (n, p) = some src := w.symm _ _ hsrc
    obtain rfl := Option.some.inj (hmate.symm.trans hother)
    refine hne (hids m n sent hprobed.1 ?_)
    rw [hown]
    exact drawn_run ids acts n
  · obtain rfl := Except.ok.inj (hparse.symm.trans hread)
    exact hany hown.isAnyProbe

/-- **The ports of the loop stay up.** -/
theorem up_of_spares
    (hids : ∀ m n probeId, Drawn ids acts m probeId → Drawn ids acts n probeId → m = n)
    (hcircuit : w.Circuit C) (hself : ∀ a b, C a → w.mate a = some b → b.1 ≠ a.1)
    {s : Network ν} (hs : s = (networkMachine w).run (fresh ids) acts) {act : Act ν}
    (hwire : act.OnWire) (hspares : act.Spares C frame₀)
    (hup : ∀ a, C a → (s.nodes a.1).Up a.2) (a : Socket ν) (ha : C a) :
    (((networkMachine w).next s act).nodes a.1).Up a.2 := by
  obtain ⟨n, p⟩ := a
  have hbefore : (s.nodes n).Up p := hup (n, p) ha
  have hon : C (n, p) ≠ false := fun h => Bool.false_ne_true (h.symm.trans ha)
  rcases nodes_next s act n with hsame | ⟨op, rfl, hop⟩ |
    ⟨q, bytes, now, frame, rfl, hflight, hparse, hforward⟩ | ⟨probeId, rfl, -⟩
  · rw [hsame]
    exact hbefore
  · rw [hop]
    refine up_next hbefore ?_ ?_ ?_
    · rintro rfl
      exact hon hspares
    · rintro rfl
      exact hon hspares
    · rintro frame now rfl
      exact absurd hwire id
  · have hnext : (machine.next (s.nodes n) (.forward q frame now)).Up p := by
      refine up_next hbefore (by simp) (by simp) fun frame' now' hop => ?_
      obtain ⟨rfl, rfl, -⟩ := Op.forward.inj hop
      obtain ⟨b, hmate, -⟩ := hcircuit.cabled _ ha
      rw [hs] at hflight ⊢
      exact not_isOwnProbe_of_cabled hids hmate (hself _ _ ha hmate) hflight hparse
    rw [hforward]
    exact hnext
  · exact absurd (hspares p) hon

/-- **A copy on the loop is passed on along it.** -/
theorem exists_circling (hcircuit : w.Circuit C)
    (hvlans : ∀ a b v, C a → C b → (plan.mode a).carries v → (plan.mode b).carries v)
    (hprobe : ¬LoopGuard.isAnyProbe frame₀) (hdst : isGroupAddress frame₀.dst)
    (htype : frame₀.ethertype ≠ tpid8021q) (hacts : ∀ act ∈ acts, act.Planned plan)
    {s : Network ν} (hs : s = (networkMachine w).run (fresh ids) acts)
    (hup : ∀ a, C a → (s.nodes a.1).Up a.2) {socket : Socket ν} {bytes : List UInt8}
    (hmem : (socket, bytes) ∈ s.flight) (hcircling : circling C frame₀ (socket, bytes) = true)
    (now : Instant) :
    ∃ item ∈ (takes (s.nodes socket.1) socket.2 bytes now).1.filterMap (outgoing w socket.1),
      circling C frame₀ item = true := by
  obtain ⟨hC, hof⟩ := Bool.and_eq_true_iff.mp hcircling
  obtain ⟨frame, hparse, hcontent⟩ := exists_of_ofContent hof
  have hnot : ¬LoopGuard.isAnyProbe frame := fun h => hprobe (hcontent.isAnyProbe_iff.mp h)
  have hstanding : Standing plan s := hs ▸ standing_run plan ids hacts
  obtain ⟨b, hmate, -⟩ := hcircuit.cabled socket hC
  rcases allowed_of_mem_flight hacts (hs ▸ hmem) with ⟨hnone, -⟩ | ⟨probe, hread, hany⟩ |
    ⟨vlan, frame₁, sent, hpassing⟩
  · cases hnone.symm.trans hmate
  · obtain rfl := Except.ok.inj (hread.symm.trans hparse)
    exact absurd hany hnot
  · -- it is taken in the VLAN it was sent in, which the next cable of the loop carries too
    have hr := hpassing.resolves_of_up hstanding (hup socket hC) hparse hnot
    obtain ⟨q, hne, hq⟩ := hcircuit.turns socket hC
    obtain ⟨c, hnext, hc⟩ := hcircuit.cabled _ hq
    obtain ⟨entry, hentry, hblocked⟩ := hup _ hq
    have hcarries : entry.mode.carries vlan := by
      rw [hstanding.planned _ _ entry hentry (by rw [hnext]; rfl)]
      exact hvlans socket _ vlan hC hq hpassing.carries
    have hroute : ∀ p, ((s.nodes socket.1).letIn socket.2 vlan frame now).macTable.lookup vlan
        frame.dst = some p → p = q := by
      intro p hp
      have hreach := (hstanding.built socket.1).reachable.accept hr now
      have hnone := hreach.lookup_of_isGroupAddress vlan (hcontent.dst ▸ hdst)
      rw [macTable_accept, ← macTable_letIn] at hnone
      cases hnone.symm.trans hp
    obtain ⟨d, hd, rfl⟩ := exists_mem_takes now hparse hr hroute
      (fun h => htype (hcontent.ethertype.symm.trans h)) hentry hblocked hcarries hne
    refine ⟨(c, d.bytes), mem_outgoing.mpr ⟨d, hd, hnext, rfl⟩, Bool.and_eq_true_iff.mpr ⟨hc, ?_⟩⟩
    obtain ⟨frame', ds, hparse', hds, hmemds⟩ := mem_takes hd
    obtain rfl := Except.ok.inj (hparse'.symm.trans hparse)
    exact (ofContent_of_mem hds hmemds).mpr hcontent

/-- **The copies on the loop never get fewer.** -/
theorem circulating_next (hcircuit : w.Circuit C)
    (hvlans : ∀ a b v, C a → C b → (plan.mode a).carries v → (plan.mode b).carries v)
    (hprobe : ¬LoopGuard.isAnyProbe frame₀) (hdst : isGroupAddress frame₀.dst)
    (htype : frame₀.ethertype ≠ tpid8021q) (hacts : ∀ act ∈ acts, act.Planned plan)
    {s : Network ν} (hs : s = (networkMachine w).run (fresh ids) acts)
    (hup : ∀ a, C a → (s.nodes a.1).Up a.2) {act : Act ν} (hspares : act.Spares C frame₀) :
    circulating C frame₀ s ≤ circulating C frame₀ ((networkMachine w).next s act) := by
  cases act with
  | inject socket bytes =>
    change circulating C frame₀ s ≤ circulating C frame₀ (inject w s socket bytes)
    rw [inject]
    split
    · exact Multiset.countP_le_of_le _ (Multiset.le_cons_self _ _)
    · exact Nat.le_refl _
  | arrive socket bytes now =>
    change circulating C frame₀ s ≤ circulating C frame₀ (arrive w s socket bytes now).2
    by_cases hmem : (socket, bytes) ∈ s.flight
    · have hold : circulating C frame₀ s =
          (s.flight.erase (socket, bytes)).countP (fun item => circling C frame₀ item = true) +
            if circling C frame₀ (socket, bytes) then 1 else 0 := by
        rw [circulating, ← Multiset.countP_cons, Multiset.cons_erase hmem]
      rw [arrive_of_mem hmem, hold, circulating, Multiset.countP_add]
      refine Nat.add_le_add_left ?_ _
      split
      · next hcircling =>
        obtain ⟨item, hitem, hon⟩ := exists_circling hcircuit hvlans hprobe hdst htype hacts hs hup
          hmem hcircling now
        exact Multiset.countP_pos.mpr ⟨item, Multiset.mem_coe.mpr hitem, hon⟩
      · exact Nat.zero_le _
    · rw [arrive_of_notMem hmem]
  | lose socket bytes =>
    -- what is lost is not on the loop
    have hfalse : circling C frame₀ (socket, bytes) = false := hspares
    change circulating C frame₀ s ≤ (s.flight.erase (socket, bytes)).countP _
    by_cases hmem : (socket, bytes) ∈ s.flight
    · have hcons := congrArg (Multiset.countP fun item => circling C frame₀ item = true)
        (Multiset.cons_erase hmem)
      rw [Multiset.countP_cons_of_neg _ (by simp [hfalse])] at hcons
      exact hcons.ge
    · rw [Multiset.erase_of_notMem hmem]
      exact Nat.le_refl _
  | tick n ports => exact Multiset.countP_le_of_le _ (Multiset.le_add_right _ _)
  | manage n op => exact Nat.le_refl _
  | renew n probeId => exact Nat.le_refl _

/-- **The ports of the loop stay up, and the copies on it never get fewer**, all along a run. -/
theorem circuit_run (hcircuit : w.Circuit C) (hself : ∀ a b, C a → w.mate a = some b → b.1 ≠ a.1)
    (hvlans : ∀ a b v, C a → C b → (plan.mode a).carries v → (plan.mode b).carries v)
    (hprobe : ¬LoopGuard.isAnyProbe frame₀) (hdst : isGroupAddress frame₀.dst)
    (htype : frame₀.ethertype ≠ tpid8021q)
    (hup : ∀ a, C a → (((networkMachine w).run (fresh ids) acts).nodes a.1).Up a.2)
    {later : List (Act ν)}
    (hids : ∀ m n probeId, Drawn ids (acts ++ later) m probeId →
      Drawn ids (acts ++ later) n probeId → m = n)
    (hplanned : ∀ act ∈ acts ++ later, act.Planned plan)
    (hspares : ∀ act ∈ later, act.Spares C frame₀) :
    (∀ a, C a → (((networkMachine w).run (fresh ids) (acts ++ later)).nodes a.1).Up a.2) ∧
      circulating C frame₀ ((networkMachine w).run (fresh ids) acts) ≤
        circulating C frame₀ ((networkMachine w).run (fresh ids) (acts ++ later)) := by
  induction later using List.reverseRecOn with
  | nil =>
    rw [List.append_nil]
    exact ⟨hup, Nat.le_refl _⟩
  | append_singleton later act ih =>
    rw [← List.append_assoc] at hids hplanned ⊢
    rw [List.forall_mem_append] at hplanned hspares
    have hids' : ∀ m n probeId, Drawn ids (acts ++ later) m probeId →
        Drawn ids (acts ++ later) n probeId → m = n := fun m n probeId hm hn =>
      hids m n probeId (hm.mono act) (hn.mono act)
    obtain ⟨hbefore, hle⟩ := ih hids' hplanned.1 hspares.1
    have hspare : act.Spares C frame₀ := hspares.2 act List.mem_cons_self
    have hwire : act.OnWire := (hplanned.2 act List.mem_cons_self).onWire
    rw [Machine.run_concat]
    exact ⟨up_of_spares hids' hcircuit hself rfl hwire hspare hbefore,
      hle.trans (circulating_next hcircuit hvlans hprobe hdst htype hplanned.1 rfl hbefore hspare)⟩

end Network

/-- **A loop through several switches storms for ever.** Let a loop of cables run through
switches, no cable of it joining two ports of one switch, with one mode at both ends of
every cable and all its cables carrying the same VLANs, and let no two switches draw the
same probe id. Once its ports are up, let anything happen but that someone removes or
blocks a port of the loop, loads the configuration of one of its switches again, or loses
a copy that is on it: frames sent in, taken and lost in any order, probes sent and taken,
tables aged, other ports operated on. The ports of the loop stay up, whatever probes there
are. Take a frame for a group address that is no probe – those a switch takes out – and
whose EtherType, behind its own tag if it has one, is not that of a tag, so that every port
can write it. The copies of it that are on the loop never get fewer; and if there is one,
then any number of copies can be taken from there on, with nothing more sent in. -/
theorem storm_through_switches {ν : Type} [DecidableEq ν] {w : Wiring ν} {plan : Network.Plan w}
    {C : Socket ν → Bool} (hcircuit : w.Circuit C)
    (hself : ∀ a b, C a → w.mate a = some b → b.1 ≠ a.1)
    (hvlans : ∀ a b v, C a → C b → (plan.mode a).carries v → (plan.mode b).carries v)
    {ids : ν → UInt64} {acts later : List (Network.Act ν)}
    (hids : ∀ m n probeId, Network.Drawn ids (acts ++ later) m probeId →
      Network.Drawn ids (acts ++ later) n probeId → m = n)
    (hplanned : ∀ act ∈ acts ++ later, act.Planned plan) {frame₀ : EthernetFrame}
    (hprobe : ¬LoopGuard.isAnyProbe frame₀) (hdst : isGroupAddress frame₀.dst)
    (htype : frame₀.ethertype ≠ tpid8021q)
    (hup : ∀ a, C a →
      (((Network.networkMachine w).run (Network.fresh ids) acts).nodes a.1).Up a.2)
    (hspares : ∀ act ∈ later, act.Spares C frame₀) :
    (∀ a, C a →
      (((Network.networkMachine w).run (Network.fresh ids) (acts ++ later)).nodes a.1).Up a.2) ∧
    Network.circulating C frame₀ ((Network.networkMachine w).run (Network.fresh ids) acts) ≤
      Network.circulating C frame₀
        ((Network.networkMachine w).run (Network.fresh ids) (acts ++ later)) ∧
    (0 < Network.circulating C frame₀ ((Network.networkMachine w).run (Network.fresh ids) acts) →
      ∀ k, ∃ more : List (Network.Act ν), more.length = k ∧
        ∀ e ∈ (Network.networkMachine w).trace
          ((Network.networkMachine w).run (Network.fresh ids) (acts ++ later)) more,
          Network.taken frame₀ e = true) := by
  obtain ⟨hafter, hle⟩ := Network.circuit_run hcircuit hself hvlans hprobe hdst htype hup hids
    hplanned hspares
  refine ⟨hafter, hle, fun hpos k => ?_⟩
  induction k generalizing later with
  | zero => exact ⟨[], rfl, fun e he => absurd he List.not_mem_nil⟩
  | succ k ih =>
    -- there is a copy to be taken, and taking it is one more step of such a run
    obtain ⟨⟨socket, bytes⟩, hmem, hcircling⟩ := Multiset.countP_pos.mp (hpos.trans_le hle)
    have hdrawn : ∀ m probeId, Network.Drawn ids (acts ++ (later ++ [.arrive socket bytes 0])) m
        probeId → Network.Drawn ids (acts ++ later) m probeId := by
      rintro m probeId (hfirst | hrenew)
      · exact Or.inl hfirst
      · rw [← List.append_assoc] at hrenew
        rcases List.mem_append.mp hrenew with hbefore | hlast
        · exact Or.inr hbefore
        · cases List.mem_singleton.mp hlast
    have hids' : ∀ m n probeId, Network.Drawn ids (acts ++ (later ++ [.arrive socket bytes 0])) m
        probeId → Network.Drawn ids (acts ++ (later ++ [.arrive socket bytes 0])) n probeId →
        m = n := fun m n probeId hm hn => hids m n probeId (hdrawn _ _ hm) (hdrawn _ _ hn)
    have hplanned' : ∀ act ∈ acts ++ (later ++ [.arrive socket bytes 0]), act.Planned plan := by
      rw [← List.append_assoc]
      exact List.forall_mem_append.mpr ⟨hplanned, fun act h => List.mem_singleton.mp h ▸ trivial⟩
    have hspares' : ∀ act ∈ later ++ [.arrive socket bytes 0], act.Spares C frame₀ :=
      List.forall_mem_append.mpr ⟨hspares, fun act h => List.mem_singleton.mp h ▸ trivial⟩
    obtain ⟨hafter', hle'⟩ := Network.circuit_run hcircuit hself hvlans hprobe hdst htype hup hids'
      hplanned' hspares'
    obtain ⟨more, hlength, htaken⟩ := ih hids' hplanned' hspares' hafter' hle'
    refine ⟨.arrive socket bytes 0 :: more, congrArg (· + 1) hlength, fun e he => ?_⟩
    rw [Machine.trace_cons] at he
    rcases List.mem_cons.mp he with rfl | he
    · have hof : ofContent frame₀ bytes = true := (Bool.and_eq_true_iff.mp hcircling).2
      exact Bool.and_eq_true_iff.mpr ⟨decide_eq_true hmem, hof⟩
    · refine htaken e ?_
      rw [← List.append_assoc, Machine.run_concat]
      exact he

/-- Two switches with two cables, from ports 2 and 3 of the first to ports 5 and 6 of the
second. -/
def Wiring.twice : Wiring Bool where
  mate
    | (false, ⟨2⟩) => some (true, ⟨5⟩)
    | (false, ⟨3⟩) => some (true, ⟨6⟩)
    | (true, ⟨5⟩) => some (false, ⟨2⟩)
    | (true, ⟨6⟩) => some (false, ⟨3⟩)
    | _ => none
  symm a b h := by
    split at h
    case h_5 => cases h
    all_goals
      obtain rfl := Option.some.inj h
      rfl

/-- The ends of both cables. -/
def Wiring.onTwice (socket : Socket Bool) : Bool :=
  [(false, ⟨2⟩), (false, ⟨3⟩), (true, ⟨5⟩), (true, ⟨6⟩)].contains socket

theorem Wiring.eq_of_onTwice {a : Socket Bool} (h : Wiring.onTwice a) :
    a = (false, ⟨2⟩) ∨ a = (false, ⟨3⟩) ∨ a = (true, ⟨5⟩) ∨ a = (true, ⟨6⟩) := by
  have hmem : a ∈ [((false, ⟨2⟩) : Socket Bool), (false, ⟨3⟩), (true, ⟨5⟩), (true, ⟨6⟩)] :=
    List.contains_iff_mem.mp h
  simpa only [List.mem_cons, List.not_mem_nil, or_false] using hmem

theorem Wiring.circuit_twice : Wiring.twice.Circuit Wiring.onTwice where
  cabled a ha := by
    rcases Wiring.eq_of_onTwice ha with rfl | rfl | rfl | rfl
    · exact ⟨_, rfl, rfl⟩
    · exact ⟨_, rfl, rfl⟩
    · exact ⟨_, rfl, rfl⟩
    · exact ⟨_, rfl, rfl⟩
  turns a ha := by
    rcases Wiring.eq_of_onTwice ha with rfl | rfl | rfl | rfl
    · exact ⟨⟨3⟩, by decide, rfl⟩
    · exact ⟨⟨2⟩, by decide, rfl⟩
    · exact ⟨⟨6⟩, by decide, rfl⟩
    · exact ⟨⟨5⟩, by decide, rfl⟩

/-- The two switches are set up, and a host on port 1 of the first sends a broadcast. -/
def Network.twiceSetUp : List (Network.Act Bool) :=
  [.manage false (.addPort ⟨1⟩ (.access 10)), .manage false (.addPort ⟨2⟩ (.trunk none {10})),
    .manage false (.addPort ⟨3⟩ (.trunk none {10})), .manage true (.addPort ⟨5⟩ (.trunk none {10})),
    .manage true (.addPort ⟨6⟩ (.trunk none {10})),
    .inject (false, ⟨1⟩) ({ hostFrame 1 9 with dst := broadcast } : EthernetFrame).wireBytes,
    .arrive (false, ⟨1⟩) ({ hostFrame 1 9 with dst := broadcast } : EthernetFrame).wireBytes 0]

/-- A broadcast sent in once goes round two switches with two cables, a thousand times and
more, after one of them has taken a probe of the other. -/
theorem storm_through_switches_twice :
    ∃ more : List (Network.Act Bool), more.length = 1000 ∧
      ∀ e ∈ (Network.networkMachine Wiring.twice).trace
        ((Network.networkMachine Wiring.twice).run (Network.fresh fun n => if n then 8 else 7)
          (Network.twiceSetUp ++ [.tick false [⟨2⟩, ⟨3⟩],
            .arrive (true, ⟨5⟩) (LoopGuard.buildProbe 7) 0])) more,
        Network.taken { hostFrame 1 9 with dst := broadcast } e = true := by
  have htrunk : (PortMode.trunk none {10}).Built := Or.inr ⟨.sorted, none, [10], by decide⟩
  have haccess : (PortMode.access 10).Built := Or.inl ⟨10, rfl⟩
  have hself : ∀ a b, Wiring.onTwice a → Wiring.twice.mate a = some b → b.1 ≠ a.1 := by
    intro a b _ hmate
    simp only [Wiring.twice] at hmate
    split at hmate
    case h_5 => cases hmate
    all_goals
      obtain rfl := Option.some.inj hmate
      simp
  have hids : ∀ (m n : Bool) probeId,
      Network.Drawn (fun n => if n then 8 else 7) (Network.twiceSetUp ++ [.tick false [⟨2⟩, ⟨3⟩],
        .arrive (true, ⟨5⟩) (LoopGuard.buildProbe 7) 0]) m probeId →
      Network.Drawn (fun n => if n then 8 else 7) (Network.twiceSetUp ++ [.tick false [⟨2⟩, ⟨3⟩],
        .arrive (true, ⟨5⟩) (LoopGuard.buildProbe 7) 0]) n probeId → m = n := by
    intro m n probeId hm hn
    rcases hm with rfl | hm
    · rcases hn with hn | hn
      · cases m <;> cases n <;> first | rfl | exact absurd hn (by decide)
      · simp [Network.twiceSetUp] at hn
    · simp [Network.twiceSetUp] at hm
  refine (@storm_through_switches Bool _ _ ⟨fun _ => .trunk none {10}, fun _ _ _ => rfl⟩ _
    Wiring.circuit_twice hself (fun _ _ _ _ _ h => h) _ _ _ hids ?_ _ (by decide) (by decide)
    (by decide) ?_ ?_).2.2 (by decide) 1000
  · simp only [Network.twiceSetUp, List.cons_append, List.nil_append, List.forall_mem_cons]
    exact ⟨⟨haccess, fun h => absurd h (by decide)⟩, ⟨htrunk, fun _ => rfl⟩,
      ⟨htrunk, fun _ => rfl⟩, ⟨htrunk, fun _ => rfl⟩, ⟨htrunk, fun _ => rfl⟩, trivial, trivial,
      trivial, trivial, fun _ h => absurd h List.not_mem_nil⟩
  · intro a ha
    rcases Wiring.eq_of_onTwice ha with rfl | rfl | rfl | rfl
    · exact ⟨⟨.trunk none {10}, false⟩, rfl, rfl⟩
    · exact ⟨⟨.trunk none {10}, false⟩, rfl, rfl⟩
    · exact ⟨⟨.trunk none {10}, false⟩, rfl, rfl⟩
    · exact ⟨⟨.trunk none {10}, false⟩, rfl, rfl⟩
  · simp only [List.forall_mem_cons]
    exact ⟨trivial, trivial, fun _ h => absurd h List.not_mem_nil⟩

end VlanSwitch
