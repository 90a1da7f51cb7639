import Mathlib.Algebra.Order.BigOperators.Group.Finset
import Mathlib.Data.Fintype.BigOperators
import VlanSwitch.Network.Tree

/-!
# A network without loops has no storms

In a network without loops a flood dies out by itself, no port need be blocked for it.
Take any socket without a cable, with a host on it or not: what goes for a host goes for
the socket, and a copy of a frame that a switch takes was underway to any such socket of
that switch, or is what its host sent in (`VlanSwitch.Network.bound`). Afterwards it is
underway there no more. So no switch takes a frame more often than it was sent in
(`VlanSwitch.Network.countP_takenBy_le`), and all switches together do no more work for it
than one step for each switch and each time it was sent in
(`VlanSwitch.flood_dies_out`).
-/

namespace VlanSwitch

open Switch

namespace Network

variable {ν : Type} [DecidableEq ν] {w : Wiring ν} {host : Socket ν}

/-- A switch takes a frame that is in flight. -/
def taken (frame₀ : EthernetFrame) : Network ν × Act ν → Bool
  | (s, .arrive socket bytes _) => decide ((socket, bytes) ∈ s.flight) && ofContent frame₀ bytes
  | _ => false

/-- The switch `n` does. -/
def takenBy (n : ν) (frame₀ : EthernetFrame) (e : Network ν × Act ν) : Bool :=
  taken frame₀ e && match e.2 with
    | .arrive socket _ _ => decide (socket.1 = n)
    | _ => false

/-- A host sends the frame in. -/
def sent (w : Wiring ν) (frame₀ : EthernetFrame) : Act ν → Bool
  | .inject socket bytes => decide (w.mate socket = none) && ofContent frame₀ bytes
  | _ => false

/-- In flight, and bound for the switch of a socket: underway to the socket, or about to
come in there. -/
def bound (way : w.Way host) (frame₀ : EthernetFrame) (item : Socket ν × List UInt8) : Bool :=
  (decide (item.1.2 ≠ way.port item.1.1) || decide (item.1 = host)) && ofContent frame₀ item.2

/-- How much is bound for it. -/
def boundLoad (way : w.Way host) (frame₀ : EthernetFrame) (s : Network ν) : ℕ :=
  s.flight.countP fun item => bound way frame₀ item = true

variable {way : w.Way host} {frame₀ : EthernetFrame}

/-- Over a cable comes only what is underway. -/
theorem bound_of_cabled {a : Socket ν} (h : (w.mate a).isSome) (bytes : List UInt8) :
    bound way frame₀ (a, bytes) = underway way frame₀ (a, bytes) := by
  have hne : a ≠ host := by
    rintro rfl
    rw [way.host_free] at h
    cases h
  rw [bound, underway, decide_eq_false hne, Bool.or_false]

/-- All that a host sends in is bound for every switch it is not underway from. -/
theorem bound_of_free {a : Socket ν} (h : w.mate a = none) (bytes : List UInt8) :
    bound way frame₀ (a, bytes) = ofContent frame₀ bytes := by
  have hor : a.2 ≠ way.port a.1 ∨ a = host := by
    by_cases ha : a = host
    · exact Or.inr ha
    · exact Or.inl ((eq_host_iff h).not.mp ha)
  rw [bound, ← Bool.decide_or, decide_eq_true hor, Bool.true_and]

/-- What comes in at the switch itself is bound for it. -/
theorem bound_self (port : PortId) (bytes : List UInt8) :
    bound way frame₀ ((host.1, port), bytes) = ofContent frame₀ bytes := by
  have hor : port ≠ way.port host.1 ∨ (host.1, port) = host := by
    rw [way.at_host]
    by_cases hport : port = host.2
    · exact Or.inr (by rw [hport])
    · exact Or.inl hport
  rw [bound, ← Bool.decide_or, decide_eq_true hor, Bool.true_and]

/-- What is sent on over cables is bound for a switch exactly if it is underway to it. -/
theorem countP_bound_outgoing (n : ν) (ds : List Delivery) :
    (ds.filterMap (outgoing w n)).countP (bound way frame₀) =
      (ds.filterMap (outgoing w n)).countP (underway way frame₀) := by
  refine List.countP_congr fun item hitem => ?_
  obtain ⟨d, -, hmate, -⟩ := mem_outgoing.mp hitem
  have hcabled : (w.mate item.1).isSome := by
    rw [w.symm _ _ hmate]
    rfl
  have heq : bound way frame₀ (item.1, item.2) = underway way frame₀ (item.1, item.2) :=
    bound_of_cabled hcabled item.2
  exact iff_of_eq (congrArg (· = true) heq)

/-- **What the switch sends on is not bound for it any more.** -/
theorem countP_bound_outgoing_self (ds : List Delivery) :
    (ds.filterMap (outgoing w host.1)).countP (bound way frame₀) = 0 := by
  rw [countP_bound_outgoing]
  refine List.countP_eq_zero.mpr fun item hitem hunder => ?_
  obtain ⟨d, -, hmate, -⟩ := mem_outgoing.mp hitem
  have hleads : d.port = way.port host.1 :=
    (way.one_way _ _ hmate).mpr (of_decide_eq_true (Bool.and_eq_true_iff.mp hunder).1)
  rw [hleads, way.at_host, way.host_free] at hmate
  cases hmate

/-- **A switch that takes bytes sends on less than it takes**, of what is bound for a switch,
and nothing if it is that switch. -/
theorem takes_bound_le (way : w.Way host) (frame₀ : EthernetFrame) (s : Network ν)
    (socket : Socket ν) (bytes : List UInt8) (now : Instant) :
    (if decide (socket.1 = host.1) && ofContent frame₀ bytes then 1 else 0) +
        ((takes (s.nodes socket.1) socket.2 bytes now).1.filterMap (outgoing w socket.1)).countP
          (bound way frame₀) ≤
      if bound way frame₀ (socket, bytes) then 1 else 0 := by
  obtain ⟨n, port⟩ := socket
  dsimp only
  by_cases hn : n = host.1
  · obtain rfl := hn
    rw [countP_bound_outgoing_self, bound_self, decide_eq_true rfl, Bool.true_and]
    exact Nat.le_refl _
  · rw [decide_eq_false hn, Bool.false_and, if_neg Bool.false_ne_true, Nat.zero_add,
      countP_bound_outgoing]
    have hsent := countP_sent_le way frame₀ (s.nodes n) (n, port) bytes now
    have hcopies := countP_sent way frame₀ n
      (takes (s.nodes n) port bytes now).1
    -- what is underway is bound
    have hle : (if underway way frame₀ ((n, port), bytes) then 1 else 0) ≤
        if bound way frame₀ ((n, port), bytes) then 1 else 0 := by
      split
      · next hunder =>
        obtain ⟨hleft, hright⟩ := Bool.and_eq_true_iff.mp hunder
        have hbound : bound way frame₀ ((n, port), bytes) = true :=
          Bool.and_eq_true_iff.mpr ⟨Bool.or_eq_true_iff.mpr (Or.inl hleft), hright⟩
        rw [if_pos hbound]
      · exact Nat.zero_le _
    dsimp only at hsent
    omega

/-- **Each step of the switch is paid for by what was bound for it.** -/
theorem boundLoad_next_le (way : w.Way host) (hprobe : ¬LoopGuard.isAnyProbe frame₀)
    (s : Network ν) (act : Act ν) :
    (if takenBy host.1 frame₀ (s, act) then 1 else 0) +
        boundLoad way frame₀ ((networkMachine w).next s act) ≤
      boundLoad way frame₀ s + if sent w frame₀ act then 1 else 0 := by
  cases act with
  | inject socket bytes =>
    change 0 + boundLoad way frame₀ (inject w s socket bytes) ≤ _
    rw [inject, sent]
    split
    · next hmate =>
      rw [boundLoad, Multiset.countP_cons, bound_of_free hmate, decide_eq_true hmate,
        Bool.true_and, Nat.zero_add]
      exact Nat.le_refl _
    · exact (Nat.zero_add _).le.trans (Nat.le_add_right _ _)
  | arrive socket bytes now =>
    change (if (decide ((socket, bytes) ∈ s.flight) && ofContent frame₀ bytes) &&
      decide (socket.1 = host.1) then 1 else 0) +
        boundLoad way frame₀ (arrive w s socket bytes now).2 ≤ boundLoad way frame₀ s + 0
    by_cases hmem : (socket, bytes) ∈ s.flight
    · have hload : boundLoad way frame₀ s =
          (s.flight.erase (socket, bytes)).countP (fun item => bound way frame₀ item = true) +
            if bound way frame₀ (socket, bytes) then 1 else 0 := by
        rw [boundLoad, ← Multiset.countP_cons, Multiset.cons_erase hmem]
      have hnew : ∀ l : List (Socket ν × List UInt8),
          (l : Multiset _).countP (fun item => bound way frame₀ item = true) =
            l.countP (bound way frame₀) := fun l => by
        rw [Multiset.coe_countP]
        exact congrArg (l.countP ·) (funext fun item => Bool.decide_eq_true)
      have hstep := takes_bound_le way frame₀ s socket bytes now
      rw [arrive_of_mem hmem, hload, boundLoad, Multiset.countP_add, hnew, decide_eq_true hmem,
        Bool.true_and, Bool.and_comm]
      omega
    · rw [arrive_of_notMem hmem, decide_eq_false hmem, Bool.false_and, Bool.false_and]
      exact (Nat.zero_add _).le
  | lose socket bytes =>
    have hle : boundLoad way frame₀ ((networkMachine w).next s (.lose socket bytes)) ≤
        boundLoad way frame₀ s := Multiset.countP_le_of_le _ (Multiset.erase_le _ _)
    change 0 + _ ≤ boundLoad way frame₀ s + 0
    omega
  | tick n ports =>
    change 0 + (s.flight + _).countP _ ≤ boundLoad way frame₀ s + 0
    have hnone : Multiset.countP (fun item => bound way frame₀ item = true)
        ((probes (s.nodes n) ports).filterMap (outgoing w n) : Multiset _) = 0 := by
      refine Multiset.countP_eq_zero.mpr fun item hitem hbound => hprobe ?_
      exact isAnyProbe_of_probes (Multiset.mem_coe.mp hitem) (Bool.and_eq_true_iff.mp hbound).2
    rw [Multiset.countP_add, hnone, boundLoad]
    omega
  | manage n op => exact (Nat.zero_add _).le
  | renew n probeId => exact (Nat.zero_add _).le

/-- **No switch of a network without loops takes a frame more often than it was sent in.** -/
theorem countP_takenBy_le (way : w.Way host) (hprobe : ¬LoopGuard.isAnyProbe frame₀)
    (ids : ν → UInt64) (acts : List (Act ν)) :
    ((networkMachine w).trace (fresh ids) acts).countP (takenBy host.1 frame₀) ≤
      acts.countP (sent w frame₀) := by
  have hcount := Machine.countP_trace_le (boundLoad_next_le way hprobe) (fresh ids) acts
  have hempty : boundLoad way frame₀ (fresh ids) = 0 := rfl
  omega

/-- A frame is taken by one switch at a time. -/
theorem countP_taken_eq [Fintype ν] (l : List (Network ν × Act ν)) :
    l.countP (taken frame₀) = ∑ n, l.countP (takenBy n frame₀) := by
  induction l with
  | nil => simp
  | cons e l ih =>
    have hone : (if taken frame₀ e then 1 else 0) =
        ∑ n, if takenBy n frame₀ e then 1 else 0 := by
      obtain ⟨s, act⟩ := e
      rcases htaken : taken frame₀ (s, act) with _ | _
      · simp [takenBy, htaken]
      · cases act with
        | arrive socket bytes now => simp [takenBy, htaken]
        | _ => cases htaken
    simp only [List.countP_cons]
    rw [Finset.sum_add_distrib, ← ih, hone]

end Network

/-- **A flood dies out by itself in a connected network without loops.** Let there be a way
to every switch from all of them, that is, to some socket of it without a cable: one port
of every other switch that leads there, so that every cable leads there from one of its
ends only (`VlanSwitch.Wiring.Way`). In any run, in
whatever order the switches work and whatever is done to them, a frame that is not a probe
is taken from a cable or a host no more than once by each switch for each time a host sent
it in, even if the copies differ in their tags; the guard has nothing to do with it. -/
theorem flood_dies_out {ν : Type} [DecidableEq ν] [Fintype ν] {w : Wiring ν}
    (ways : ∀ n, ∃ p, Nonempty (w.Way (n, p))) {frame₀ : EthernetFrame}
    (hprobe : ¬LoopGuard.isAnyProbe frame₀) (ids : ν → UInt64) (acts : List (Network.Act ν)) :
    (∀ n, ((Network.networkMachine w).trace (Network.fresh ids) acts).countP
        (Network.takenBy n frame₀) ≤ acts.countP (Network.sent w frame₀)) ∧
      ((Network.networkMachine w).trace (Network.fresh ids) acts).countP (Network.taken frame₀) ≤
        Fintype.card ν * acts.countP (Network.sent w frame₀) := by
  have heach : ∀ n, ((Network.networkMachine w).trace (Network.fresh ids) acts).countP
      (Network.takenBy n frame₀) ≤ acts.countP (Network.sent w frame₀) := by
    intro n
    obtain ⟨p, ⟨way⟩⟩ := ways n
    exact Network.countP_takenBy_le way hprobe ids acts
  refine ⟨heach, ?_⟩
  rw [Network.countP_taken_eq]
  exact Finset.sum_le_card_nsmul _ _ _ fun n _ => heach n

/-- In a network of two switches a frame sent in once is taken twice at most, a repetition
of the last step included. -/
theorem flood_dies_out_pair :
    ((Network.networkMachine Wiring.pair).trace (Network.fresh fun n => if n then 8 else 7)
      (Network.pairSetUp ++ [.inject (false, ⟨1⟩) (hostFrame 1 9).wireBytes,
        .arrive (false, ⟨1⟩) (hostFrame 1 9).wireBytes 0,
        .arrive (true, ⟨5⟩) ({ hostFrame 1 9 with tag := some ⟨0, false, 10⟩ } :
          EthernetFrame).wireBytes 0,
        .arrive (true, ⟨5⟩) ({ hostFrame 1 9 with tag := some ⟨0, false, 10⟩ } :
          EthernetFrame).wireBytes 0])).countP (Network.taken (hostFrame 1 9)) ≤ 2 := by
  refine (flood_dies_out (fun n => ?_) (by decide) _ _).2.trans (by decide)
  rcases n with _ | _
  · exact ⟨⟨1⟩, ⟨Wiring.pairWayBack⟩⟩
  · exact ⟨⟨6⟩, ⟨Wiring.pairWay⟩⟩

end VlanSwitch
