import Mathlib.Data.Sym.Sym2
import VlanSwitch.Lib.Draining
import VlanSwitch.Switch.Egress

/-!
# The loop guard contains a storm

Cable ports of one switch to one another and every frame in flight may come back, and
a flooded one multiplied. The loop guard does not look for the loop; it is enough that
every cable has a blocked end. Then what leaves an open port heads for a blocked one,
where it is turned away: an item that heads for a blocked port weighs `1`, one that
heads for an open port `1` more than there are cables
(`VlanSwitch.Cabling.weight`), and processing an item brings the weight down
(`VlanSwitch.Cabling.potential`), since the open ports of a call are the ends of
different cables. So the work drains (`Draining.Potential`), in whatever order it is
done, and whatever is done to the switch in between, short of opening a port.
-/

namespace VlanSwitch

/-- **A cabling** of the ports of a switch: a symmetric partial pairing, in which a port
may be its own mate. -/
structure Cabling where
  /-- The port at the other end of the cable. -/
  mate : PortId → Option PortId
  symm : ∀ p q, mate p = some q → mate q = some p
  /-- The ports that are cabled. -/
  ends : Finset PortId
  mem_ends : ∀ p, p ∈ ends ↔ (mate p).isSome

namespace Cabling

variable (c : Cabling)

/-- The cables. -/
def cables : Finset (Sym2 PortId) := c.ends.image fun p => s(p, (c.mate p).getD p)

/-- Every cable has a blocked end. -/
def Guarded (s : Switch) : Prop :=
  ∀ p q, c.mate p = some q → s.isBlocked p = true ∨ s.isBlocked q = true

/-- Bytes in flight, with the port they are heading to. -/
abbrev Item := PortId × List UInt8

/-- What a call of `forward` puts in flight: the deliveries on cabled ports, each
heading to the other end. -/
def emitted : ForwardResult → Multiset Item
  | .ok ds => (ds.filterMap fun d => (c.mate d.port).map fun q => (q, d.bytes) : List Item)
  | .error _ => 0

/-- One item is taken off its cable: dropped if it is not a frame, else given to
`forward` on the port it was heading to. -/
inductive Work : Switch → Item → Switch → Multiset Item → Prop
  | dropped {s : Switch} {p : PortId} {bytes : List UInt8} {e : ParseError} :
    EthernetFrame.parse bytes = .error e → Work s (p, bytes) s 0
  | forwarded {s : Switch} {p : PortId} {bytes : List UInt8} {frame : EthernetFrame}
    (now : Instant) : EthernetFrame.parse bytes = .ok frame →
    Work s (p, bytes) (s.forward p frame now).2 (c.emitted (s.forward p frame now).1)

/-- What may be done to the switch between two items: ports are removed and blocked, and
the table is aged; none is added or unblocked, and no frame is sent in. -/
inductive Between : Switch → Switch → Prop
  | removePort (s : Switch) (p : PortId) : Between s (s.removePort p)
  | blockPort (s : Switch) (p : PortId) : Between s (s.blockPort p)
  | ageOut (s : Switch) (maxAge : Duration) (now : Instant) : Between s (s.ageOut maxAge now).2

/-- Every item can be processed. -/
theorem exists_work (s : Switch) (item : Item) : ∃ t new, c.Work s item t new := by
  obtain ⟨p, bytes⟩ := item
  rcases hparse : EthernetFrame.parse bytes with e | frame
  · exact ⟨s, 0, Work.dropped hparse⟩
  · exact ⟨_, _, Work.forwarded 0 hparse⟩

variable {c}

/-! ### What one call puts in flight -/

/-- A port that is not up puts nothing in flight. -/
theorem emitted_eq_zero {s : Switch} {p : PortId} (hp : ¬s.Up p) (frame : EthernetFrame)
    (now : Instant) : c.emitted (s.forward p frame now).1 = 0 := by
  rcases hds : (s.forward p frame now).1 with e | ds
  · rfl
  · rcases ds with _ | ⟨d, ds⟩
    · rfl
    · obtain ⟨vlan, hr, -⟩ := Switch.exists_resolves_of_mem hds List.mem_cons_self
      obtain ⟨entry, hentry, hup, -⟩ := hr.exists_entry
      exact absurd ⟨entry, hentry, hup⟩ hp

/-- **There are no more open cabled ports than cables**: two of them are never the ends
of one cable. -/
theorem card_open_le {s : Switch} (hc : c.Guarded s) :
    (c.ends.filter fun p => s.isBlocked p = false).card ≤ c.cables.card := by
  refine Finset.card_le_card_of_injOn (fun p => s(p, (c.mate p).getD p))
    (fun p hp => Finset.mem_image_of_mem _ (Finset.mem_filter.mp hp).1) fun p hp q hq hpq => ?_
  obtain ⟨hp, hopen⟩ := Finset.mem_filter.mp (Finset.mem_coe.mp hp)
  obtain ⟨hq, hopen'⟩ := Finset.mem_filter.mp (Finset.mem_coe.mp hq)
  obtain ⟨p', hmate⟩ := Option.isSome_iff_exists.mp ((c.mem_ends p).mp hp)
  simp only [hmate, Option.getD_some] at hpq
  rcases Sym2.eq_iff.mp hpq with ⟨rfl, -⟩ | ⟨-, rfl⟩
  · rfl
  · rcases hc p p' hmate with h | h
    · simp [hopen] at h
    · simp [hopen'] at h

/-- The ports blocked at the outset are down: still blocked, or removed. -/
def StayDown (s₀ t : Switch) : Prop := ∀ p, s₀.isBlocked p = true → ¬t.Up p

/-- **A call puts at most one item into each cable**, and each of them heads for a port
that was blocked at the outset. -/
theorem emitted_le {s₀ t : Switch} (hc : c.Guarded s₀) (hdown : StayDown s₀ t) (p : PortId)
    (frame : EthernetFrame) (now : Instant) :
    (c.emitted (t.forward p frame now).1).card ≤ c.cables.card ∧
      ∀ item ∈ c.emitted (t.forward p frame now).1, s₀.isBlocked item.1 = true := by
  rcases hds : (t.forward p frame now).1 with e | ds
  · exact ⟨Nat.zero_le _, fun item hitem => absurd hitem (Multiset.notMem_zero item)⟩
  · -- the ports of the deliveries are up, and each occurs once
    have hopen : ∀ d ∈ ds, s₀.isBlocked d.port = false := fun d hd =>
      Bool.eq_false_iff.mpr fun hblocked => hdown d.port hblocked (Switch.up_of_mem hds hd)
    have hnodup : (ds.map Delivery.port).Nodup := by
      rcases ds with _ | ⟨d, ds⟩
      · exact List.nodup_nil
      · obtain ⟨vlan, -, hds'⟩ := Switch.exists_resolves_of_mem hds List.mem_cons_self
        rw [hds']
        exact t.nodup_port_deliveries p vlan frame now
    refine ⟨?_, ?_⟩
    · have hsub : ((ds.map Delivery.port).filter fun q => (c.mate q).isSome).toFinset ⊆
          c.ends.filter fun q => s₀.isBlocked q = false := by
        intro q hq
        obtain ⟨hmem, hmate⟩ := List.mem_filter.mp (List.mem_toFinset.mp hq)
        obtain ⟨d, hd, rfl⟩ := List.mem_map.mp hmem
        exact Finset.mem_filter.mpr ⟨(c.mem_ends d.port).mpr hmate, hopen d hd⟩
      have hcard : (c.emitted (.ok ds)).card =
          ((ds.map Delivery.port).filter fun q => (c.mate q).isSome).length := by
        rw [emitted, Multiset.coe_card, List.length_filterMap_eq_countP,
          ← List.countP_eq_length_filter, List.countP_map]
        refine List.countP_congr fun d _ => ?_
        simp
      rw [hcard, ← List.toFinset_card_of_nodup (hnodup.filter _)]
      exact (Finset.card_le_card hsub).trans (card_open_le hc)
    · intro item hitem
      obtain ⟨d, hd, hitem⟩ := List.mem_filterMap.mp (Multiset.mem_coe.mp hitem)
      obtain ⟨q, hq, rfl⟩ := Option.map_eq_some_iff.mp hitem
      -- the end it leaves is open, so the end it heads for is the blocked one
      refine (hc d.port q hq).resolve_left fun hblocked => ?_
      rw [hopen d hd] at hblocked
      cases hblocked

/-! ### The weight of what is in flight -/

/-- What an item weighs, in terms of the ports blocked at the outset. -/
def weight (c : Cabling) (s₀ : Switch) (item : Item) : ℕ :=
  if s₀.isBlocked item.1 then 1 else 1 + c.cables.card

/-- **Processing an item brings the weight down**, as long as the ports blocked at the
outset stay down. -/
theorem potential {s₀ : Switch} (hc : c.Guarded s₀) :
    Draining.Potential c.Work Between (StayDown s₀) (c.weight s₀) where
  keeps hs hwork := by
    intro p hp
    rcases hwork with _ | ⟨now, -⟩
    · exact hs p hp
    · exact fun hup => hs p hp (Switch.up_of_up_forward hup)
  spares hs hbetween := by
    intro p hp
    rcases hbetween with ⟨q⟩ | ⟨q⟩ | ⟨maxAge, now⟩
    · exact fun hup => hs p hp (Switch.up_of_up_removePort hup)
    · exact fun hup => hs p hp (Switch.up_of_up_blockPort hup)
    · exact hs p hp
  descends {t u item new} hs hwork := by
    have hpos : 0 < c.weight s₀ item := by
      rw [weight]
      split <;> omega
    cases hwork with
    | dropped _ => simpa using hpos
    | @forwarded p bytes frame now _ =>
      rcases hp : s₀.isBlocked p with _ | _
      · -- an open port: what is sent weighs 1 each, and there is at most one for each cable
        obtain ⟨hcard, hheads⟩ := emitted_le hc hs p frame now
        have hone : ∀ item ∈ c.emitted (t.forward p frame now).1, c.weight s₀ item = 1 :=
          fun item hitem => if_pos (hheads item hitem)
        rw [Multiset.map_congr rfl hone, Multiset.map_const', Multiset.sum_replicate, smul_eq_mul,
          mul_one, weight, hp, if_neg Bool.false_ne_true]
        omega
      · rw [emitted_eq_zero (hs p hp), Multiset.map_zero, Multiset.sum_zero]
        exact hpos

/-- What is in flight at the outset weighs at most `1` more than there are cables, for
each item. -/
theorem sum_weight_le (s₀ : Switch) (flight : Multiset Item) :
    (flight.map (c.weight s₀)).sum ≤ flight.card * (1 + c.cables.card) := by
  induction flight using Multiset.induction_on with
  | empty => simp
  | cons item flight ih =>
    have hitem : c.weight s₀ item ≤ 1 + c.cables.card := by
      rw [weight]
      split <;> omega
    rw [Multiset.map_cons, Multiset.sum_cons, Multiset.card_cons, Nat.add_mul, Nat.one_mul]
    omega

end Cabling

/-- **Storm containment.** Let the ports of a switch be cabled to one another so that
every cable has a blocked end, and let any byte strings be in flight on the cables. In
whatever order they are processed, and whatever is done to the switch in between, short
of adding or unblocking a port, no run processes more than `N * (1 + C)` items, with
`N` of them in flight at the outset and `C` cables, one call of `forward` at most for
each; any item left can be processed next, and in the end nothing is left. -/
theorem storm_containment (c : Cabling) {s : Switch} (hc : c.Guarded s)
    {flight : Multiset Cabling.Item} {n : ℕ} {t : Switch} {flight' : Multiset Cabling.Item}
    (hrun : Draining.Run c.Work Cabling.Between n (s, flight) (t, flight')) :
    n ≤ flight.card * (1 + c.cables.card) ∧
      (∀ item ∈ flight', ∃ u new rest, flight' = item ::ₘ rest ∧ c.Work t item u new ∧
        Draining.Step c.Work (t, flight') (u, new + rest)) ∧
      ((∀ d, ¬Draining.Step c.Work (t, flight') d) → flight' = 0) ∧
      ∃ m u, Draining.Run c.Work Cabling.Between m (t, flight') (u, 0) ∧
        n + m ≤ flight.card * (1 + c.cables.card) := by
  have hsum := Cabling.sum_weight_le (c := c) s flight
  have hstart : Cabling.StayDown s s := fun p hp => Switch.not_up_of_isBlocked hp
  obtain ⟨hdown, hle⟩ := (Cabling.potential hc).run hrun hstart
  dsimp only at hdown hle
  have hstep : ∀ item ∈ flight', ∃ u new rest, flight' = item ::ₘ rest ∧ c.Work t item u new ∧
      Draining.Step c.Work (t, flight') (u, new + rest) := fun item hitem =>
    Draining.exists_step c.exists_work t hitem
  refine ⟨by omega, hstep, ?_, ?_⟩
  · intro hstuck
    rcases Multiset.empty_or_exists_mem flight' with h | ⟨item, hitem⟩
    · exact h
    · obtain ⟨u, new, rest, -, -, hmove⟩ := hstep item hitem
      exact absurd hmove (hstuck _)
  · obtain ⟨m, u, hdrain⟩ := (Cabling.potential hc).exists_drained c.exists_work t flight' hdown
    have hle' := ((Cabling.potential hc).run hdrain hdown).2
    dsimp only at hle'
    exact ⟨m, u, hdrain, by omega⟩

/-- One cable, between ports 1 and 2. -/
def Cabling.loop : Cabling where
  mate p := if p = ⟨1⟩ then some ⟨2⟩ else if p = ⟨2⟩ then some ⟨1⟩ else none
  symm p q h := by
    split at h
    · next hp =>
      obtain rfl := Option.some.inj h
      rw [hp]
      rfl
    · split at h
      · next hp =>
        obtain rfl := Option.some.inj h
        rw [hp]
        rfl
      · cases h
  ends := {⟨1⟩, ⟨2⟩}
  mem_ends p := by
    simp only [Finset.mem_insert, Finset.mem_singleton]
    split
    · next hp => simp [hp]
    · next hp =>
      split
      · next hp' => simp [hp']
      · next hp' => simp [hp, hp']

/-- A cable between two ports is drained of two frames in four steps at most, once one
of its ends is blocked. -/
theorem storm_containment_loop :
    ∃ m u, Draining.Run Cabling.loop.Work Cabling.Between m
      (machine.run (Switch.withProbeId 7) [.addPort ⟨1⟩ (.access 10), .addPort ⟨2⟩ (.access 10),
        .blockPort ⟨2⟩],
        {(⟨1⟩, (hostFrame 1 9).wireBytes), (⟨2⟩, (hostFrame 2 9).wireBytes)}) (u, 0) ∧
      0 + m ≤ 4 := by
  refine (storm_containment Cabling.loop (fun p q hpq => ?_) (Draining.Run.refl _)).2.2.2
  -- either end of the cable is port 2
  have hmate : (if p = ⟨1⟩ then some (⟨2⟩ : PortId) else if p = ⟨2⟩ then some ⟨1⟩ else none) =
      some q := hpq
  split at hmate
  · obtain rfl := Option.some.inj hmate
    exact Or.inr (by decide)
  · split at hmate
    · next hp =>
      rw [hp]
      exact Or.inl (by decide)
    · cases hmate

end VlanSwitch
