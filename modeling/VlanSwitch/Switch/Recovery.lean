import VlanSwitch.Switch.Probe
import VlanSwitch.Switch.Storm

/-!
# One probe on every cable ends a storm

A storm is contained once every cable has a blocked end; that it gets one is the work of
the loop guard. At a tick the switch sends its probe out of its ports, and on a cabled
port the probe is one more item in flight, to be processed among the frames of the
storm in whatever order. Whenever it is processed, the port it was heading for goes down
for good (`VlanSwitch.Cabling.settles`), so when all of them have been, every cable has
an end that is down (`VlanSwitch.Cabling.Subdued`), and what is then left drains. Until
then every call puts in flight no more items than there are cabled ports
(`VlanSwitch.Cabling.card_emitted_le`), which bounds what there is to drain by what was
processed before.
-/

namespace VlanSwitch

namespace Switch

/-- **A switch that meets its own probe on a port has the port down.** -/
theorem not_up_of_returned {s : Switch} {p : PortId} (tag : Option Dot1qTag) (tail : List UInt8)
    (now : Instant) :
    ¬(s.forward p (LoopGuard.returnedFrame s.probeId tag tail) now).2.Up p := by
  intro hup
  by_cases hp : p ∈ s.ports
  · have hown : LoopGuard.isOwnProbe (LoopGuard.returnedFrame s.probeId tag tail) s.probeId :=
      LoopGuard.isOwnProbe_returnedFrame.mpr rfl
    rw [forward_eq, verdict_eq_ownProbe.mpr ⟨hp, hown⟩] at hup
    exact not_up_of_isBlocked (isBlocked_blockPort p (Or.inr ⟨rfl, hp⟩)) hup
  · -- a port that is not registered is not up, and no frame makes it so
    obtain ⟨entry, hentry, -⟩ := up_of_up_forward hup
    exact hp (Finmap.mem_of_lookup_eq_some hentry)

/-- Any ports can be the blocked ones of a switch. -/
theorem exists_isBlocked_iff (D : Finset PortId) :
    ∃ s : Switch, ∀ p, s.isBlocked p = true ↔ p ∈ D := by
  induction D using Finset.induction_on with
  | empty => exact ⟨Switch.withProbeId 0, fun p => by simp [isBlocked, withProbeId]⟩
  | insert p D _ ih =>
    obtain ⟨s, hs⟩ := ih
    refine ⟨(s.addPort p (.access 1)).blockPort p, fun q => ?_⟩
    rw [Finset.mem_insert]
    by_cases hq : q = p
    · simp [isBlocked, lookup_ports_blockPort, lookup_ports_addPort, hq]
    · rw [← hs q, isBlocked, lookup_ports_blockPort, if_neg hq, lookup_ports_addPort, if_neg hq]
      simp [isBlocked, hq]

end Switch

namespace Cabling

variable (c : Cabling)

/-- The probes of a tick in flight: for each probed port that is cabled, the probe of the
switch on its way to the other end, as the cable leaves it. -/
def probes (P : Finset PortId) (probeId : UInt64) (tag : PortId → Option Dot1qTag)
    (tail : PortId → List UInt8) : Multiset Item :=
  P.val.filterMap fun p =>
    (c.mate p).map fun q => (q, LoopGuard.returned probeId (tag p) (tail p))

/-- Every cable has an end that is down. -/
def Subdued (t : Switch) : Prop := ∀ p q, c.mate p = some q → ¬t.Up p ∨ ¬t.Up q

variable {c}

theorem mem_probes {P : Finset PortId} {probeId : UInt64} {tag : PortId → Option Dot1qTag}
    {tail : PortId → List UInt8} {p q : PortId} (hp : p ∈ P) (hmate : c.mate p = some q) :
    (q, LoopGuard.returned probeId (tag p) (tail p)) ∈ c.probes P probeId tag tail := by
  refine (Multiset.mem_filterMap _ P.val).mpr ⟨p, hp, ?_⟩
  rw [hmate, Option.map_some]

/-- One probe is in flight for each probed port, at most. -/
theorem card_probes_le (P : Finset PortId) (probeId : UInt64) (tag : PortId → Option Dot1qTag)
    (tail : PortId → List UInt8) : (c.probes P probeId tag tail).card ≤ P.card := by
  obtain ⟨l, hl⟩ := Quot.exists_rep P.val
  have hlen : (l.filterMap fun p => (c.mate p).map fun q =>
      ((q, LoopGuard.returned probeId (tag p) (tail p)) : Item)).length ≤ l.length :=
    List.length_filterMap_le _ _
  rw [probes, Finset.card, ← hl]
  exact hlen

/-- **A call puts in flight no more items than there are cabled ports.** -/
theorem card_emitted_le (t : Switch) (p : PortId) (frame : EthernetFrame) (now : Instant) :
    (c.emitted (t.forward p frame now).1).card ≤ c.ends.card := by
  rcases hds : (t.forward p frame now).1 with e | ds
  · exact Nat.zero_le _
  · have hnodup : (ds.map Delivery.port).Nodup := by
      rcases ds with _ | ⟨d, ds⟩
      · exact List.nodup_nil
      · obtain ⟨vlan, -, hds'⟩ := Switch.exists_resolves_of_mem hds List.mem_cons_self
        rw [hds']
        exact t.nodup_port_deliveries p vlan frame now
    have hcard : (c.emitted (.ok ds)).card =
        ((ds.map Delivery.port).filter fun q => (c.mate q).isSome).length := by
      rw [emitted, Multiset.coe_card, List.length_filterMap_eq_countP,
        ← List.countP_eq_length_filter, List.countP_map]
      refine List.countP_congr fun d _ => ?_
      simp
    rw [hcard, ← List.toFinset_card_of_nodup (hnodup.filter _)]
    refine Finset.card_le_card fun q hq => ?_
    exact (c.mem_ends q).mpr (List.mem_filter.mp (List.mem_toFinset.mp hq)).2

theorem card_le_of_work {s t : Switch} {item : Item} {new : Multiset Item}
    (h : c.Work s item t new) : new.card ≤ c.ends.card := by
  rcases h with _ | ⟨now, -⟩
  · exact Nat.zero_le _
  · exact card_emitted_le ..

/-- Neither a frame nor what is done in between brings a port up. -/
theorem up_of_work {s t : Switch} {item : Item} {new : Multiset Item} {p : PortId}
    (h : c.Work s item t new) (hup : t.Up p) : s.Up p := by
  rcases h with _ | ⟨now, -⟩
  · exact hup
  · exact Switch.up_of_up_forward hup

theorem up_of_between {s t : Switch} {p : PortId} (h : Between s t) (hup : t.Up p) : s.Up p := by
  rcases h with ⟨q⟩ | ⟨q⟩ | ⟨maxAge, now⟩
  · exact Switch.up_of_up_removePort hup
  · exact Switch.up_of_up_blockPort hup
  · exact hup

/-- **A probe settles the port it is heading for**: once processed, the port is down, and
it stays down. -/
theorem settles (probeId : UInt64) (q : PortId) (tag : Option Dot1qTag) (tail : List UInt8) :
    Draining.Settles c.Work Between (fun s => s.probeId = probeId)
      (q, LoopGuard.returned probeId tag tail) (fun t => ¬t.Up q) where
  keeps := by
    intro s t item new hs hwork
    rcases hwork with _ | ⟨now, -⟩
    · exact hs
    · exact (Switch.probeId_next s (.forward _ _ now)).trans hs
  spares := by
    intro s t hs hbetween
    rcases hbetween with _ | _ | _
    · exact hs
    · exact hs
    · exact hs
  settles := by
    intro s t new hs hwork
    have hread := LoopGuard.parse_returned probeId tag tail
    cases hwork with
    | dropped herror =>
      rw [hread] at herror
      cases herror
    | forwarded now hparse =>
      rw [hread] at hparse
      obtain rfl := Except.ok.inj hparse
      obtain rfl := hs
      exact Switch.not_up_of_returned tag tail now
  stays hdown hwork := fun hup => hdown (up_of_work hwork hup)
  rests hdown hbetween := fun hup => hdown (up_of_between hbetween hup)

/-- **What is in flight in a subdued switch drains.** The ports that are down now are those
the potential counts as blocked. -/
theorem Subdued.drains {t : Switch} (h : c.Subdued t) {m : ℕ} {flight flight' : Multiset Item}
    {u : Switch} (hrun : Draining.Run c.Work Between m (t, flight) (u, flight')) :
    m ≤ flight.card * (1 + c.cables.card) ∧
      ∃ k v, Draining.Run c.Work Between k (u, flight') (v, 0) ∧
        m + k ≤ flight.card * (1 + c.cables.card) := by
  classical
  obtain ⟨s₀, hs₀⟩ := Switch.exists_isBlocked_iff (c.ends.filter fun p => ¬t.Up p)
  have hends : ∀ p q, c.mate p = some q → p ∈ c.ends := fun p q hmate =>
    (c.mem_ends p).mpr (by rw [hmate]; rfl)
  have hguarded : c.Guarded s₀ := by
    intro p q hmate
    rcases h p q hmate with hp | hq
    · exact Or.inl ((hs₀ p).mpr (Finset.mem_filter.mpr ⟨hends p q hmate, hp⟩))
    · exact Or.inr ((hs₀ q).mpr (Finset.mem_filter.mpr ⟨hends q p (c.symm p q hmate), hq⟩))
  have hstart : StayDown s₀ t := fun p hp => (Finset.mem_filter.mp ((hs₀ p).mp hp)).2
  have hsum := sum_weight_le (c := c) s₀ flight
  obtain ⟨hdown, hle⟩ := (potential hguarded).run hrun hstart
  dsimp only at hdown hle
  obtain ⟨k, v, hdrain⟩ := (potential hguarded).exists_drained c.exists_work u flight' hdown
  have hle' := ((potential hguarded).run hdrain hdown).2
  dsimp only at hle'
  exact ⟨by omega, k, v, hdrain, by omega⟩

end Cabling

/-- **One tick of the loop guard ends a storm.** Let the ports of a switch be cabled to one
another in any way, let any byte strings be in flight on the cables, and let the probe
of the switch be sent out of ports among which every cable has an end; the cables may
tag and pad it. In whatever order what is in flight is processed, and whatever is done
in between, short of adding or unblocking a port: a port whose probe is no longer in
flight is down; and once a probe has been processed, the port it was heading for is down
in every continuation, also while another copy of it is in flight. Once no probe is in
flight, at most `(F + P + n * E) * (1 + C)` more items
are processed, with `F` frames in flight at the tick, `P` probes, `n` items processed
until then, `E` cabled ports and `C` cables, and then nothing is left. -/
theorem probes_end_storm (c : Cabling) {s : Switch} {P : Finset PortId}
    (tag : PortId → Option Dot1qTag) (tail : PortId → List UInt8)
    (hcover : ∀ p q, c.mate p = some q → p ∈ P ∨ q ∈ P) {flight flight' : Multiset Cabling.Item}
    {n : ℕ} {t : Switch} (hrun : Draining.Run c.Work Cabling.Between n
      (s, flight + c.probes P s.probeId tag tail) (t, flight')) :
    (∀ p ∈ P, ∀ q, c.mate p = some q →
      (q, LoopGuard.returned s.probeId (tag p) (tail p)) ∈ flight' ∨ ¬t.Up q) ∧
    (∀ p q u new rest, c.Work t (q, LoopGuard.returned s.probeId (tag p) (tail p)) u new →
      ∀ m v flight'', Draining.Run c.Work Cabling.Between m (u, new + rest) (v, flight'') →
        ¬v.Up q) ∧
    ((∀ p ∈ P, ∀ q, c.mate p = some q →
        (q, LoopGuard.returned s.probeId (tag p) (tail p)) ∉ flight') →
      ∀ m u flight'', Draining.Run c.Work Cabling.Between m (t, flight') (u, flight'') →
        m ≤ (flight.card + P.card + n * c.ends.card) * (1 + c.cables.card) ∧
          ∃ k v, Draining.Run c.Work Cabling.Between k (u, flight'') (v, 0) ∧
            m + k ≤ (flight.card + P.card + n * c.ends.card) * (1 + c.cables.card)) := by
  have hsettled : ∀ p ∈ P, ∀ q, c.mate p = some q →
      (q, LoopGuard.returned s.probeId (tag p) (tail p)) ∈ flight' ∨ ¬t.Up q := by
    intro p hp q hmate
    have hmem : (q, LoopGuard.returned s.probeId (tag p) (tail p)) ∈
        flight + c.probes P s.probeId tag tail :=
      Multiset.mem_add.mpr (Or.inr (Cabling.mem_probes hp hmate))
    exact (Cabling.settles s.probeId q (tag p) (tail p)).run hrun rfl (Or.inl hmem)
  refine ⟨hsettled, ?_, ?_⟩
  · intro p q u new rest hwork m v flight'' hafter
    exact (Cabling.settles s.probeId q (tag p) (tail p)).lasts hrun rfl hwork hafter
  intro hgone m u flight'' hrest
  have hsubdued : c.Subdued t := by
    intro p q hmate
    rcases hcover p q hmate with hp | hq
    · exact Or.inr ((hsettled p hp q hmate).resolve_left (hgone p hp q hmate))
    · have hmate' := c.symm p q hmate
      exact Or.inl ((hsettled q hq p hmate').resolve_left (hgone q hq p hmate'))
  -- what is in flight by then
  have hflight : flight'.card ≤ flight.card + P.card + n * c.ends.card := by
    have hcard := Draining.card_le_of_run (fun _ _ _ _ hwork => Cabling.card_le_of_work hwork) hrun
    have hprobes := Cabling.card_probes_le (c := c) P s.probeId tag tail
    rw [Multiset.card_add] at hcard
    dsimp only at hcard
    omega
  have hmono := Nat.mul_le_mul_right (1 + c.cables.card) hflight
  obtain ⟨hm, k, v, hdrain, hk⟩ := hsubdued.drains hrest
  exact ⟨hm.trans hmono, k, v, hdrain, hk.trans hmono⟩

/-- A frame is on its way between two ports; the probe sent out of one of them, padded on
the way, is processed first, and the frame is gone within eight steps. -/
theorem probes_end_storm_loop :
    ∃ k v, Draining.Run Cabling.loop.Work Cabling.Between k
      (machine.run (Switch.withProbeId 7) [.addPort ⟨1⟩ (.access 10), .addPort ⟨2⟩ (.access 10),
        .forward ⟨2⟩ (LoopGuard.returnedFrame 7 none [0, 0]) 0],
        {(⟨1⟩, (hostFrame 1 9).wireBytes)}) (v, 0) ∧ 0 + k ≤ 8 := by
  have hwork : Cabling.loop.Work
      (machine.run (Switch.withProbeId 7) [.addPort ⟨1⟩ (.access 10), .addPort ⟨2⟩ (.access 10)])
      (⟨2⟩, LoopGuard.returned 7 none [0, 0])
      (machine.run (Switch.withProbeId 7) [.addPort ⟨1⟩ (.access 10), .addPort ⟨2⟩ (.access 10),
        .forward ⟨2⟩ (LoopGuard.returnedFrame 7 none [0, 0]) 0]) 0 :=
    Cabling.Work.forwarded 0 (LoopGuard.parse_returned 7 none [0, 0])
  have hprobes : ({(⟨1⟩, (hostFrame 1 9).wireBytes)} : Multiset Cabling.Item) +
      Cabling.loop.probes {⟨1⟩} 7 (fun _ => none) (fun _ => [0, 0]) =
        (⟨2⟩, LoopGuard.returned 7 none [0, 0]) ::ₘ {(⟨1⟩, (hostFrame 1 9).wireBytes)} := by
    rw [Multiset.add_comm]
    rfl
  have hrun : Draining.Run Cabling.loop.Work Cabling.Between 1
      (machine.run (Switch.withProbeId 7) [.addPort ⟨1⟩ (.access 10), .addPort ⟨2⟩ (.access 10)],
        (⟨2⟩, LoopGuard.returned 7 none [0, 0]) ::ₘ {(⟨1⟩, (hostFrame 1 9).wireBytes)})
      (machine.run (Switch.withProbeId 7) [.addPort ⟨1⟩ (.access 10), .addPort ⟨2⟩ (.access 10),
        .forward ⟨2⟩ (LoopGuard.returnedFrame 7 none [0, 0]) 0],
        0 + {(⟨1⟩, (hostFrame 1 9).wireBytes)}) :=
    Draining.Run.head (Draining.Step.mk hwork) (Draining.Run.refl _)
  rw [← hprobes, zero_add] at hrun
  refine ((probes_end_storm Cabling.loop (fun _ => none) (fun _ => [0, 0]) (fun p q hmate => ?_)
    hrun).2.2 ?_ 0 _ _ (Draining.Run.refl _)).2
  · -- either end of the cable is port 1
    rw [Finset.mem_singleton, Finset.mem_singleton]
    by_cases hp : p = ⟨1⟩
    · exact Or.inl hp
    · have hmate' : (if p = ⟨2⟩ then some (⟨1⟩ : PortId) else none) = some q :=
        (if_neg hp).symm.trans hmate
      split at hmate'
      · exact Or.inr (Option.some.inj hmate').symm
      · cases hmate'
  · intro p hp q hmate hmem
    obtain rfl := Finset.mem_singleton.mp hp
    obtain rfl : (⟨2⟩ : PortId) = q := Option.some.inj hmate
    exact absurd (congrArg Prod.fst (Multiset.mem_singleton.mp hmem)) (by decide)

end VlanSwitch
