import VlanSwitch.Switch.Counting
import VlanSwitch.Switch.Egress
import VlanSwitch.Switch.Learning

/-!
# Blocked means quarantined

A port is shut down in four places: `forward` turns its frames away, flooding skips
it, the encoder refuses it, and what was learned on it is forgotten. Only the last is
an event rather than a test, so that the port stays without entries has to be kept up
by the others: `VlanSwitch.Switch.Quarantined` is the invariant, and it survives every
operation that does not free the port on purpose
(`VlanSwitch.Switch.Quarantined.next`). What a quarantined port lets through then
follows without looking at the run again; `VlanSwitch.quarantine` collects it.
-/

namespace VlanSwitch

/-- An operation that ends the quarantine of a port: it is given a mode, removed or
unblocked. -/
def Op.Frees (p : PortId) : Op → Prop
  | .addPort q _ => q = p
  | .removePort q => q = p
  | .unblockPort q => q = p
  | _ => False

instance (p : PortId) : (op : Op) → Decidable (op.Frees p)
  | .addPort .. => inferInstanceAs (Decidable (_ = _))
  | .removePort _ => inferInstanceAs (Decidable (_ = _))
  | .unblockPort _ => inferInstanceAs (Decidable (_ = _))
  | .blockPort _ => inferInstanceAs (Decidable False)
  | .ageOut .. => inferInstanceAs (Decidable False)
  | .forward .. => inferInstanceAs (Decidable False)

/-- Two counters differ in their drops only. -/
structure Counters.SameTraffic (c c' : Counters) : Prop where
  framesIn : c.framesIn = c'.framesIn
  bytesIn : c.bytesIn = c'.bytesIn
  framesOut : c.framesOut = c'.framesOut
  bytesOut : c.bytesOut = c'.bytesOut

theorem Counters.SameTraffic.refl (c : Counters) : c.SameTraffic c := ⟨rfl, rfl, rfl, rfl⟩

theorem Counters.SameTraffic.trans {c c' c'' : Counters} (h : c.SameTraffic c')
    (h' : c'.SameTraffic c'') : c.SameTraffic c'' :=
  ⟨h.framesIn.trans h'.framesIn, h.bytesIn.trans h'.bytesIn, h.framesOut.trans h'.framesOut,
    h.bytesOut.trans h'.bytesOut⟩

namespace Switch

/-- **A port in quarantine**: it is shut down, and nothing is learned on it. -/
structure Quarantined (s : Switch) (p : PortId) : Prop where
  blocked : s.isBlocked p = true
  unlearned : ∀ key e, s.macTable.entries.lookup key = some e → e.port ≠ p

/-- **Blocking a registered port quarantines it.** -/
theorem quarantined_blockPort {s : Switch} {p : PortId} (h : p ∈ s.ports) :
    (s.blockPort p).Quarantined p where
  blocked := isBlocked_blockPort p (Or.inr ⟨rfl, h⟩)
  unlearned key e he := by
    have he' : (s.macTable.removePort p).entries.lookup key = some e := he
    rw [MacTable.lookup_entries_removePort] at he'
    exact of_decide_eq_true (Option.filter_eq_some_iff.mp he').2

namespace Quarantined

variable {s : Switch} {p : PortId}

/-- No frame resolves on a port in quarantine. -/
theorem not_resolves (h : s.Quarantined p) {frame : EthernetFrame} {vlan : Vlan} :
    ¬s.Resolves p frame vlan := fun hr => by
  have hblocked := hr.2.1
  rw [h.blocked] at hblocked
  cases hblocked

/-- **A port in quarantine sends nothing**, whoever the frame comes from. -/
theorem port_ne_of_mem (h : s.Quarantined p) {ingress : PortId} {frame : EthernetFrame}
    {now : Instant} {ds : List Delivery} (hds : (s.forward ingress frame now).1 = .ok ds)
    {d : Delivery} (hd : d ∈ ds) : d.port ≠ p := by
  rintro rfl
  exact not_up_of_isBlocked h.blocked (up_of_mem hds hd)

/-- **A port in quarantine turns ordinary frames away.** -/
theorem forward_eq (h : s.Quarantined p) {frame : EthernetFrame}
    (hprobe : ¬LoopGuard.isAnyProbe frame) (now : Instant) :
    s.forward p frame now = (.error (.portBlocked p), s.countDrop p) := by
  obtain ⟨entry, hentry, -⟩ := isBlocked_eq_true.mp h.blocked
  have hport : p ∈ s.ports := Finmap.mem_of_lookup_eq_some hentry
  rw [Switch.forward_eq, verdict_of_blocked hprobe hport h.blocked]

/-- **The quarantine lasts** until an operation ends it on purpose. -/
theorem next (h : s.Quarantined p) {op : Op} (hop : ¬op.Frees p) :
    (machine.next s op).Quarantined p := by
  refine ⟨?_, ?_⟩
  · cases op with
    | addPort q mode =>
      have hne : p ≠ q := fun hc => hop hc.symm
      exact (isBlocked_congr ((s.lookup_ports_addPort q p mode).trans (if_neg hne))).trans h.blocked
    | removePort q =>
      have hne : p ≠ q := fun hc => hop hc.symm
      exact (isBlocked_congr ((s.lookup_ports_removePort q p).trans (if_neg hne))).trans h.blocked
    | blockPort q => exact isBlocked_blockPort q (Or.inl h.blocked)
    | unblockPort q =>
      have hne : p ≠ q := fun hc => hop hc.symm
      exact (isBlocked_congr ((s.lookup_ports_unblockPort q p).trans (if_neg hne))).trans h.blocked
    | ageOut maxAge now => exact h.blocked
    | forward ingress frame now => exact isBlocked_forward h.blocked ingress frame now
  · -- what is in the table was there before, or has just been learned on another port
    rintro ⟨vlan, mac⟩ e he
    rw [lookup_next] at he
    rcases hl : learned s op vlan mac with _ | e'
    · rw [hl] at he
      exact h.unlearned (vlan, mac) e (Option.filter_eq_some_iff.mp he).1
    · rw [hl] at he
      obtain rfl := Option.some.inj he
      obtain ⟨port, now⟩ := e'
      obtain ⟨frame, -, hr, -⟩ := learns_iff.mp (learned_eq_some.mp hl)
      rintro rfl
      exact h.not_resolves hr

/-- **A port in quarantine carries no traffic**: a step changes its drops at most. -/
theorem sameTraffic_next (h : s.Quarantined p) {op : Op} (hop : ¬op.Frees p) :
    ((machine.next s op).portCounter p).SameTraffic (s.portCounter p) := by
  cases op with
  | removePort q =>
    have hne : p ≠ q := fun hc => hop hc.symm
    have hcounter : (s.removePort q).portCounter p = s.portCounter p :=
      Finmap.getOrDefault_erase_ne hne s.portCounters
    exact hcounter ▸ Counters.SameTraffic.refl _
  | forward ingress frame now =>
    change ((s.forward ingress frame now).2.portCounter p).SameTraffic (s.portCounter p)
    rw [Switch.forward_eq]
    rcases hv : s.verdict ingress frame with _ | _ | _ | e | vlan
    · exact Counters.SameTraffic.refl _
    · exact Counters.SameTraffic.refl _
    · exact Counters.SameTraffic.refl _
    · dsimp only
      rw [portCounter_countDrop]
      split
      · exact ⟨rfl, rfl, rfl, rfl⟩
      · exact Counters.SameTraffic.refl _
    · -- the frame came in elsewhere, and nothing was sent out here
      have hr := verdict_eq_accepted.mp hv
      have hne : p ≠ ingress := by
        rintro rfl
        exact h.not_resolves hr
      have hds : (s.forward ingress frame now).1 = .ok (s.deliveries ingress vlan frame now) :=
        congrArg Prod.fst (forward_of_resolves hr now)
      have hnone : deliveriesFor p (s.deliveries ingress vlan frame now) = [] :=
        List.filter_eq_nil_iff.mpr fun d hd hp => h.port_ne_of_mem hds hd (of_decide_eq_true hp)
      dsimp only
      rw [portCounter_accept, if_neg hne, hnone, Counters.addOuts_nil]
      exact Counters.SameTraffic.refl _
  | _ => exact Counters.SameTraffic.refl _

/-- The quarantine and the traffic counters over a run. -/
theorem run (h : s.Quarantined p) {ops : List Op} (hops : ∀ op ∈ ops, ¬op.Frees p) :
    (machine.run s ops).Quarantined p ∧
      ((machine.run s ops).portCounter p).SameTraffic (s.portCounter p) :=
  machine.run_invariant
    (I := fun t => t.Quarantined p ∧ (t.portCounter p).SameTraffic (s.portCounter p))
    (fun _ _ hop ht => ⟨ht.1.next hop, (ht.1.sameTraffic_next hop).trans ht.2⟩) hops
    ⟨h, Counters.SameTraffic.refl _⟩

end Quarantined

end Switch

open Switch

/-- **Blocked means quarantined.** A registered port is shut down, by `blockPort` or by
a probe of the switch's own; whatever is done next, short of giving the port a mode,
removing it or unblocking it, it stays blocked, no call sends anything out of it, an
ordinary frame on it is rejected and counted as one drop with no other effect, no
entry of the learned table points at it, and its traffic counters stand still. -/
theorem quarantine {s : Switch} {p : PortId} (hp : p ∈ s.ports) {shut : Op}
    (hshut : shut = .blockPort p ∨ ∃ frame now, shut = .forward p frame now ∧
      LoopGuard.isOwnProbe frame s.probeId)
    {ops : List Op} (hops : ∀ op ∈ ops, ¬op.Frees p) {t : Switch}
    (ht : t = machine.run (machine.next s shut) ops) :
    t.isBlocked p = true ∧
      (∀ ingress frame now ds, (t.forward ingress frame now).1 = .ok ds →
        ∀ d ∈ ds, d.port ≠ p) ∧
      (∀ frame now, ¬LoopGuard.isAnyProbe frame →
        t.forward p frame now = (.error (.portBlocked p),
          { t with portCounters := t.portCounters.entryOrDefault p Counters.addDrop })) ∧
      (∀ vlan mac, t.macTable.lookup vlan mac ≠ some p) ∧
      (t.portCounter p).framesIn = (s.portCounter p).framesIn ∧
      (t.portCounter p).bytesIn = (s.portCounter p).bytesIn ∧
      (t.portCounter p).framesOut = (s.portCounter p).framesOut ∧
      (t.portCounter p).bytesOut = (s.portCounter p).bytesOut := by
  have hstart : machine.next s shut = s.blockPort p := by
    rcases hshut with rfl | ⟨frame, now, rfl, hown⟩
    · rfl
    · change (s.forward p frame now).2 = s.blockPort p
      rw [forward_eq, verdict_eq_ownProbe.mpr ⟨hp, hown⟩]
  rw [hstart] at ht
  obtain ⟨hquarantined, htraffic⟩ := (quarantined_blockPort hp).run hops
  rw [← ht] at hquarantined htraffic
  refine ⟨hquarantined.blocked, ?_, ?_, ?_, htraffic.framesIn, htraffic.bytesIn,
    htraffic.framesOut, htraffic.bytesOut⟩
  · intro ingress frame now ds hds d hd
    exact hquarantined.port_ne_of_mem hds hd
  · intro frame now hprobe
    exact hquarantined.forward_eq hprobe now
  · intro vlan mac hlookup
    obtain ⟨e, he, hport⟩ := MacTable.lookup_eq_some.mp hlookup
    exact hquarantined.unlearned (vlan, mac) e he hport

/-- A port the loop guard has shut down stays so while the host behind it moves away. -/
theorem quarantine_ownProbe :
    (machine.run (withProbeId 7) [.addPort ⟨1⟩ (.access 10), .addPort ⟨2⟩ (.access 10),
      .forward ⟨1⟩ (LoopGuard.probeFrame 7) 0, .forward ⟨1⟩ (hostFrame 1 2) 1,
      .forward ⟨2⟩ (hostFrame 1 9) 2]).isBlocked ⟨1⟩ = true :=
  (@quarantine
    (machine.run (withProbeId 7) [.addPort ⟨1⟩ (.access 10), .addPort ⟨2⟩ (.access 10)]) ⟨1⟩
    (by decide) (.forward ⟨1⟩ (LoopGuard.probeFrame 7) 0)
    (Or.inr ⟨LoopGuard.probeFrame 7, 0, rfl, by decide⟩)
    [.forward ⟨1⟩ (hostFrame 1 2) 1, .forward ⟨2⟩ (hostFrame 1 9) 2] (by decide) _ rfl).1

end VlanSwitch
