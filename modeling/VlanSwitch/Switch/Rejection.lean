import VlanSwitch.Switch.Counting

/-!
# Rejection is atomic, and says why

`VlanSwitch.Switch.forward` has one exit for every way a frame can be wrong for a port
(`VlanSwitch.Refuses`), in a fixed order: whether the port is there, whether it is
blocked, whether its mode takes the frame. A call that fails takes the exit that
applies and no other (`VlanSwitch.Switch.fst_forward_eq_error`), and by then it has
changed nothing but one drop of the port (`VlanSwitch.forward_atomic`).
-/

namespace VlanSwitch

/-- **Why a frame is refused on a port.** Probes are refused on ports that are not
registered, and on no other. -/
inductive Refuses (s : Switch) (p : PortId) (frame : EthernetFrame) : SwitchError → Prop
  | unknownPort : p ∉ s.ports → Refuses s p frame (.unknownPort p)
  | portBlocked {entry : PortEntry} : s.ports.lookup p = some entry →
    ¬LoopGuard.isAnyProbe frame → entry.blocked = true → Refuses s p frame (.portBlocked p)
  | taggedFrameOnAccessPort {entry : PortEntry} {vlan : Vlan} {tag : Dot1qTag} :
    s.ports.lookup p = some entry → ¬LoopGuard.isAnyProbe frame → entry.blocked = false →
    entry.mode = .access vlan → frame.tag = some tag →
    Refuses s p frame (.taggedFrameOnAccessPort p)
  | vlanNotAllowedOnTrunk {entry : PortEntry} {native : Option Vlan} {allowed : Finset Vlan}
    {tag : Dot1qTag} : s.ports.lookup p = some entry → ¬LoopGuard.isAnyProbe frame →
    entry.blocked = false → entry.mode = .trunk native allowed → frame.tag = some tag →
    tag.vid ∉ allowed → native ≠ some tag.vid →
    Refuses s p frame (.vlanNotAllowedOnTrunk p tag.vid)
  | untaggedFrameOnTrunkWithoutNative {entry : PortEntry} {allowed : Finset Vlan} :
    s.ports.lookup p = some entry → ¬LoopGuard.isAnyProbe frame → entry.blocked = false →
    entry.mode = .trunk none allowed → frame.tag = none →
    Refuses s p frame (.untaggedFrameOnTrunkWithoutNative p)

namespace Switch

variable {s : Switch} {p : PortId} {frame : EthernetFrame}

/-- What a mode refuses is refused by the port. -/
theorem refuses_of_ingressVlan {entry : PortEntry} (hentry : s.ports.lookup p = some entry)
    (hprobe : ¬LoopGuard.isAnyProbe frame) (hup : entry.blocked = false) {e : SwitchError}
    (h : s.ingressVlan p frame = .error e) : Refuses s p frame e := by
  rw [ingressVlan, hentry] at h
  dsimp only at h
  split at h
  · next hmode htag =>
    obtain rfl := Except.error.inj h
    exact .taggedFrameOnAccessPort hentry hprobe hup hmode htag
  · next hmode htag =>
    split at h
    · cases h
    · next hvid =>
      obtain rfl := Except.error.inj h
      exact .vlanNotAllowedOnTrunk hentry hprobe hup hmode htag (fun hc => hvid (Or.inl hc))
        fun hc => hvid (Or.inr hc)
  · cases h
  · cases h
  · next hmode htag =>
    obtain rfl := Except.error.inj h
    exact .untaggedFrameOnTrunkWithoutNative hentry hprobe hup hmode htag

/-- On a port that is up, an ordinary frame is rejected for what its mode refuses. -/
theorem verdict_of_ingressVlan {entry : PortEntry} (hentry : s.ports.lookup p = some entry)
    (hprobe : ¬LoopGuard.isAnyProbe frame) (hup : entry.blocked = false) {e : SwitchError}
    (h : s.ingressVlan p frame = .error e) : s.verdict p frame = .rejected e := by
  rw [verdict, hentry]
  dsimp only
  rw [if_neg hprobe, if_neg (by simp [hup]), h]

/-- **A frame is rejected exactly if the port is registered and refuses it.** -/
theorem verdict_eq_rejected_iff {e : SwitchError} :
    s.verdict p frame = .rejected e ↔ p ∈ s.ports ∧ Refuses s p frame e := by
  constructor
  · intro h
    obtain ⟨hport, hprobe⟩ := verdict_eq_rejected h
    obtain ⟨entry, hentry⟩ := Finmap.mem_iff.mp hport
    refine ⟨hport, ?_⟩
    rw [verdict, hentry] at h
    dsimp only at h
    rw [if_neg hprobe] at h
    split at h
    · next hblocked =>
      obtain rfl := Verdict.rejected.inj h
      exact .portBlocked hentry hprobe hblocked
    · next hup =>
      rcases hvlan : s.ingressVlan p frame with e' | vlan
      · rw [hvlan] at h
        obtain rfl := Verdict.rejected.inj h
        exact refuses_of_ingressVlan hentry hprobe (Bool.eq_false_iff.mpr hup) hvlan
      · simp [hvlan] at h
  · rintro ⟨hport, hrefuses⟩
    cases hrefuses with
    | unknownPort hnot => exact absurd hport hnot
    | portBlocked hentry hprobe hblocked =>
      exact verdict_of_blocked hprobe hport (isBlocked_eq_true.mpr ⟨_, hentry, hblocked⟩)
    | taggedFrameOnAccessPort hentry hprobe hup hmode htag =>
      refine verdict_of_ingressVlan hentry hprobe hup ?_
      simp only [ingressVlan, hentry, hmode, htag]
    | vlanNotAllowedOnTrunk hentry hprobe hup hmode htag hallowed hnative =>
      refine verdict_of_ingressVlan hentry hprobe hup ?_
      simp only [ingressVlan, hentry, hmode, htag, hallowed, hnative, or_self, if_false]
    | untaggedFrameOnTrunkWithoutNative hentry hprobe hup hmode htag =>
      refine verdict_of_ingressVlan hentry hprobe hup ?_
      simp only [ingressVlan, hentry, hmode, htag]

/-- **A call fails for the reason the port has to refuse the frame.** -/
theorem fst_forward_eq_error {now : Instant} {e : SwitchError} :
    (s.forward p frame now).1 = .error e ↔ Refuses s p frame e := by
  rw [forward_eq]
  constructor
  · intro h
    rcases hv : s.verdict p frame with _ | _ | _ | e' | vlan
    · rw [hv] at h
      obtain rfl := Except.error.inj h
      exact .unknownPort (verdict_eq_unknown.mp hv)
    · simp [hv] at h
    · simp [hv] at h
    · rw [hv] at h
      obtain rfl := Except.error.inj h
      exact (verdict_eq_rejected_iff.mp hv).2
    · simp [hv] at h
  · intro h
    by_cases hport : p ∈ s.ports
    · rw [verdict_eq_rejected_iff.mpr ⟨hport, h⟩]
    · -- a port that is not registered has no entry to refuse the frame for
      have hunknown : e = .unknownPort p := by
        cases h with
        | unknownPort _ => rfl
        | portBlocked hentry => exact absurd (Finmap.mem_of_lookup_eq_some hentry) hport
        | taggedFrameOnAccessPort hentry =>
          exact absurd (Finmap.mem_of_lookup_eq_some hentry) hport
        | vlanNotAllowedOnTrunk hentry =>
          exact absurd (Finmap.mem_of_lookup_eq_some hentry) hport
        | untaggedFrameOnTrunkWithoutNative hentry =>
          exact absurd (Finmap.mem_of_lookup_eq_some hentry) hport
      rw [verdict_eq_unknown.mpr hport, hunknown]

/-- **The state after a call that failed**: as it was if the port is not registered, and
else with one more drop of the port. -/
theorem snd_forward_of_error {now : Instant} {e : SwitchError}
    (h : (s.forward p frame now).1 = .error e) :
    (s.forward p frame now).2 = if p ∈ s.ports then s.countDrop p else s := by
  rw [forward_eq] at h ⊢
  rcases hv : s.verdict p frame with _ | _ | _ | e' | vlan
  · rw [if_neg (verdict_eq_unknown.mp hv)]
  · simp [hv] at h
  · simp [hv] at h
  · rw [if_pos (verdict_eq_rejected hv).1]
  · simp [hv] at h

end Switch

open Switch

/-- **A failing call of `forward` is atomic, and its error is exact.** It fails exactly
if the port refuses the frame, and with that reason. If the port is not registered the
state is unchanged; on any other error its drops grow by one, and nothing else in the
state differs. So an ordinary frame that is accepted is of a VLAN its port carries. -/
theorem forward_atomic (s : Switch) (p : PortId) (frame : EthernetFrame) (now : Instant) :
    (∀ e, (s.forward p frame now).1 = .error e ↔ Refuses s p frame e) ∧
      (∀ e, (s.forward p frame now).1 = .error e →
        (e = .unknownPort p → (s.forward p frame now).2 = s) ∧
        (e ≠ .unknownPort p →
          (s.forward p frame now).2 =
            { s with portCounters := s.portCounters.entryOrDefault p Counters.addDrop } ∧
          ∀ q, (s.forward p frame now).2.portCounter q =
            if q = p then { s.portCounter p with drops := (s.portCounter p).drops + 1 }
            else s.portCounter q)) ∧
      (¬LoopGuard.isAnyProbe frame → ∀ ds vlan, (s.forward p frame now).1 = .ok ds →
        s.ingressVlan p frame = .ok vlan →
        ∃ entry, s.ports.lookup p = some entry ∧ entry.mode.carries vlan) := by
  refine ⟨fun e => fst_forward_eq_error, ?_, ?_⟩
  · intro e he
    have hstate := snd_forward_of_error he
    refine ⟨?_, ?_⟩
    · rintro rfl
      cases fst_forward_eq_error.mp he with
      | unknownPort hnot => rw [hstate, if_neg hnot]
    · intro hne
      have hport : p ∈ s.ports := by
        by_contra hnot
        have hunknown : (s.forward p frame now).1 = .error (.unknownPort p) :=
          fst_forward_eq_error.mpr (.unknownPort hnot)
        exact hne (Except.error.inj (he.symm.trans hunknown))
      rw [if_pos hport] at hstate
      refine ⟨hstate, fun q => ?_⟩
      rw [hstate, portCounter_countDrop]
      split
      · next hq => rw [hq, Counters.addDrop]
      · rfl
  · intro hprobe ds vlan hds hvlan
    obtain ⟨entry, hentry, -, hcarries⟩ :=
      ((resolves_iff_forward now).mpr ⟨hprobe, ⟨ds, hds⟩, hvlan⟩).exists_entry
    exact ⟨entry, hentry, hcarries⟩

end VlanSwitch
