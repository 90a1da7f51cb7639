import Mathlib.Data.Nat.Init
import VlanSwitch.Lib.Machine

/-!
# Machines that settle

Inputs of a kind *settle* a machine if each of them brings a measure of the state down,
unless it changes nothing (`Machine.Settles`). Then only so many of them can have an effect
one after the other (`Machine.Settles.length_le`); and whichever of them are given, as long
as they have one, the machine comes to a state where none of them has any
(`Machine.Settles.exists_settled`).
-/

namespace Machine

variable {σ ι ο : Type*} {M : Machine σ ι ο} {P : ι → Prop} {μ : σ → ℕ}

/-- **Inputs of a kind bring a measure down**, unless they change nothing. -/
def Settles (M : Machine σ ι ο) (P : ι → Prop) (μ : σ → ℕ) : Prop :=
  ∀ s i, P i → M.next s i = s ∨ μ (M.next s i) < μ s

/-- No input of a kind changes anything any more. -/
def Settled (M : Machine σ ι ο) (P : ι → Prop) (s : σ) : Prop := ∀ i, P i → M.next s i = s

/-- Every input of a run changes something. -/
def Busy (M : Machine σ ι ο) (s : σ) (is : List ι) : Prop :=
  ∀ e ∈ M.trace s is, M.next e.1 e.2 ≠ e.1

/-- **No more inputs have an effect than the measure allows.** -/
theorem Settles.length_le (h : M.Settles P μ) {s : σ} {is : List ι} (his : ∀ i ∈ is, P i)
    (hbusy : M.Busy s is) : is.length + μ (M.run s is) ≤ μ s := by
  induction is generalizing s with
  | nil => exact Nat.le_of_eq (Nat.zero_add _)
  | cons i is ih =>
    rw [List.forall_mem_cons] at his
    rw [Busy, trace_cons, List.forall_mem_cons] at hbusy
    have hlt := (h s i his.1).resolve_left hbusy.1
    have hrest := ih his.2 hbusy.2
    rw [List.length_cons, run_cons]
    omega

/-- **There is always a way to settle.** -/
theorem Settles.exists_settled (h : M.Settles P μ) (s : σ) :
    ∃ is, (∀ i ∈ is, P i) ∧ M.Busy s is ∧ M.Settled P (M.run s is) := by
  -- by induction on the measure
  induction hk : μ s using Nat.strong_induction_on generalizing s with
  | _ k ih =>
    by_cases hsettled : M.Settled P s
    · exact ⟨[], fun i hi => absurd hi List.not_mem_nil, fun e he => absurd he List.not_mem_nil,
        hsettled⟩
    · rw [Settled, not_forall] at hsettled
      obtain ⟨i, hi⟩ := hsettled
      rw [Classical.not_imp] at hi
      have hlt := (h s i hi.1).resolve_left hi.2
      obtain ⟨is, his, hbusy, hend⟩ := ih _ (hk ▸ hlt) (M.next s i) rfl
      refine ⟨i :: is, List.forall_mem_cons.mpr ⟨hi.1, his⟩, ?_, hend⟩
      rw [Busy, trace_cons, List.forall_mem_cons]
      exact ⟨hi.2, hbusy⟩

end Machine
