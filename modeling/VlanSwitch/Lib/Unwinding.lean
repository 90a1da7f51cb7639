import Mathlib.Data.List.Basic
import VlanSwitch.Lib.Machine

/-!
# Noninterference by unwinding

An observer of a machine sees some of the inputs, and which ones may depend on the
state they are taken in. The observer is *not interfered with* when two runs that
become equal once the inputs it does not see are deleted also look equal to it: the
outputs it sees are the same, and so is what it can tell about the final states.

Deletion is `Machine.purge`; what is seen of the outputs is `Machine.seen`. The proof
rule is an *unwinding*: a relation on states, what the observer cannot tell apart,
that an unseen input does not leave and that a seen one preserves while giving the
same view (`Machine.Unwinding`). It gives noninterference for runs of every length
(`Machine.Unwinding.noninterference`).
-/

namespace Machine

variable {σ ι ο ω : Type*} (M : Machine σ ι ο)

/-- The inputs of a run that are seen, each judged in the state it is taken in. -/
def purge (sees : σ → ι → Bool) : σ → List ι → List ι
  | _, [] => []
  | s, i :: is =>
    if sees s i then i :: purge sees (M.next s i) is else purge sees (M.next s i) is

/-- What is seen of the outputs of a run. -/
def seen (sees : σ → ι → Bool) (view : ι → ο → ω) : σ → List ι → List ω
  | _, [] => []
  | s, i :: is =>
    if sees s i then view i (M.out s i) :: seen sees view (M.next s i) is
    else seen sees view (M.next s i) is

variable {M} {sees : σ → ι → Bool} {view : ι → ο → ω}

/-- **An unwinding relation**: what an observer cannot tell apart. -/
structure Unwinding (M : Machine σ ι ο) (sees : σ → ι → Bool) (view : ι → ο → ω)
    (R : σ → σ → Prop) : Prop where
  equiv : Equivalence R
  /-- Related states agree on what is seen. -/
  sees_congr {s t : σ} (i : ι) : R s t → sees s i = sees t i
  /-- An unseen input leaves the state where it was. -/
  hidden {s : σ} {i : ι} : sees s i = false → R (M.next s i) s
  /-- A seen input gives the same view. -/
  view_congr {s t : σ} {i : ι} : R s t → sees s i = true →
    view i (M.out s i) = view i (M.out t i)
  /-- A seen input keeps related states related. -/
  next_congr {s t : σ} {i : ι} : R s t → sees s i = true → R (M.next s i) (M.next t i)

/-- A run and what is left of it after the purge look the same from related states. -/
theorem Unwinding.run_purge {R : σ → σ → Prop} (h : Unwinding M sees view R) {s t : σ}
    (hst : R s t) (is : List ι) :
    M.seen sees view s is = M.seen sees view t (M.purge sees s is) ∧
      R (M.run s is) (M.run t (M.purge sees s is)) := by
  induction is generalizing s t with
  | nil => exact ⟨rfl, hst⟩
  | cons i is ih =>
    rcases hi : sees s i with _ | _
    -- an unseen input is deleted, and the states stay related without it
    · have hrel : R (M.next s i) t := h.equiv.trans (h.hidden hi) hst
      simp only [seen, purge, hi]
      exact ih hrel
    · have hi' : sees t i = true := (h.sees_congr i hst).symm.trans hi
      obtain ⟨hseen, hrun⟩ := ih (h.next_congr hst hi)
      simp only [seen, purge, hi, hi', if_true, run_cons]
      exact ⟨congrArg₂ List.cons (h.view_congr hst hi) hseen, hrun⟩

/-- **Noninterference**: from related states, runs that agree on the seen inputs look
the same, in the outputs and at the end. -/
theorem Unwinding.noninterference {R : σ → σ → Prop} (h : Unwinding M sees view R) {s t : σ}
    (hst : R s t) {is js : List ι} (hpurge : M.purge sees s is = M.purge sees t js) :
    M.seen sees view s is = M.seen sees view t js ∧ R (M.run s is) (M.run t js) := by
  obtain ⟨hseen, hrun⟩ := h.run_purge (h.equiv.refl s) is
  obtain ⟨hseen', hrun'⟩ := h.run_purge (h.equiv.symm hst) js
  rw [hpurge] at hseen hrun
  exact ⟨hseen.trans hseen'.symm, h.equiv.trans hrun (h.equiv.symm hrun')⟩

end Machine
