import Mathlib.Algebra.BigOperators.Group.List.Basic
import Mathlib.Data.List.DropRight
import VlanSwitch.Lib.Machine

/-!
# What a meter shows is what happened since its last reset

A *meter* of a machine is a quantity of an additive monoid that a step resets to zero
or else adds to. After a run from a reset meter it shows the sum of what the events
since the last reset added (`Machine.Meter.read_run`), the events being those of the
trace (`Machine.Meter.since`).
-/

namespace Machine

variable {σ ι ο A : Type*} [AddMonoid A]

/-- A meter of a machine. -/
structure Meter (M : Machine σ ι ο) (A : Type*) [AddMonoid A] where
  /-- What the meter shows. -/
  read : σ → A
  /-- Whether an event resets the meter. -/
  resets : σ × ι → Bool
  /-- What an event adds. -/
  gain : σ × ι → A
  /-- One step resets the meter, or adds to it. -/
  read_next : ∀ s i, read (M.next s i) = if resets (s, i) then 0 else read s + gain (s, i)

namespace Meter

variable {M : Machine σ ι ο} (m : Meter M A)

/-- The events since the last reset. -/
def since (events : List (σ × ι)) : List (σ × ι) := events.rtakeWhile fun e => !m.resets e

theorem since_concat_of_resets {e : σ × ι} (h : m.resets e = true) (events : List (σ × ι)) :
    m.since (events ++ [e]) = [] :=
  List.rtakeWhile_concat_neg (fun e => !m.resets e) events e (by simp [h])

theorem since_concat {e : σ × ι} (h : m.resets e = false) (events : List (σ × ι)) :
    m.since (events ++ [e]) = m.since events ++ [e] :=
  List.rtakeWhile_concat_pos (fun e => !m.resets e) events e (by simp [h])

/-- **A meter shows what was added since its last reset.** -/
theorem read_run {s : σ} (hs : m.read s = 0) (is : List ι) :
    m.read (M.run s is) = ((m.since (M.trace s is)).map m.gain).sum := by
  induction is using List.reverseRecOn with
  | nil => exact hs
  | append_singleton is i ih =>
    rw [run_concat, trace_concat, m.read_next]
    rcases hreset : m.resets (M.run s is, i) with _ | _
    · rw [if_neg Bool.false_ne_true, m.since_concat hreset, List.map_append, List.sum_append, ih]
      simp only [List.map_cons, List.map_nil, List.sum_cons, List.sum_nil, add_zero]
    · rw [if_pos rfl, m.since_concat_of_resets hreset, List.map_nil, List.sum_nil]

end Meter

end Machine
