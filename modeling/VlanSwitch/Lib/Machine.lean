import Mathlib.Data.List.Basic

/-!
# Deterministic machines and their runs

A machine takes an input in a state and answers with an output and a next state.
This file fixes what a *run* is – `Machine.run`, over a list of inputs – and what is
recorded of it: `Machine.trace`, the list of the inputs paired with the states they
were taken in. A statement about what happened in a run is a statement about its
trace; a statement about where a run ends is proved by `Machine.run_invariant`, from
what one step preserves.
-/

/-- A deterministic machine with states `σ`, inputs `ι` and outputs `ο`. -/
structure Machine (σ ι ο : Type*) where
  /-- One step: the output, and the next state. -/
  step : σ → ι → ο × σ

namespace Machine

variable {σ ι ο : Type*} (M : Machine σ ι ο)

/-- The output of one step. -/
def out (s : σ) (i : ι) : ο := (M.step s i).1

/-- The state after one step. -/
def next (s : σ) (i : ι) : σ := (M.step s i).2

/-- The state after a list of inputs. -/
def run : σ → List ι → σ
  | s, [] => s
  | s, i :: is => run (M.next s i) is

/-- The inputs of a run, each with the state it was taken in. -/
def trace : σ → List ι → List (σ × ι)
  | _, [] => []
  | s, i :: is => (s, i) :: trace (M.next s i) is

@[simp] theorem run_nil (s : σ) : M.run s [] = s := rfl

@[simp] theorem run_cons (s : σ) (i : ι) (is : List ι) :
    M.run s (i :: is) = M.run (M.next s i) is := rfl

@[simp] theorem trace_nil (s : σ) : M.trace s [] = [] := rfl

@[simp] theorem trace_cons (s : σ) (i : ι) (is : List ι) :
    M.trace s (i :: is) = (s, i) :: M.trace (M.next s i) is := rfl

theorem run_append (s : σ) (is js : List ι) :
    M.run s (is ++ js) = M.run (M.run s is) js := by
  induction is generalizing s with
  | nil => rfl
  | cons i is ih => exact ih (M.next s i)

@[simp] theorem run_concat (s : σ) (is : List ι) (i : ι) :
    M.run s (is ++ [i]) = M.next (M.run s is) i :=
  M.run_append s is [i]

theorem trace_append (s : σ) (is js : List ι) :
    M.trace s (is ++ js) = M.trace s is ++ M.trace (M.run s is) js := by
  induction is generalizing s with
  | nil => rfl
  | cons i is ih => exact congrArg ((s, i) :: ·) (ih (M.next s i))

@[simp] theorem trace_concat (s : σ) (is : List ι) (i : ι) :
    M.trace s (is ++ [i]) = M.trace s is ++ [(M.run s is, i)] :=
  M.trace_append s is [i]

/-- The states of a trace are the states the run passes through. -/
theorem mem_trace {s t : σ} {i : ι} {is : List ι} :
    (t, i) ∈ M.trace s is ↔ ∃ pre post, is = pre ++ i :: post ∧ t = M.run s pre := by
  induction is generalizing s with
  | nil => simp
  | cons j is ih =>
    rw [trace_cons, List.mem_cons, ih]
    constructor
    · rintro (h | ⟨pre, post, rfl, rfl⟩)
      · obtain ⟨rfl, rfl⟩ := Prod.mk.inj h
        exact ⟨[], is, rfl, rfl⟩
      · exact ⟨j :: pre, post, rfl, rfl⟩
    · rintro ⟨pre, post, h, rfl⟩
      cases pre with
      | nil =>
        obtain ⟨rfl, rfl⟩ := List.cons.inj h
        exact Or.inl rfl
      | cons k pre =>
        obtain ⟨rfl, rfl⟩ := List.cons.inj h
        exact Or.inr ⟨pre, post, rfl, rfl⟩

/-- **The invariant rule**: what the inputs of a kind preserve holds at the end of a
run of inputs of that kind. -/
theorem run_invariant {I : σ → Prop} {P : ι → Prop}
    (hstep : ∀ s i, P i → I s → I (M.next s i)) {s : σ} {is : List ι}
    (his : ∀ i ∈ is, P i) (hs : I s) : I (M.run s is) := by
  induction is generalizing s with
  | nil => exact hs
  | cons i is ih =>
    exact ih (fun j hj => his j (List.mem_cons_of_mem _ hj))
      (hstep s i (his i List.mem_cons_self) hs)

end Machine
