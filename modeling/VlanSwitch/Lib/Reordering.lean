import Mathlib.Data.List.Perm.Basic
import VlanSwitch.Lib.Machine

/-!
# Reordering independent inputs

Several streams of inputs are merged into one list, each stream in its own order; which
merge it is should not matter when inputs of different streams are independent.

`Reordering` is the order that may be changed: two lists are reorderings of one another
if swapping independent neighbours leads from one to the other. Two merges of the same
streams are (`Reordering.of_lanes`), an input that belongs to no stream being
independent of all. What independence has to mean for a machine is
`Machine.Commuting`; then reordered runs end in the same state and every input gives
the same output (`Machine.Commuting.run`).
-/

/-- Lists that differ by swaps of independent neighbours. -/
inductive Reordering {α : Type*} (indep : α → α → Prop) : List α → List α → Prop
  | refl (l : List α) : Reordering indep l l
  | cons (a : α) {l l' : List α} : Reordering indep l l' → Reordering indep (a :: l) (a :: l')
  | swap {a b : α} (l : List α) : indep a b → Reordering indep (a :: b :: l) (b :: a :: l)
  | trans {l₁ l₂ l₃ : List α} : Reordering indep l₁ l₂ → Reordering indep l₂ l₃ →
    Reordering indep l₁ l₃

namespace Reordering

variable {α κ : Type*}

theorem perm {indep : α → α → Prop} {l l' : List α} (h : Reordering indep l l') : l.Perm l' := by
  induction h with
  | refl l => exact List.Perm.refl l
  | cons a _ ih => exact ih.cons a
  | swap l _ => exact List.Perm.swap ..
  | trans _ _ ih ih' => exact ih.trans ih'

/-- An item moves past items it is independent of. -/
theorem move {indep : α → α → Prop} {a : α} {pre : List α} (h : ∀ b ∈ pre, indep a b)
    (post : List α) : Reordering indep (a :: (pre ++ post)) (pre ++ a :: post) := by
  induction pre with
  | nil => exact refl _
  | cons b pre ih =>
    have hrest := ih fun c hc => h c (List.mem_cons_of_mem b hc)
    exact trans (swap _ (h b List.mem_cons_self)) (cons b hrest)

/-- Items of different streams, or of none, are independent. -/
def Apart (lane : α → Option κ) (a b : α) : Prop := ∀ k, lane a = some k → lane b ≠ some k

theorem Apart.symm {lane : α → Option κ} {a b : α} (h : Apart lane a b) : Apart lane b a :=
  fun k hb ha => h k ha hb

variable [DecidableEq κ]

/-- The items of one stream, in order. -/
def stream (lane : α → Option κ) (k : κ) (l : List α) : List α := l.filter fun a => lane a = some k

theorem stream_cons_of_eq {lane : α → Option κ} {k : κ} {a : α} (h : lane a = some k)
    (l : List α) : stream lane k (a :: l) = a :: stream lane k l :=
  List.filter_cons_of_pos (by simpa using h)

theorem stream_cons_of_ne {lane : α → Option κ} {k : κ} {a : α} (h : lane a ≠ some k)
    (l : List α) : stream lane k (a :: l) = stream lane k l :=
  List.filter_cons_of_neg (by simpa using h)

theorem stream_append (lane : α → Option κ) (k : κ) (l l' : List α) :
    stream lane k (l ++ l') = stream lane k l ++ stream lane k l' :=
  List.filter_append ..

/-- What comes before the first occurrence of an item that another list starts with is
of other streams than the item. -/
theorem apart_of_stream_eq {lane : α → Option κ} {a : α} {l pre post : List α}
    (hstream : ∀ k, stream lane k (a :: l) = stream lane k (pre ++ a :: post)) (ha : a ∉ pre) :
    ∀ b ∈ pre, Apart lane a b := by
  intro b hb k hak hbk
  have hmem : b ∈ stream lane k pre := List.mem_filter.mpr ⟨hb, by simpa using hbk⟩
  have heq := hstream k
  rw [stream_cons_of_eq hak, stream_append] at heq
  -- the stream of the one starts with the item, that of the other before it
  rcases hpre : stream lane k pre with _ | ⟨c, rest⟩
  · rw [hpre] at hmem
    exact absurd hmem List.not_mem_nil
  · rw [hpre] at heq
    have hc : c ∈ stream lane k pre := by
      rw [hpre]
      exact List.mem_cons_self
    rw [(List.cons.inj heq).1] at ha
    exact ha (List.mem_filter.mp hc).1

/-- **Two merges of the same streams are reorderings of one another.** -/
theorem of_lanes {lane : α → Option κ} {l l' : List α} (hperm : l.Perm l')
    (hstream : ∀ k, stream lane k l = stream lane k l') : Reordering (Apart lane) l l' := by
  induction l generalizing l' with
  | nil =>
    obtain rfl := hperm.nil_eq
    exact refl _
  | cons a l ih =>
    -- the first occurrence of the head is moved to the front
    obtain ⟨pre, post, rfl, ha⟩ := List.eq_append_cons_of_mem (hperm.mem_iff.mp List.mem_cons_self)
    have hapart := apart_of_stream_eq hstream ha
    have hrest : ∀ k, stream lane k l = stream lane k (pre ++ post) := by
      intro k
      have heq := hstream k
      rw [stream_append] at heq ⊢
      by_cases hak : lane a = some k
      · have hnil : stream lane k pre = [] := List.filter_eq_nil_iff.mpr fun b hb hbk =>
          hapart b hb k hak (by simpa using hbk)
        rw [stream_cons_of_eq hak, stream_cons_of_eq hak, hnil] at heq
        rw [hnil]
        exact (List.cons.inj heq).2
      · rw [stream_cons_of_ne hak, stream_cons_of_ne hak] at heq
        exact heq
    have hperm' : l.Perm (pre ++ post) := (hperm.trans List.perm_middle).cons_inv
    exact trans (cons a (ih hperm' hrest)) (move hapart post)

end Reordering

namespace Machine

variable {σ ι ο : Type*} (M : Machine σ ι ο)

/-- The inputs of a run, each with what it returned. -/
def outputs : σ → List ι → List (ι × ο)
  | _, [] => []
  | s, i :: is => (i, M.out s i) :: outputs (M.next s i) is

/-- **Independent inputs commute**, in the states of an invariant that the inputs in play
keep: the state after two of them does not depend on their order, nor does what either
returns. -/
structure Commuting (I : σ → Prop) (P : ι → Prop) (indep : ι → ι → Prop) : Prop where
  keeps {s : σ} {i : ι} : I s → P i → I (M.next s i)
  symm {i j : ι} : indep i j → indep j i
  next_comm {s : σ} {i j : ι} : I s → P i → P j → indep i j →
    M.next (M.next s i) j = M.next (M.next s j) i
  out_comm {s : σ} {i j : ι} : I s → P i → P j → indep i j → M.out (M.next s i) j = M.out s j

variable {M}

/-- **Reordering independent inputs changes nothing**: the state at the end is the same,
and every input returns the same. -/
theorem Commuting.run {I : σ → Prop} {P : ι → Prop} {indep : ι → ι → Prop}
    (h : M.Commuting I P indep) {l l' : List ι} (hl : Reordering indep l l')
    (hP : ∀ i ∈ l, P i) {s : σ} (hs : I s) :
    M.run s l = M.run s l' ∧ (M.outputs s l).Perm (M.outputs s l') := by
  induction hl generalizing s with
  | refl l => exact ⟨rfl, List.Perm.refl _⟩
  | cons i _ ih =>
    have hi := h.keeps hs (hP i List.mem_cons_self)
    obtain ⟨hrun, houts⟩ := ih (fun j hj => hP j (List.mem_cons_of_mem i hj)) hi
    exact ⟨hrun, houts.cons _⟩
  | @swap i j l hij =>
    have hi := hP i List.mem_cons_self
    have hj := hP j (List.mem_cons_of_mem i List.mem_cons_self)
    have hnext := h.next_comm hs hi hj hij
    refine ⟨?_, ?_⟩
    · rw [run_cons, run_cons, hnext, run_cons, run_cons]
    · rw [outputs, outputs, outputs, outputs, h.out_comm hs hi hj hij,
        h.out_comm hs hj hi (h.symm hij), hnext]
      exact List.Perm.swap ..
  | trans hl _ ih ih' =>
    obtain ⟨hrun, houts⟩ := ih hP hs
    obtain ⟨hrun', houts'⟩ := ih' (fun i hi => hP i (hl.perm.mem_iff.mpr hi)) hs
    exact ⟨hrun.trans hrun', houts.trans houts'⟩

end Machine
