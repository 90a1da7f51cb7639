import Mathlib.Algebra.BigOperators.Group.Multiset.Basic
import Mathlib.Data.Multiset.Basic

/-!
# Work that drains

Items of work are taken from a multiset in any order; processing one may change a
state and put new items in, and between two items an environment may change the state
too. The work drains when every item weighs more than all it gives rise to
(`Draining.Potential`): a run then processes no more items than the work it started
with weighs (`Draining.Potential.run`), and as long as every item can be processed
there is always a way on (`Draining.exists_step`), so that nothing is left at the end
(`Draining.Potential.exists_drained`).

Whatever else is in flight, an item is there until it is processed
(`Draining.Settles.run`); and what its processing brings about, and nothing undoes, holds
from then on (`Draining.Settles.lasts`).
-/

namespace Draining

variable {σ α : Type*}

/-- One item is taken out and processed, and what it gave rise to is put in. -/
inductive Step (work : σ → α → σ → Multiset α → Prop) :
    σ × Multiset α → σ × Multiset α → Prop
  | mk {s t : σ} {a : α} {new rest : Multiset α} :
    work s a t new → Step work (s, a ::ₘ rest) (t, new + rest)

/-- A run that processes a given number of items. In between, the environment changes
the state as `env` allows. -/
inductive Run (work : σ → α → σ → Multiset α → Prop) (env : σ → σ → Prop) :
    ℕ → σ × Multiset α → σ × Multiset α → Prop
  | refl (c : σ × Multiset α) : Run work env 0 c c
  | head {n : ℕ} {c d e : σ × Multiset α} : Step work c d → Run work env n d e →
    Run work env (n + 1) c e
  | between {n : ℕ} {s t : σ} {items : Multiset α} {e : σ × Multiset α} : env s t →
    Run work env n (t, items) e → Run work env n (s, items) e

/-- **A weight of items that processing brings down**, in the states of an invariant
that the environment keeps. -/
structure Potential (work : σ → α → σ → Multiset α → Prop) (env : σ → σ → Prop) (I : σ → Prop)
    (w : α → ℕ) : Prop where
  keeps {s t : σ} {a : α} {new : Multiset α} : I s → work s a t new → I t
  spares {s t : σ} : I s → env s t → I t
  descends {s t : σ} {a : α} {new : Multiset α} : I s → work s a t new → (new.map w).sum < w a

variable {work : σ → α → σ → Multiset α → Prop} {env : σ → σ → Prop} {I : σ → Prop} {w : α → ℕ}

theorem Potential.step (h : Potential work env I w) {c d : σ × Multiset α} (hstep : Step work c d)
    (hc : I c.1) : I d.1 ∧ (d.2.map w).sum < (c.2.map w).sum := by
  obtain ⟨hwork⟩ := hstep
  refine ⟨h.keeps hc hwork, ?_⟩
  have hlt := h.descends hc hwork
  rw [Multiset.map_add, Multiset.sum_add, Multiset.map_cons, Multiset.sum_cons]
  exact Nat.add_lt_add_right hlt _

/-- **A run processes no more items than the work it started with weighs.** -/
theorem Potential.run (h : Potential work env I w) {n : ℕ} {c d : σ × Multiset α}
    (hrun : Run work env n c d) (hc : I c.1) :
    I d.1 ∧ n + (d.2.map w).sum ≤ (c.2.map w).sum := by
  induction hrun with
  | refl c => exact ⟨hc, (Nat.zero_add _).le⟩
  | head hstep _ ih =>
    obtain ⟨hd, hlt⟩ := h.step hstep hc
    obtain ⟨he, hle⟩ := ih hd
    refine ⟨he, ?_⟩
    omega
  | between henv _ ih => exact ih (h.spares hc henv)

/-- As long as every item can be processed, work that is left can go on. -/
theorem exists_step (htotal : ∀ s a, ∃ t new, work s a t new) (s : σ) {items : Multiset α}
    {a : α} (ha : a ∈ items) : ∃ t new rest, items = a ::ₘ rest ∧ work s a t new ∧
      Step work (s, items) (t, new + rest) := by
  obtain ⟨rest, rfl⟩ := Multiset.exists_cons_of_mem ha
  obtain ⟨t, new, hwork⟩ := htotal s a
  exact ⟨t, new, rest, rfl, hwork, Step.mk hwork⟩

/-- **Work that is left can be drained.** -/
theorem Potential.exists_drained (h : Potential work env I w)
    (htotal : ∀ s a, ∃ t new, work s a t new) (s : σ) (items : Multiset α) (hs : I s) :
    ∃ m t, Run work env m (s, items) (t, 0) := by
  -- by induction on what the work weighs
  induction hk : (items.map w).sum using Nat.strong_induction_on generalizing s items with
  | _ k ih =>
    rcases Multiset.empty_or_exists_mem items with rfl | ⟨a, ha⟩
    · exact ⟨0, s, Run.refl _⟩
    · obtain ⟨t, new, rest, -, -, hstep⟩ := exists_step htotal s ha
      obtain ⟨ht, hlt⟩ := h.step hstep hs
      obtain ⟨m, u, hrun⟩ := ih _ (hk ▸ hlt) t (new + rest) ht rfl
      exact ⟨m + 1, u, Run.head hstep hrun⟩

/-! ### What the processing of one item brings about -/

/-- **Processing one item settles something**, and nothing undoes it, in the states of
an invariant that the environment keeps. -/
structure Settles (work : σ → α → σ → Multiset α → Prop) (env : σ → σ → Prop) (I : σ → Prop)
    (a : α) (Q : σ → Prop) : Prop where
  keeps {s t : σ} {b : α} {new : Multiset α} : I s → work s b t new → I t
  spares {s t : σ} : I s → env s t → I t
  settles {s t : σ} {new : Multiset α} : I s → work s a t new → Q t
  stays {s t : σ} {b : α} {new : Multiset α} : Q s → work s b t new → Q t
  rests {s t : σ} : Q s → env s t → Q t

/-- What neither processing nor the environment undoes holds on. -/
theorem Run.invariant {n : ℕ} {c d : σ × Multiset α} (hrun : Run work env n c d) {J : σ → Prop}
    (hc : J c.1) (hwork : ∀ {s t a new}, J s → work s a t new → J t)
    (henv : ∀ {s t}, J s → env s t → J t) : J d.1 := by
  induction hrun with
  | refl c => exact hc
  | head hstep _ ih =>
    obtain ⟨hstep⟩ := hstep
    exact ih (hwork hc hstep)
  | between hbetween _ ih => exact ih (henv hc hbetween)

/-- **What an item has settled is settled for good**, whatever else is in flight, be it the
same item once more. -/
theorem Settles.lasts {a : α} {Q : σ → Prop} (h : Settles work env I a Q) {n : ℕ}
    {c : σ × Multiset α} {s t u : σ} {items items' new rest : Multiset α}
    (hbefore : Run work env n c (s, items)) (hI : I c.1) (hwork : work s a t new) {m : ℕ}
    (hafter : Run work env m (t, new + rest) (u, items')) : Q u := by
  have hs : I s := hbefore.invariant hI h.keeps h.spares
  exact hafter.invariant (h.settles hs hwork) h.stays h.rests

/-- **An item is in flight until it has settled what it settles.** -/
theorem Settles.run {a : α} {Q : σ → Prop} (h : Settles work env I a Q) {n : ℕ}
    {c d : σ × Multiset α} (hrun : Run work env n c d) (hI : I c.1) (hc : a ∈ c.2 ∨ Q c.1) :
    a ∈ d.2 ∨ Q d.1 := by
  induction hrun with
  | refl c => exact hc
  | head hstep _ ih =>
    obtain ⟨hwork⟩ := hstep
    refine ih (h.keeps hI hwork) ?_
    rcases hc with ha | hQ
    · rcases Multiset.mem_cons.mp ha with rfl | hrest
      · exact Or.inr (h.settles hI hwork)
      · exact Or.inl (Multiset.mem_add.mpr (Or.inr hrest))
    · exact Or.inr (h.stays hQ hwork)
  | between henv _ ih =>
    refine ih (h.spares hI henv) ?_
    rcases hc with ha | hQ
    · exact Or.inl ha
    · exact Or.inr (h.rests hQ henv)

/-- What is in flight grows by no more than what an item gives rise to, for each item. -/
theorem card_le_of_run {k : ℕ} (hk : ∀ s a t new, work s a t new → new.card ≤ k) {n : ℕ}
    {c d : σ × Multiset α} (hrun : Run work env n c d) : d.2.card ≤ c.2.card + n * k := by
  induction hrun with
  | refl c => omega
  | @head n c d e hstep _ ih =>
    obtain ⟨hwork⟩ := hstep
    have hnew := hk _ _ _ _ hwork
    rw [Multiset.card_add] at ih
    rw [Multiset.card_cons, Nat.add_mul]
    omega
  | between _ _ ih => exact ih

end Draining
