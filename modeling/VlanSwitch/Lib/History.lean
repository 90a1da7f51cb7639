import VlanSwitch.Lib.Machine

/-!
# What a run has done so far

A machine whose steps have effects outputs lists of them; the *history* of a run
(`Machine.history`) is all of them, in order. Three rules are proved about it.

* `Machine.history_invariant` – what a step keeps true of the state and the history
  together, the history having grown by the effects of the step, is true at the end of
  every run. The history plays the part of a ghost variable, without being a part of
  the state.
* `Machine.exists_simulation` – a machine each of whose steps is matched by steps of
  another one keeps the relation between the two all along a run.

* `Machine.countP_history_le`, `Machine.countP_history_eq`, `Machine.countP_trace_le` –
  effects or steps of a kind are counted against inputs of a kind: if every step pays for
  its effects out of a quantity that inputs raise, the history holds no more effects than
  the run has inputs.

An effect somewhere in a history comes from one step of the run, and what precedes it
there is what happened before it (`Machine.exists_of_history_eq`).
-/

/-- An item of a concatenation is one of the first list or one of the second. -/
theorem List.append_eq_append_cons {α : Type*} {l l' a b : List α} {e : α}
    (h : l ++ l' = a ++ e :: b) :
    (∃ rest, l = a ++ e :: rest ∧ b = rest ++ l') ∨
      ∃ rest, a = l ++ rest ∧ l' = rest ++ e :: b := by
  rcases List.append_eq_append_iff.mp h with ⟨rest, hrest, hl'⟩ | ⟨rest, hl, hrest⟩
  · exact Or.inr ⟨rest, hrest, hl'⟩
  · rcases rest with _ | ⟨e', rest⟩
    · exact Or.inr ⟨[], by simpa using hl.symm, hrest.symm⟩
    · obtain ⟨rfl, hb⟩ := List.cons.inj hrest
      exact Or.inl ⟨rest, hl, hb⟩

namespace Machine

variable {σ ι ε : Type*} (M : Machine σ ι (List ε))

/-- The effects of a run, in order. -/
def history : σ → List ι → List ε
  | _, [] => []
  | s, i :: is => M.out s i ++ history (M.next s i) is

@[simp] theorem history_nil (s : σ) : M.history s [] = [] := rfl

@[simp] theorem history_cons (s : σ) (i : ι) (is : List ι) :
    M.history s (i :: is) = M.out s i ++ M.history (M.next s i) is := rfl

theorem history_append (s : σ) (is js : List ι) :
    M.history s (is ++ js) = M.history s is ++ M.history (M.run s is) js := by
  induction is generalizing s with
  | nil => rfl
  | cons i is ih =>
    rw [List.cons_append, history_cons, ih, history_cons, run_cons, List.append_assoc]

/-- **The invariant rule, with a history.** -/
theorem history_invariant {I : σ → List ε → Prop} {P : σ → ι → Prop}
    (hstep : ∀ s h i, P s i → I s h → I (M.next s i) (h ++ M.out s i)) {s : σ} {is : List ι}
    (his : ∀ e ∈ M.trace s is, P e.1 e.2) {h : List ε} (hs : I s h) :
    I (M.run s is) (h ++ M.history s is) := by
  induction is generalizing s h with
  | nil =>
    rw [history_nil, List.append_nil]
    exact hs
  | cons i is ih =>
    rw [trace_cons, List.forall_mem_cons] at his
    rw [history_cons, ← List.append_assoc]
    exact ih his.2 (hstep s h i his.1 hs)

/-- **Where an effect comes from**: one step of the run, after which nothing of what
follows the effect, and before which all but what the step itself did first. -/
theorem exists_of_history_eq {s : σ} {is : List ι} {h₁ h₂ : List ε} {e : ε}
    (h : M.history s is = h₁ ++ e :: h₂) :
    ∃ pre i post o₁ o₂, is = pre ++ i :: post ∧ M.out (M.run s pre) i = o₁ ++ e :: o₂ ∧
      h₁ = M.history s pre ++ o₁ := by
  induction is generalizing s h₁ with
  | nil => exact absurd h (by simp)
  | cons i is ih =>
    rw [history_cons] at h
    rcases List.append_eq_append_cons h with ⟨rest, hout, -⟩ | ⟨rest, rfl, hlater⟩
    · exact ⟨[], i, is, h₁, rest, rfl, hout, rfl⟩
    · -- the effect is one of a later step
      obtain ⟨pre, j, post, o₁, o₂, rfl, hout, rfl⟩ := ih hlater
      exact ⟨i :: pre, j, post, o₁, o₂, rfl, hout, by rw [history_cons, List.append_assoc]⟩

/-- An effect of a run is the effect of one of its steps. -/
theorem exists_of_mem_history {s : σ} {is : List ι} {e : ε} (h : e ∈ M.history s is) :
    ∃ pre i post, is = pre ++ i :: post ∧ e ∈ M.out (M.run s pre) i := by
  obtain ⟨h₁, h₂, heq⟩ := List.append_of_mem h
  obtain ⟨pre, i, post, o₁, o₂, his, hout, -⟩ := M.exists_of_history_eq heq
  exact ⟨pre, i, post, his, hout ▸ by simp⟩

/-- **The counting rule**: effects are paid for by a quantity that only certain inputs
raise, each by one. -/
theorem countP_history_le {φ : σ → ℕ} {p : ε → Bool} {q : ι → Bool} {P : σ → ι → Prop}
    (hstep : ∀ s i, P s i →
      (M.out s i).countP p + φ (M.next s i) ≤ φ s + if q i then 1 else 0)
    {s : σ} {is : List ι} (his : ∀ e ∈ M.trace s is, P e.1 e.2) :
    (M.history s is).countP p + φ (M.run s is) ≤ φ s + is.countP q := by
  induction is generalizing s with
  | nil =>
    rw [history_nil, List.countP_nil, List.countP_nil, run_nil]
    omega
  | cons i is ih =>
    rw [trace_cons, List.forall_mem_cons] at his
    have hone := hstep s i his.1
    have hrest := ih his.2
    rw [history_cons, List.countP_append, List.countP_cons, run_cons]
    omega

/-- **The counting rule, for steps**: steps of a kind are paid for in the same way. -/
theorem countP_trace_le {ο : Type*} {N : Machine σ ι ο} {φ : σ → ℕ} {p : σ × ι → Bool}
    {q : ι → Bool}
    (hstep : ∀ s i, (if p (s, i) then 1 else 0) + φ (N.next s i) ≤ φ s + if q i then 1 else 0)
    (s : σ) (is : List ι) : (N.trace s is).countP p + φ (N.run s is) ≤ φ s + is.countP q := by
  induction is generalizing s with
  | nil =>
    rw [trace_nil, List.countP_nil, List.countP_nil, run_nil]
    omega
  | cons i is ih =>
    have hone := hstep s i
    have hrest := ih (N.next s i)
    rw [trace_cons, List.countP_cons, List.countP_cons, run_cons]
    omega

/-- **The counting rule, when nothing is lost.** -/
theorem countP_history_eq {φ : σ → ℕ} {p : ε → Bool} {q : ι → Bool} {P : σ → ι → Prop}
    (hstep : ∀ s i, P s i →
      (M.out s i).countP p + φ (M.next s i) = φ s + if q i then 1 else 0)
    {s : σ} {is : List ι} (his : ∀ e ∈ M.trace s is, P e.1 e.2) :
    (M.history s is).countP p + φ (M.run s is) = φ s + is.countP q := by
  induction is generalizing s with
  | nil =>
    rw [history_nil, List.countP_nil, List.countP_nil, run_nil]
    omega
  | cons i is ih =>
    rw [trace_cons, List.forall_mem_cons] at his
    have hone := hstep s i his.1
    have hrest := ih his.2
    rw [history_cons, List.countP_append, List.countP_cons, run_cons]
    omega

end Machine

namespace Machine

variable {σ ι ο τ κ ο' : Type*} {M : Machine σ ι ο} {N : Machine τ κ ο'}

/-- **The simulation rule**: if every step of a machine is matched by a run of another
one that keeps to some discipline, every run is. -/
theorem exists_simulation {R : σ → τ → Prop} {P : τ → κ → Prop}
    (hstep : ∀ s t i, R s t →
      ∃ js, (∀ e ∈ N.trace t js, P e.1 e.2) ∧ R (M.next s i) (N.run t js))
    {s : σ} {t : τ} (hst : R s t) (is : List ι) :
    ∃ js, (∀ e ∈ N.trace t js, P e.1 e.2) ∧ R (M.run s is) (N.run t js) := by
  induction is generalizing s t with
  | nil => exact ⟨[], by simp, hst⟩
  | cons i is ih =>
    obtain ⟨js, hjs, hnext⟩ := hstep s t i hst
    obtain ⟨ks, hks, hrun⟩ := ih hnext
    refine ⟨js ++ ks, fun e he => ?_, ?_⟩
    · rw [trace_append] at he
      rcases List.mem_append.mp he with he | he
      · exact hjs e he
      · exact hks e he
    · rw [run_append]
      exact hrun

end Machine
