import Mathlib.Data.List.Induction
import VlanSwitch.Lib.Machine

/-!
# What a cell holds is its last live write

A *cell* of a machine is a place that holds at most one value: a step may write it,
may kill what it holds, or leaves it alone. Over a run the cell then holds exactly the
last value written to it that nothing has killed since – neither a later write nor a
kill. `Machine.Cell.read_run` says so as an equivalence between the state at the end
of a run and the trace of the run, so that it gives both what is in the cell and what
cannot be: nothing killed or overwritten ever comes back.
-/

namespace Machine

variable {σ ι ο α : Type*}

/-- A cell of a machine. -/
structure Cell (M : Machine σ ι ο) (α : Type*) where
  /-- What the cell holds. -/
  read : σ → Option α
  /-- What a step writes to the cell. -/
  writes : σ → ι → Option α
  /-- Whether a step kills a value. -/
  kills : σ → ι → α → Prop
  /-- One step writes, kills or keeps. -/
  read_next : ∀ s i a, read (M.next s i) = some a ↔
    writes s i = some a ∨ writes s i = none ∧ read s = some a ∧ ¬kills s i a

namespace Cell

variable {M : Machine σ ι ο} (c : Cell M α)

/-- A later event leaves the value `a` alone. -/
def Spares (a : α) (e : σ × ι) : Prop := c.writes e.1 e.2 = none ∧ ¬c.kills e.1 e.2 a

/-- **A cell holds its last live write**, if it started empty. -/
theorem read_run {s : σ} (hs : c.read s = none) (is : List ι) (a : α) :
    c.read (M.run s is) = some a ↔
      ∃ before t i after, M.trace s is = before ++ (t, i) :: after ∧
        c.writes t i = some a ∧ ∀ e ∈ after, c.Spares a e := by
  induction is using List.reverseRecOn with
  | nil =>
    rw [run_nil, hs, trace_nil]
    refine ⟨fun h => absurd h (by simp), ?_⟩
    rintro ⟨before, t, i, after, h, -⟩
    exact absurd h (by simp)
  | append_singleton is j ih =>
    rw [run_concat, trace_concat, c.read_next, ih]
    constructor
    · rintro (hw | ⟨hw, ⟨before, t, i, after, htrace, hwrite, hspares⟩, hkill⟩)
      · exact ⟨M.trace s is, M.run s is, j, [], rfl, hw, fun e he => absurd he List.not_mem_nil⟩
      · refine ⟨before, t, i, after ++ [(M.run s is, j)], by simp [htrace], hwrite, fun e he => ?_⟩
        rcases List.mem_append.mp he with he | he
        · exact hspares e he
        · rw [List.mem_singleton.mp he]
          exact ⟨hw, hkill⟩
    · rintro ⟨before, t, i, after, htrace, hwrite, hspares⟩
      rcases after.eq_nil_or_concat with rfl | ⟨after, e, rfl⟩
      · -- the write is the last event of the run
        obtain ⟨-, hlast⟩ := List.append_inj' htrace rfl
        obtain ⟨rfl, rfl⟩ := Prod.mk.inj (List.cons.inj hlast).1
        exact Or.inl hwrite
      · have hsplit : M.trace s is ++ [(M.run s is, j)] =
            (before ++ (t, i) :: after) ++ [e] := by simpa using htrace
        obtain ⟨hbefore, hlast⟩ := List.append_inj' hsplit rfl
        obtain rfl := (List.cons.inj hlast).1
        obtain ⟨hw, hkill⟩ := hspares (M.run s is, j) (by simp)
        exact Or.inr ⟨hw, ⟨before, t, i, after, hbefore, hwrite,
          fun e he => hspares e (by simp [he])⟩, hkill⟩

/-- **What was killed does not come back**, nor does what it had overwritten: after the
last write of a run is killed, the cell stays empty. -/
theorem read_run_eq_none {s : σ} (hs : c.read s = none) (is : List ι) {before : List (σ × ι)}
    {t : σ} {i : ι} {after : List (σ × ι)} {a : α}
    (htrace : M.trace s is = before ++ (t, i) :: after) (hwrite : c.writes t i = some a)
    (hlast : ∀ e ∈ after, c.writes e.1 e.2 = none) (hkill : ∃ e ∈ after, c.kills e.1 e.2 a) :
    c.read (M.run s is) = none := by
  rcases hb : c.read (M.run s is) with _ | b
  · rfl
  · obtain ⟨before', u, j, after', htrace', hwrite', hspares⟩ := (c.read_run hs is b).mp hb
    -- the live write is the last one, so the two splits of the trace are the same
    obtain ⟨e, he, hk⟩ := hkill
    rcases List.append_eq_append_iff.mp (htrace.symm.trans htrace') with
      ⟨mid, hmid, hsplit⟩ | ⟨mid, hmid, hsplit⟩
    · rcases mid with _ | ⟨x, mid⟩
      · obtain ⟨hhead, rfl⟩ := List.cons.inj hsplit
        obtain ⟨rfl, rfl⟩ := Prod.mk.inj hhead
        obtain rfl : a = b := Option.some.inj (hwrite.symm.trans hwrite')
        exact absurd hk (hspares e he).2
      · obtain ⟨-, rfl⟩ := List.cons.inj hsplit
        have hnone := hlast (u, j) (by simp)
        exact absurd (hwrite'.symm.trans hnone) (by simp)
    · rcases mid with _ | ⟨x, mid⟩
      · obtain ⟨hhead, rfl⟩ := List.cons.inj hsplit
        obtain ⟨rfl, rfl⟩ := Prod.mk.inj hhead
        obtain rfl : a = b := Option.some.inj (hwrite.symm.trans hwrite')
        exact absurd hk (hspares e he).2
      · obtain ⟨-, rfl⟩ := List.cons.inj hsplit
        have hnone := (hspares (t, i) (by simp)).1
        exact absurd (hwrite.symm.trans hnone) (by simp)

end Cell

end Machine
