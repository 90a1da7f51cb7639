import Mathlib.Data.Set.Basic
import Mathlib.Logic.Function.Basic

/-!
# Learning bridges, abstractly

A bridge joins ports into *segments* and remembers, segment by segment, behind which
port an address was seen. This file is what such a device is for, over arbitrary
types of ports, segments and addresses: membership is a set, the learned routes are a
partial function, and a frame is sent to
`LearningBridge.targets` – to the port its destination was learned on, and to the
whole segment when it was learned on none.

Nothing in the decision itself keeps a frame inside its segment, since a learned
route is followed without asking whether the port is still a member. What does is an
invariant of the routes, `LearningBridge.Sound`: each leads to a member of its
segment. It survives every `LearningBridge.Step`, provided membership is only ever
taken from a port together with the routes that lead to it, and under it the decision
stays inside the segment (`LearningBridge.Sound.targets_subset`).
-/

/-- A learning bridge: the ports of each segment, and the routes learned in it. -/
@[ext]
structure LearningBridge (P V A : Type*) where
  /-- The ports a frame of the segment may leave through. -/
  members : V → Set P
  /-- The port an address was learned on. -/
  routes : V → A → Option P

namespace LearningBridge

variable {P V A : Type*}

/-- **The decision**: a frame of segment `v` that came in on `ingress` goes where its
destination was learned, or else to the whole segment, and never back. -/
def targets (b : LearningBridge P V A) (v : V) (ingress : P) (dst : A) : Set P :=
  match b.routes v dst with
  | some p => {p} \ {ingress}
  | none => b.members v \ {ingress}

/-- Every route leads to a member of its segment. -/
def Sound (b : LearningBridge P V A) : Prop :=
  ∀ v a p, b.routes v a = some p → p ∈ b.members v

/-- Only addresses of `U` have routes. -/
def Confined (U : Set A) (b : LearningBridge P V A) : Prop :=
  ∀ v a p, b.routes v a = some p → a ∈ U

/-- **Soundness confines the decision to the segment.** -/
theorem Sound.targets_subset {b : LearningBridge P V A} (h : b.Sound) (v : V) (ingress : P)
    (dst : A) : b.targets v ingress dst ⊆ b.members v \ {ingress} := by
  unfold targets
  split
  · next p hp =>
    rintro q ⟨rfl, hq⟩
    exact ⟨h v dst q hp, hq⟩
  · exact subset_rfl

/-- An address without a route is sent to the whole segment. -/
theorem Confined.targets_eq {U : Set A} {b : LearningBridge P V A} (h : b.Confined U) (v : V)
    (ingress : P) {dst : A} (hdst : dst ∉ U) :
    b.targets v ingress dst = b.members v \ {ingress} := by
  unfold targets
  split
  · next p hp => exact absurd (h v dst p hp) hdst
  · rfl

/-! ### What may happen to a bridge -/

open Classical in
/-- Learn that `a` is behind `p`. -/
noncomputable def learn (b : LearningBridge P V A) (v : V) (a : A) (p : P) :
    LearningBridge P V A where
  members := b.members
  routes w c := if w = v ∧ c = a then some p else b.routes w c

open Classical in
/-- Forget the routes that are not to be kept. -/
noncomputable def forget (b : LearningBridge P V A) (keep : V → A → P → Prop) :
    LearningBridge P V A where
  members := b.members
  routes v a := (b.routes v a).filter fun p => keep v a p

/-- Make `p` a member of the segments `S`, and of no others. -/
def assign (b : LearningBridge P V A) (p : P) (S : Set V) : LearningBridge P V A where
  members v := {q | q = p ∧ v ∈ S ∨ q ≠ p ∧ q ∈ b.members v}
  routes := b.routes

/-- **The steps of a bridge** that learns addresses of `U` only: learn one on a member
of the segment, forget routes, forget the routes to a port and reassign it, give a
port more segments. -/
inductive Step (U : Set A) : LearningBridge P V A → LearningBridge P V A → Prop
  | learn {b : LearningBridge P V A} {v : V} {a : A} {p : P} :
    p ∈ b.members v → a ∈ U → Step U b (b.learn v a p)
  | forget {b : LearningBridge P V A} (keep : V → A → P → Prop) : Step U b (b.forget keep)
  | reassign {b : LearningBridge P V A} (p : P) (S : Set V) :
    Step U b ((b.forget fun _ _ q => q ≠ p).assign p S)
  | join {b : LearningBridge P V A} {p : P} {S : Set V} :
    (∀ v, p ∈ b.members v → v ∈ S) → Step U b (b.assign p S)

theorem learn_routes {b : LearningBridge P V A} {v w : V} {a c : A} {p q : P}
    (h : (b.learn v a p).routes w c = some q) :
    (w = v ∧ c = a ∧ q = p) ∨ b.routes w c = some q := by
  classical
  simp only [learn] at h
  split at h
  · next hwc => exact Or.inl ⟨hwc.1, hwc.2, (Option.some.inj h).symm⟩
  · exact Or.inr h

theorem forget_routes {b : LearningBridge P V A} {keep : V → A → P → Prop} {v : V} {a : A}
    {p : P} (h : (b.forget keep).routes v a = some p) : b.routes v a = some p ∧ keep v a p := by
  classical
  obtain ⟨hp, hk⟩ := Option.filter_eq_some_iff.mp h
  exact ⟨hp, of_decide_eq_true hk⟩

/-- **Every step keeps the routes sound.** -/
theorem Sound.step {U : Set A} {b b' : LearningBridge P V A} (h : b.Sound) (hs : Step U b b') :
    b'.Sound := by
  intro v a p hp
  cases hs with
  | learn hq _ =>
    rcases learn_routes hp with ⟨rfl, -, rfl⟩ | hp
    · exact hq
    · exact h v a p hp
  | forget keep => exact h v a p (forget_routes hp).1
  | reassign q S =>
    have hroute : (b.forget fun _ _ r => r ≠ q).routes v a = some p := hp
    obtain ⟨hp, hne⟩ := forget_routes hroute
    exact Or.inr ⟨hne, h v a p hp⟩
  | @join q S hS =>
    -- the routes to the port stay, and so do the segments they are in
    have hmem := h v a p hp
    by_cases hpq : p = q
    · exact Or.inl ⟨hpq, hS v (hpq ▸ hmem)⟩
    · exact Or.inr ⟨hpq, hmem⟩

/-- **Every step keeps the routes to the addresses that may be learned.** -/
theorem Confined.step {U : Set A} {b b' : LearningBridge P V A} (h : b.Confined U)
    (hs : Step U b b') : b'.Confined U := by
  intro v a p hp
  cases hs with
  | learn _ hc =>
    rcases learn_routes hp with ⟨-, rfl, -⟩ | hp
    · exact hc
    · exact h v a p hp
  | forget keep => exact h v a p (forget_routes hp).1
  | reassign q S =>
    have hroute : (b.forget fun _ _ r => r ≠ q).routes v a = some p := hp
    exact h v a p (forget_routes hroute).1
  | join _ => exact h v a p hp

end LearningBridge
