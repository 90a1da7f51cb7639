import Mathlib.Data.List.Basic

/-!
# Bounded channels

A channel of a given depth holds the items that were put in and not yet taken out,
oldest first. Putting an item in never waits: it fails if the channel is full
(`Channel.trySend_eq_none`), and what is in there already is not touched. The bound is
part of the type, so that no operation can break it.
-/

/-- **A channel** that holds at most `depth` items. -/
structure Channel (α : Type*) (depth : ℕ) where
  /-- What waits to be taken out, oldest first. -/
  items : List α
  length_le : items.length ≤ depth
  deriving DecidableEq

namespace Channel

variable {α : Type*} {depth : ℕ}

/-- A channel with nothing in it. -/
def empty : Channel α depth := ⟨[], Nat.zero_le depth⟩

/-- Puts an item in at the back, if there is room. -/
def trySend (c : Channel α depth) (a : α) : Option (Channel α depth) :=
  if h : c.items.length < depth then
    some ⟨c.items ++ [a], List.length_append ▸ h⟩
  else none

/-- Takes the oldest item out, if there is one. -/
def recv : Channel α depth → Option (α × Channel α depth)
  | ⟨[], _⟩ => none
  | ⟨a :: rest, h⟩ => some (a, ⟨rest, Nat.le_of_succ_le h⟩)

@[ext] theorem ext {c d : Channel α depth} (h : c.items = d.items) : c = d := by
  cases c
  cases d
  cases h
  rfl

/-- **An item is turned away exactly if the channel is full.** -/
theorem trySend_eq_none {c : Channel α depth} {a : α} :
    c.trySend a = none ↔ c.items.length = depth := by
  rw [trySend]
  split
  · next h => exact ⟨fun hc => absurd hc (by simp), fun hc => absurd h (by omega)⟩
  · next h => exact ⟨fun _ => Nat.le_antisymm c.length_le (Nat.not_lt.mp h), fun _ => rfl⟩

theorem items_of_trySend {c d : Channel α depth} {a : α} (h : c.trySend a = some d) :
    d.items = c.items ++ [a] := by
  rw [trySend] at h
  split at h
  · exact (congrArg items (Option.some.inj h)).symm
  · cases h

theorem recv_eq_none {c : Channel α depth} : c.recv = none ↔ c.items = [] := by
  obtain ⟨_ | ⟨a, rest⟩, hle⟩ := c
  · exact ⟨fun _ => rfl, fun _ => rfl⟩
  · exact ⟨fun h => absurd h (by simp [recv]), fun h => absurd h (by simp)⟩

theorem items_of_recv {c d : Channel α depth} {a : α} (h : c.recv = some (a, d)) :
    c.items = a :: d.items := by
  obtain ⟨_ | ⟨b, rest⟩, hle⟩ := c
  · cases h
  · obtain ⟨rfl, rfl⟩ := Prod.mk.inj (Option.some.inj h)
    rfl

end Channel
