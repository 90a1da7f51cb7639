import Mathlib.Data.Finmap
import Mathlib.Data.Finset.Sort
import Mathlib.Data.List.Sort
import Mathlib.Algebra.BigOperators.Group.Finset.Basic

/-!
# Finite maps as a program uses them

Mathlib's `Finmap` is the extensional finite map: two of them are equal exactly
when they look up alike (`Finmap.ext_lookup`), and nothing can observe the order in
which the bindings were made. That is the right model of a hash map, whose
iteration order is unspecified. Missing from it are the operations programs use
besides `insert` and `erase`:

* `Finmap.retain` – drop the bindings that fail a test;
* `Finmap.getMut` – change the value at a key, if there is one;
* `Finmap.entryOrDefault` – change the value at a key, starting from a default;
* `Finmap.total` – add a measure up over the values;
* `Finset.Enumeration` – enumerate sets, in an order that nothing is known of;
* `Finset.sortedList` – enumerate in some order, then sort. It is Mathlib's
  `Finset.sort` (`Finset.sortedList_eq_sort`), computed by insertion so that closed
  instances of it evaluate.

Each comes with the lemma that says what `Finmap.lookup` returns afterwards, which
is all a client needs.
-/

namespace Finmap

variable {α β : Type*} [DecidableEq α]

/-! ### Dropping bindings -/

/-- Keep the bindings that pass the test `p`. -/
def retain (p : α → β → Bool) (m : Finmap fun _ : α => β) : Finmap fun _ : α => β :=
  ⟨m.entries.filter fun e => p e.1 e.2,
    Multiset.nodup_keys.1 (Multiset.nodup_of_le
      (Multiset.map_le_map (Multiset.filter_le _ m.entries)) m.nodupKeys.nodup_keys)⟩

@[simp] theorem lookup_retain (p : α → β → Bool) (m : Finmap fun _ : α => β) (a : α) :
    (m.retain p).lookup a = (m.lookup a).filter (p a) := by
  refine Option.ext fun b => ?_
  rw [lookup_eq_some_iff, Option.filter_eq_some_iff, lookup_eq_some_iff]
  exact Multiset.mem_filter

theorem mem_retain {p : α → β → Bool} {m : Finmap fun _ : α => β} {a : α} :
    a ∈ m.retain p ↔ ∃ b, m.lookup a = some b ∧ p a b = true := by
  simp [mem_iff, Option.filter_eq_some_iff]

theorem keys_retain_subset (p : α → β → Bool) (m : Finmap fun _ : α => β) :
    (m.retain p).keys ⊆ m.keys := by
  intro a ha
  obtain ⟨b, hb, -⟩ := mem_retain.mp (mem_keys.mp ha)
  exact mem_keys.mpr (mem_of_lookup_eq_some hb)

/-- Dropping a binding that is not there. -/
theorem erase_of_notMem {a : α} {m : Finmap fun _ : α => β} (h : a ∉ m) : m.erase a = m := by
  refine ext_lookup fun a' => ?_
  by_cases ha : a' = a
  · rw [ha, lookup_erase, lookup_eq_none.mpr h]
  · exact lookup_erase_ne ha

/-! ### Changing one value -/

theorem lookup_insert_eq_ite (a a' : α) (b : β) (m : Finmap fun _ : α => β) :
    (m.insert a b).lookup a' = if a' = a then some b else m.lookup a' := by
  by_cases h : a' = a
  · rw [if_pos h, h, lookup_insert]
  · rw [if_neg h, lookup_insert_of_ne m h]

/-- Change the value at `a`, if there is one. -/
def getMut (a : α) (f : β → β) (m : Finmap fun _ : α => β) : Finmap fun _ : α => β :=
  match m.lookup a with
  | some b => m.insert a (f b)
  | none => m

theorem lookup_getMut_self (a : α) (f : β → β) (m : Finmap fun _ : α => β) :
    (m.getMut a f).lookup a = (m.lookup a).map f := by
  unfold getMut
  cases h : m.lookup a <;> simp [h]

theorem lookup_getMut_ne {a a' : α} (h : a' ≠ a) (f : β → β) (m : Finmap fun _ : α => β) :
    (m.getMut a f).lookup a' = m.lookup a' := by
  unfold getMut
  cases m.lookup a with
  | none => rfl
  | some b => exact lookup_insert_of_ne m h

theorem lookup_getMut (a a' : α) (f : β → β) (m : Finmap fun _ : α => β) :
    (m.getMut a f).lookup a' = if a' = a then (m.lookup a).map f else m.lookup a' := by
  by_cases h : a' = a
  · rw [if_pos h, h, lookup_getMut_self]
  · rw [if_neg h, lookup_getMut_ne h]

@[simp] theorem mem_getMut {a a' : α} {f : β → β} {m : Finmap fun _ : α => β} :
    a' ∈ m.getMut a f ↔ a' ∈ m := by
  rw [← lookup_isSome, ← lookup_isSome, lookup_getMut]
  by_cases h : a' = a
  · rw [if_pos h, Option.isSome_map, h]
  · rw [if_neg h]

variable [Inhabited β]

/-- The value at `a`, or the default one. -/
def getOrDefault (a : α) (m : Finmap fun _ : α => β) : β := (m.lookup a).getD default

/-- Change the value at `a`, putting the default one there first if there is none. -/
def entryOrDefault (a : α) (f : β → β) (m : Finmap fun _ : α => β) : Finmap fun _ : α => β :=
  m.insert a (f (m.getOrDefault a))

theorem lookup_entryOrDefault (a a' : α) (f : β → β) (m : Finmap fun _ : α => β) :
    (m.entryOrDefault a f).lookup a' =
      if a' = a then some (f (m.getOrDefault a)) else m.lookup a' :=
  lookup_insert_eq_ite a a' _ m

@[simp] theorem mem_entryOrDefault {a a' : α} {f : β → β} {m : Finmap fun _ : α => β} :
    a' ∈ m.entryOrDefault a f ↔ a' = a ∨ a' ∈ m :=
  mem_insert

@[simp] theorem getOrDefault_entryOrDefault_self (a : α) (f : β → β)
    (m : Finmap fun _ : α => β) :
    (m.entryOrDefault a f).getOrDefault a = f (m.getOrDefault a) := by
  rw [getOrDefault, lookup_entryOrDefault, if_pos rfl, Option.getD_some]

theorem getOrDefault_entryOrDefault_ne {a a' : α} (h : a' ≠ a) (f : β → β)
    (m : Finmap fun _ : α => β) :
    (m.entryOrDefault a f).getOrDefault a' = m.getOrDefault a' := by
  rw [getOrDefault, lookup_entryOrDefault, if_neg h, getOrDefault]

/-- **Changes that commute as functions commute in a map**, at whatever keys they are
made. -/
theorem entryOrDefault_comm (a b : α) {f g : β → β} (h : ∀ x, g (f x) = f (g x))
    (m : Finmap fun _ : α => β) :
    (m.entryOrDefault a f).entryOrDefault b g = (m.entryOrDefault b g).entryOrDefault a f := by
  refine ext_lookup fun c => ?_
  simp only [lookup_entryOrDefault]
  by_cases hab : b = a
  · subst hab
    rw [getOrDefault_entryOrDefault_self, getOrDefault_entryOrDefault_self, h]
    split <;> rfl
  · rw [getOrDefault_entryOrDefault_ne hab, getOrDefault_entryOrDefault_ne (Ne.symm hab)]
    by_cases hca : c = a
    · rw [if_neg fun hcb => hab (hcb.symm.trans hca), if_pos hca, if_pos hca]
    · rw [if_neg hca, if_neg hca]

theorem getOrDefault_of_notMem {a : α} {m : Finmap fun _ : α => β} (h : a ∉ m) :
    m.getOrDefault a = default := by
  rw [getOrDefault, lookup_eq_none.mpr h, Option.getD_none]

@[simp] theorem getOrDefault_empty (a : α) :
    (∅ : Finmap fun _ : α => β).getOrDefault a = default :=
  getOrDefault_of_notMem notMem_empty

@[simp] theorem getOrDefault_erase_self (a : α) (m : Finmap fun _ : α => β) :
    (m.erase a).getOrDefault a = default :=
  getOrDefault_of_notMem notMem_erase_self

theorem getOrDefault_erase_ne {a a' : α} (h : a' ≠ a) (m : Finmap fun _ : α => β) :
    (m.erase a).getOrDefault a' = m.getOrDefault a' := by
  rw [getOrDefault, lookup_erase_ne h, getOrDefault]

/-! ### Adding a measure up over the values -/

/-- The sum of `f` over the values of a map. -/
def total (f : β → ℕ) (m : Finmap fun _ : α => β) : ℕ :=
  ∑ a ∈ m.keys, f (m.getOrDefault a)

/-- Splitting one key off a total. A key without a value contributes the measure of
the default value, which has to be nothing. -/
theorem total_eq_add_erase {f : β → ℕ} (hf : f default = 0) (a : α)
    (m : Finmap fun _ : α => β) :
    m.total f = f (m.getOrDefault a) + (m.erase a).total f := by
  have herase : (m.erase a).total f = ∑ a' ∈ m.keys.erase a, f (m.getOrDefault a') := by
    rw [total, keys_erase]
    refine Finset.sum_congr rfl fun a' ha' => ?_
    rw [getOrDefault_erase_ne (Finset.ne_of_mem_erase ha')]
  rw [herase]
  -- without a value, the key adds the measure of the default one: nothing
  by_cases ha : a ∈ m
  · exact (Finset.add_sum_erase _ _ (mem_keys.mpr ha)).symm
  · rw [getOrDefault_of_notMem ha, hf, Nat.zero_add,
      Finset.erase_eq_of_notMem fun h => ha (mem_keys.mp h), total]

theorem erase_entryOrDefault (a : α) (f : β → β) (m : Finmap fun _ : α => β) :
    (m.entryOrDefault a f).erase a = m.erase a := by
  refine ext_lookup fun a' => ?_
  by_cases h : a' = a
  · rw [h, lookup_erase, lookup_erase]
  · rw [lookup_erase_ne h, lookup_erase_ne h, lookup_entryOrDefault, if_neg h]

/-- **A change of one value changes a total by as much.** -/
theorem total_entryOrDefault {f : β → ℕ} (hf : f default = 0) (a : α) (g : β → β) {k : ℕ}
    (m : Finmap fun _ : α => β) (hg : f (g (m.getOrDefault a)) = f (m.getOrDefault a) + k) :
    (m.entryOrDefault a g).total f = m.total f + k := by
  rw [total_eq_add_erase hf a (m.entryOrDefault a g), total_eq_add_erase hf a m,
    erase_entryOrDefault, getOrDefault_entryOrDefault_self, hg]
  omega

/-- What putting a value at a key does to a total. -/
theorem total_insert {f : β → ℕ} (hf : f default = 0) (a : α) (b : β)
    (m : Finmap fun _ : α => β) :
    (m.insert a b).total f + f (m.getOrDefault a) = m.total f + f b := by
  have herase : (m.insert a b).erase a = m.erase a := erase_entryOrDefault a (fun _ => b) m
  have hvalue : (m.insert a b).getOrDefault a = b :=
    getOrDefault_entryOrDefault_self a (fun _ => b) m
  rw [total_eq_add_erase hf a (m.insert a b), total_eq_add_erase hf a m, herase, hvalue]
  omega

end Finmap

/-! ### Enumerating and sorting -/

namespace Finset

variable {α : Type*} [LinearOrder α]

/-- The elements of a finite set, enumerated in some order and then sorted. -/
def sortedList (s : Finset α) : List α :=
  Quot.liftOn s.val (fun l => l.insertionSort (· ≤ ·)) fun _ _ h =>
    List.Perm.eq_of_pairwise' (r := (· ≤ ·)) (List.pairwise_insertionSort _ _)
      (List.pairwise_insertionSort _ _)
      (((List.perm_insertionSort _ _).trans h).trans (List.perm_insertionSort _ _).symm)

theorem sortedList_eq_sort (s : Finset α) : s.sortedList = s.sort (· ≤ ·) := by
  obtain ⟨⟨l⟩, h⟩ := s
  exact (List.mergeSort_eq_insertionSort _ l).symm

@[simp] theorem mem_sortedList {s : Finset α} {a : α} : a ∈ s.sortedList ↔ a ∈ s := by
  rw [sortedList_eq_sort, mem_sort]

theorem pairwise_lt_sortedList (s : Finset α) : s.sortedList.Pairwise (· < ·) := by
  rw [sortedList_eq_sort]
  exact (sortedLT_sort s).pairwise

theorem nodup_sortedList (s : Finset α) : s.sortedList.Nodup := by
  rw [sortedList_eq_sort]
  exact sort_nodup s _

theorem sortedList_injective : Function.Injective (sortedList (α := α)) := fun s t h => by
  ext a
  rw [← mem_sortedList, h, mem_sortedList]

end Finset

/-- **A way to enumerate sets**: each of them as a list of its elements, in whatever order. -/
structure Finset.Enumeration (α : Type*) where
  list : Finset α → List α
  coe_list : ∀ s, (list s : Multiset α) = s.val

namespace Finset.Enumeration

variable {α : Type*}

theorem mem_list (order : Enumeration α) {s : Finset α} {a : α} : a ∈ order.list s ↔ a ∈ s := by
  rw [← Multiset.mem_coe, order.coe_list]
  exact Finset.mem_def.symm

/-- In ascending order. -/
def sorted [LinearOrder α] : Enumeration α where
  list s := s.sortedList
  coe_list s := by
    rw [sortedList_eq_sort]
    exact sort_eq s _

end Finset.Enumeration
