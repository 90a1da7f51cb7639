import Mathlib.Order.Monotone.Basic
import VlanSwitch.Lib.HashMap
import VlanSwitch.Lib.History

/-!
# The same under other names

Two finite maps may hold the same under different keys (`Finmap.Renamed`): one is read off
the other through a function that is injective on the keys there ever are. Changing both
at corresponding keys in the same way keeps that (`Finmap.Renamed.set`), and with it do
inserting, erasing and the two ways of changing one value. If the renaming is strictly
monotone, then enumerating the keys in order gives corresponding lists, too
(`Finset.sortedList_image`).

For machines, `Machine.history_filterMap` is the rule that goes with it: if one machine
does under renamed inputs what another does, and nothing at all for the inputs that have
no counterpart, then its effects are those of the other, renamed.
-/

namespace Finmap

variable {α γ β : Type*} [DecidableEq α] [DecidableEq γ] {f : α → γ} {D : Set α}

/-- **The same map under other keys**: those of the one are in `D`, and those of the other
are their images. -/
structure Renamed (f : α → γ) (D : Set α) (m : Finmap fun _ : α => β)
    (m' : Finmap fun _ : γ => β) : Prop where
  lookup : ∀ a ∈ D, m'.lookup (f a) = m.lookup a
  mem : ∀ a ∈ m, a ∈ D
  exists_of_mem : ∀ c ∈ m', ∃ a ∈ D, f a = c

namespace Renamed

variable {m n : Finmap fun _ : α => β} {m' n' : Finmap fun _ : γ => β}

theorem empty : Renamed f D (∅ : Finmap fun _ : α => β) ∅ :=
  ⟨fun _ _ => rfl, fun _ h => absurd h notMem_empty, fun _ h => absurd h notMem_empty⟩

theorem mem_iff (h : Renamed f D m m') {a : α} (ha : a ∈ D) : f a ∈ m' ↔ a ∈ m := by
  rw [← lookup_isSome, ← lookup_isSome, h.lookup a ha]

/-- The keys correspond. -/
theorem keys_eq (h : Renamed f D m m') : m'.keys = m.keys.image f := by
  ext c
  rw [mem_keys, Finset.mem_image]
  constructor
  · intro hc
    obtain ⟨a, ha, rfl⟩ := h.exists_of_mem c hc
    exact ⟨a, mem_keys.mpr ((h.mem_iff ha).mp hc), rfl⟩
  · rintro ⟨a, ha, rfl⟩
    have hmem : a ∈ m := mem_keys.mp ha
    exact (h.mem_iff (h.mem a hmem)).mpr hmem

/-- **Changing both maps at corresponding keys** in the same way. -/
theorem set (h : Renamed f D m m') (hf : Set.InjOn f D) {a : α} (ha : a ∈ D) {x : Option β}
    (hn : ∀ b, n.lookup b = if b = a then x else m.lookup b)
    (hn' : ∀ c, n'.lookup c = if c = f a then x else m'.lookup c) : Renamed f D n n' := by
  refine ⟨fun b hb => ?_, fun b hb => ?_, fun c hc => ?_⟩
  · rw [hn, hn', h.lookup b hb]
    exact if_congr (hf.eq_iff hb ha) rfl rfl
  · by_cases hba : b = a
    · exact hba ▸ ha
    · rw [← lookup_isSome, hn, if_neg hba, lookup_isSome] at hb
      exact h.mem b hb
  · by_cases hca : c = f a
    · exact ⟨a, ha, hca.symm⟩
    · rw [← lookup_isSome, hn', if_neg hca, lookup_isSome] at hc
      exact h.exists_of_mem c hc

theorem insert (h : Renamed f D m m') (hf : Set.InjOn f D) {a : α} (ha : a ∈ D) (b : β) :
    Renamed f D (m.insert a b) (m'.insert (f a) b) :=
  h.set hf ha (fun _ => lookup_insert_eq_ite _ _ _ _) fun _ => lookup_insert_eq_ite _ _ _ _

theorem erase (h : Renamed f D m m') (hf : Set.InjOn f D) {a : α} (ha : a ∈ D) :
    Renamed f D (m.erase a) (m'.erase (f a)) := by
  refine h.set (x := none) hf ha (fun b => ?_) fun c => ?_
  · split
    · next hb => rw [hb, lookup_erase]
    · next hb => exact lookup_erase_ne hb
  · split
    · next hc => rw [hc, lookup_erase]
    · next hc => exact lookup_erase_ne hc

theorem getMut (h : Renamed f D m m') (hf : Set.InjOn f D) {a : α} (ha : a ∈ D) (g : β → β) :
    Renamed f D (m.getMut a g) (m'.getMut (f a) g) := by
  refine h.set hf ha (fun _ => lookup_getMut _ _ _ _) fun c => ?_
  rw [lookup_getMut, h.lookup a ha]

theorem getOrDefault [Inhabited β] (h : Renamed f D m m') {a : α} (ha : a ∈ D) :
    m'.getOrDefault (f a) = m.getOrDefault a := by
  rw [Finmap.getOrDefault, Finmap.getOrDefault, h.lookup a ha]

theorem entryOrDefault [Inhabited β] (h : Renamed f D m m') (hf : Set.InjOn f D) {a : α}
    (ha : a ∈ D) (g : β → β) :
    Renamed f D (m.entryOrDefault a g) (m'.entryOrDefault (f a) g) := by
  refine h.set hf ha (fun _ => lookup_entryOrDefault _ _ _ _) fun c => ?_
  rw [lookup_entryOrDefault, h.getOrDefault ha]

end Renamed

end Finmap

namespace Finset

section Image

variable {α γ : Type*} [DecidableEq α] [DecidableEq γ] {f : α → γ} {D : Set α} {s : Finset α}
  {a : α}

omit [DecidableEq α] in
theorem mem_image_of_injOn (hf : Set.InjOn f D) (hs : ∀ b ∈ s, b ∈ D) (ha : a ∈ D) :
    f a ∈ s.image f ↔ a ∈ s := by
  refine ⟨fun h => ?_, mem_image_of_mem f⟩
  obtain ⟨b, hb, heq⟩ := mem_image.mp h
  exact hf (hs b hb) ha heq ▸ hb

/-- Taking out corresponding items. -/
theorem image_erase_of_injOn (hf : Set.InjOn f D) (hs : ∀ b ∈ s, b ∈ D) (ha : a ∈ D) :
    (s.erase a).image f = (s.image f).erase (f a) := by
  ext c
  rw [mem_erase, mem_image, mem_image]
  constructor
  · rintro ⟨b, hb, rfl⟩
    obtain ⟨hne, hb⟩ := mem_erase.mp hb
    exact ⟨fun heq => hne (hf (hs b hb) ha heq), b, hb, rfl⟩
  · rintro ⟨hne, b, hb, rfl⟩
    exact ⟨b, mem_erase.mpr ⟨fun heq => hne (congrArg f heq), hb⟩, rfl⟩

end Image

/-- **Enumerating in order** goes along with a renaming that keeps the order. -/
theorem sortedList_image {α γ : Type*} [LinearOrder α] [LinearOrder γ] [DecidableEq γ]
    {f : α → γ} {s : Finset α} (hf : StrictMonoOn f s) :
    (s.image f).sortedList = s.sortedList.map f := by
  have hsorted : (s.sortedList.map f).Pairwise (· < ·) := by
    rw [List.pairwise_map]
    refine s.pairwise_lt_sortedList.imp_of_mem fun ha hb hlt => ?_
    exact hf (mem_sortedList.mp ha) (mem_sortedList.mp hb) hlt
  have hperm : (s.image f).sortedList.Perm (s.sortedList.map f) := by
    refine (List.perm_ext_iff_of_nodup (nodup_sortedList _) (hsorted.imp ne_of_lt)).mpr fun c => ?_
    rw [mem_sortedList, mem_image, List.mem_map]
    exact exists_congr fun a => and_congr_left' mem_sortedList.symm
  exact List.Perm.eq_of_pairwise' (pairwise_lt_sortedList _) hsorted hperm

end Finset

namespace Machine

variable {σ τ ι κ ε δ : Type*} {M : Machine σ ι (List ε)} {N : Machine τ κ (List δ)}

/-- **The renaming rule**: if every input of a machine either has no effect at all or does
what its counterpart does to another machine, then so does every run. -/
theorem history_filterMap {R : σ → τ → Prop} {P : κ → Prop} {g : κ → Option ι} {f : ε → δ}
    (hskip : ∀ s t k, R s t → P k → g k = none → N.out t k = [] ∧ R s (N.next t k))
    (hstep : ∀ s t k i, R s t → P k → g k = some i →
      N.out t k = (M.out s i).map f ∧ R (M.next s i) (N.next t k))
    {s : σ} {t : τ} (hst : R s t) {ks : List κ} (hks : ∀ k ∈ ks, P k) :
    N.history t ks = (M.history s (ks.filterMap g)).map f ∧
      R (M.run s (ks.filterMap g)) (N.run t ks) := by
  induction ks generalizing s t with
  | nil => exact ⟨rfl, hst⟩
  | cons k ks ih =>
    rw [List.forall_mem_cons] at hks
    rcases hk : g k with _ | i
    · obtain ⟨hout, hnext⟩ := hskip s t k hst hks.1 hk
      rw [List.filterMap_cons_none hk, history_cons, hout, run_cons]
      exact ih hnext hks.2
    · obtain ⟨hout, hnext⟩ := hstep s t k i hst hks.1 hk
      obtain ⟨hhistory, hrun⟩ := ih hnext hks.2
      rw [List.filterMap_cons_some hk, history_cons, history_cons, hout, hhistory, List.map_append]
      exact ⟨rfl, hrun⟩

end Machine
