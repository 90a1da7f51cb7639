import Mathlib.Data.UInt
import VlanSwitch.Lib.HashMap

/-!
# Ports and their VLAN membership

A port is a handle; its mode says which VLANs it belongs to and whether their frames
cross it with a tag. Of the modes one can write down only some make sense: an
assignable VLAN identifier is one of `1..=4094`, and a trunk has to carry something.
The smart constructors `VlanSwitch.PortMode.mkAccess` and
`VlanSwitch.PortMode.mkTrunk` refuse the others, and
`VlanSwitch.PortMode.built_iff` says exactly which modes they build.
-/

namespace VlanSwitch

/-- A VLAN identifier. -/
abbrev Vlan := UInt16

/-- Identifiers are ordered by their number. -/
instance vlanLinearOrder : LinearOrder Vlan where
  le_refl := UInt16.le_refl
  le_trans _ _ _ := UInt16.le_trans
  lt_iff_le_not_ge a b := by
    rw [UInt16.lt_iff_toNat_lt, UInt16.le_iff_toNat_le, UInt16.le_iff_toNat_le]
    omega
  le_antisymm _ _ := UInt16.le_antisymm
  le_total := UInt16.le_total
  toDecidableLE := inferInstance

/-- A port of a switch: an opaque handle. -/
structure PortId where
  id : UInt32
  deriving DecidableEq, Repr

/-- Ports are ordered by their number. -/
instance : LinearOrder PortId :=
  LinearOrder.lift' (fun port => port.id.toNat) fun p q h => by
    cases p
    cases q
    exact congrArg PortId.mk (UInt32.toNat_inj.mp h)

/-- A VLAN identifier outside `1..=4094`. -/
structure InvalidVlan where
  vlan : Vlan
  deriving DecidableEq, Repr

/-- Why a trunk cannot be built. -/
inductive PortModeError where
  /-- A VLAN identifier outside `1..=4094`. -/
  | invalidVlan (vlan : Vlan)
  /-- Neither a native VLAN nor an allowed one. -/
  | emptyTrunk
  deriving DecidableEq, Repr

/-- What is said of an identifier outside the range. -/
def InvalidVlan.message (e : InvalidVlan) : String :=
  "invalid VLAN id " ++ e.vlan.toNat.repr ++
    ": must be in 1..=4094 (0 is priority-tagged-only, 4095 is reserved)"

/-- What is said of a trunk that cannot be built. -/
def PortModeError.message : PortModeError → String
  | .invalidVlan vlan => InvalidVlan.message ⟨vlan⟩
  | .emptyTrunk => "a trunk needs a native VLAN, at least one allowed VLAN, or both"

/-- The identifiers that may be given to a VLAN: 0 marks a priority tag and 4095 is
reserved. -/
def isAssignable (vlan : Vlan) : Prop := 1 ≤ vlan ∧ vlan ≤ 4094

instance (vlan : Vlan) : Decidable (isAssignable vlan) := inferInstanceAs (Decidable (_ ∧ _))

theorem isAssignable.lt {vlan : Vlan} (h : isAssignable vlan) : vlan < 4096 :=
  lt_of_le_of_lt h.2 (by decide)

/-- How a port participates in VLANs. -/
inductive PortMode where
  /-- Untagged traffic, of one VLAN. -/
  | access (vlan : Vlan)
  /-- Tagged traffic of the allowed VLANs, and untagged traffic of the native one. -/
  | trunk (native : Option Vlan) (allowed : Finset Vlan)
  deriving DecidableEq

namespace PortMode

/-- `PortMode::access`. -/
def mkAccess (vlan : Vlan) : Except InvalidVlan PortMode :=
  if isAssignable vlan then .ok (.access vlan) else .error ⟨vlan⟩

/-- `PortMode::trunk`. Which of several offending identifiers is reported depends on
`order`, the one that the hash set of the allowed VLANs is iterated over in. -/
def mkTrunk (order : Finset.Enumeration Vlan) (native : Option Vlan) (allowed : List Vlan) :
    Except PortModeError PortMode :=
  -- the native VLAN is checked first
  match native.filter fun v => ¬isAssignable v with
  | some v => .error (.invalidVlan v)
  | none =>
    let allowed := allowed.toFinset
    match (order.list allowed).find? fun v => ¬isAssignable v with
    | some v => .error (.invalidVlan v)
    | none =>
      if native.isNone ∧ allowed = ∅ then .error .emptyTrunk else .ok (.trunk native allowed)

/-- Whether a frame of `vlan` may cross the port at all. -/
def carries : PortMode → Vlan → Prop
  | .access v, vlan => v = vlan
  | .trunk native allowed, vlan => vlan ∈ allowed ∨ native = some vlan

instance : (mode : PortMode) → (vlan : Vlan) → Decidable (mode.carries vlan)
  | .access _, _ => inferInstanceAs (Decidable (_ = _))
  | .trunk _ _, _ => inferInstanceAs (Decidable (_ ∨ _))

/-- Whether frames of `vlan` leave the port without a tag: it is an access port, or a
trunk whose native VLAN is `vlan`. -/
def untags : PortMode → Vlan → Prop
  | .access _, _ => True
  | .trunk native _, vlan => native = some vlan

instance : (mode : PortMode) → (vlan : Vlan) → Decidable (mode.untags vlan)
  | .access _, _ => inferInstanceAs (Decidable True)
  | .trunk _ _, _ => inferInstanceAs (Decidable (_ = _))

/-! ### The modes that can be built -/

theorem mkAccess_eq_ok {vlan : Vlan} {mode : PortMode} :
    mkAccess vlan = .ok mode ↔ isAssignable vlan ∧ mode = .access vlan := by
  rw [mkAccess]
  split
  · next h => exact ⟨fun hm => ⟨h, (Except.ok.inj hm).symm⟩, fun hm => congrArg _ hm.2.symm⟩
  · next h => exact ⟨fun hm => (by cases hm), fun hm => absurd hm.1 h⟩

/-- **When a trunk is built**: every VLAN mentioned is assignable, and there is one. -/
theorem mkTrunk_eq_ok {order : Finset.Enumeration Vlan} {native : Option Vlan}
    {allowed : List Vlan} {mode : PortMode} :
    mkTrunk order native allowed = .ok mode ↔ (∀ v, native = some v → isAssignable v) ∧
      (∀ v ∈ allowed, isAssignable v) ∧ (native ≠ none ∨ allowed ≠ []) ∧
        mode = .trunk native allowed.toFinset := by
  rw [mkTrunk]
  split
  · next v hnative =>
    -- the native VLAN is not assignable
    have hv := Option.filter_eq_some_iff.mp hnative
    exact ⟨fun h => (by cases h), fun h => absurd (h.1 v hv.1) (by simpa using hv.2)⟩
  · next hnative =>
    have hassignable : ∀ v, native = some v → isAssignable v := by
      rintro v rfl
      simpa using hnative
    dsimp only
    split
    · next v hallowed =>
      -- one of the allowed ones is not
      have hv := List.find?_some hallowed
      have hmem := order.mem_list.mp (List.mem_of_find?_eq_some hallowed)
      have hmem' : v ∈ allowed := List.mem_toFinset.mp hmem
      exact ⟨fun h => (by cases h), fun h => absurd (h.2.1 v hmem') (by simpa using hv)⟩
    · next hallowed =>
      have hall : ∀ v ∈ allowed, isAssignable v := fun v hv => by
        have hmem := order.mem_list.mpr (List.mem_toFinset.mpr hv)
        simpa using List.find?_eq_none.mp hallowed v hmem
      split
      · next hempty =>
        have hnone : native = none := Option.isNone_iff_eq_none.mp hempty.1
        have hnil : allowed = [] := (List.toFinset_eq_empty_iff allowed).mp hempty.2
        refine ⟨fun h => (by cases h), fun h => ?_⟩
        exact absurd h.2.2.1 (not_or.mpr ⟨not_not.mpr hnone, not_not.mpr hnil⟩)
      · next hne =>
        refine ⟨fun h => ⟨hassignable, hall, ?_, (Except.ok.inj h).symm⟩, fun h => ?_⟩
        · by_contra hnot
          obtain ⟨hnone, hnil⟩ := not_or.mp hnot
          refine hne ⟨Option.isNone_iff_eq_none.mpr (not_not.mp hnone), ?_⟩
          exact (List.toFinset_eq_empty_iff allowed).mpr (not_not.mp hnil)
        · rw [h.2.2.2]

/-- A mode one of the two smart constructors returned. -/
def Built (mode : PortMode) : Prop :=
  (∃ vlan, mkAccess vlan = .ok mode) ∨
    ∃ order native allowed, mkTrunk order native allowed = .ok mode

/-- **The modes the smart constructors build**: every VLAN they mention is assignable,
and they mention one. -/
theorem built_iff {mode : PortMode} :
    mode.Built ↔ (∀ vlan, mode.carries vlan → isAssignable vlan) ∧ ∃ vlan, mode.carries vlan := by
  constructor
  · rintro (⟨vlan, h⟩ | ⟨order, native, allowed, h⟩)
    · obtain ⟨hvlan, rfl⟩ := mkAccess_eq_ok.mp h
      exact ⟨fun v hv => (show vlan = v from hv) ▸ hvlan, vlan, rfl⟩
    · obtain ⟨hnative, hallowed, hne, rfl⟩ := mkTrunk_eq_ok.mp h
      refine ⟨?_, ?_⟩
      · rintro v (hv | hv)
        · exact hallowed v (List.mem_toFinset.mp hv)
        · exact hnative v hv
      · rcases hne with hne | hne
        · obtain ⟨v, rfl⟩ := Option.ne_none_iff_exists'.mp hne
          exact ⟨v, Or.inr rfl⟩
        · obtain ⟨v, hv⟩ := List.exists_mem_of_ne_nil allowed hne
          exact ⟨v, Or.inl (List.mem_toFinset.mpr hv)⟩
  · rintro ⟨hall, v, hv⟩
    cases mode with
    | access vlan => exact Or.inl ⟨vlan, mkAccess_eq_ok.mpr ⟨hall vlan rfl, rfl⟩⟩
    | trunk native allowed =>
      refine Or.inr ⟨.sorted, native, allowed.toList, mkTrunk_eq_ok.mpr ⟨?_, ?_, ?_, ?_⟩⟩
      · exact fun w hw => hall w (Or.inr hw)
      · exact fun w hw => hall w (Or.inl (Finset.mem_toList.mp hw))
      · rcases hv with hv | hv
        · exact Or.inr (List.ne_nil_of_mem (Finset.mem_toList.mpr hv))
        · exact Or.inl (hv ▸ Option.some_ne_none v)
      · rw [Finset.toList_toFinset]

/-- A built mode carries assignable VLANs only. -/
theorem Built.isAssignable {mode : PortMode} (h : mode.Built) {vlan : Vlan}
    (hv : mode.carries vlan) : isAssignable vlan :=
  (built_iff.mp h).1 vlan hv

end PortMode

end VlanSwitch
