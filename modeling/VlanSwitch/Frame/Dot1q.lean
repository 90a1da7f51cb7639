import Mathlib.Data.UInt
import Mathlib.Tactic.IntervalCases

/-!
# The 802.1Q tag

A tag is present when the TPID says so; what it carries is the 16-bit TCI, three
bits of priority, one bit of drop eligibility and twelve bits of VLAN identifier.
`VlanSwitch.Dot1qTag` keeps the three in fields wider than the wire, so writing one
masks it: reading back what was written gives `VlanSwitch.Dot1qTag.masked`, while
writing back what was read is exact for all 65536 values
(`VlanSwitch.Dot1qTag.toTci_fromTci`).
-/

namespace VlanSwitch

/-- An 802.1Q tag: the TCI fields, the TPID being implied. -/
structure Dot1qTag where
  /-- Priority code point, 3 bits on the wire. -/
  pcp : UInt8
  /-- Drop eligible indicator. -/
  dei : Bool
  /-- VLAN identifier, 12 bits on the wire. -/
  vid : UInt16
  deriving DecidableEq, Repr

namespace Dot1qTag

/-- The tag a TCI spells. -/
def fromTci (tci : UInt16) : Dot1qTag where
  pcp := ((tci >>> 13) &&& 0b111).toUInt8
  dei := tci &&& 0x1000 != 0
  vid := tci &&& 0x0FFF

/-- The TCI of a tag. Out-of-range fields are masked here rather than rejected. -/
def toTci (tag : Dot1qTag) : UInt16 :=
  ((tag.pcp &&& 0b111).toUInt16 <<< 13) ||| (tag.dei.toUInt16 <<< 12) ||| (tag.vid &&& 0x0FFF)

/-- What is left of a tag on the wire: three bits of priority and twelve of VLAN. -/
def masked (tag : Dot1qTag) : Dot1qTag where
  pcp := tag.pcp &&& 0b111
  dei := tag.dei
  vid := tag.vid &&& 0x0FFF

/-- The test for the drop bit reads bit 12. -/
theorem and_dei_ne_zero (x : UInt16) : (x &&& 0x1000 != 0) = x.toBitVec.getLsbD 12 := by
  have hzero : x &&& 0x1000 = 0 ↔ x.toBitVec.getLsbD 12 = false := by
    rw [← UInt16.toBitVec_inj]
    constructor
    · intro h
      have hbit := congrArg (fun b => b.getLsbD 12) h
      simpa using hbit
    · intro h
      refine BitVec.eq_of_getLsbD_eq fun i hi => ?_
      simp only [BitVec.getLsbD_eq_getElem, Nat.reduceLT] at h
      interval_cases i <;> simp [h]
  cases hb : x.toBitVec.getLsbD 12 with
  | false => rw [hzero.mpr hb]; rfl
  | true => simp [mt hzero.mp (by simp [hb])]

/-- **Reading back a written tag** gives the part of it that fits the wire. -/
theorem fromTci_toTci (tag : Dot1qTag) : fromTci tag.toTci = tag.masked := by
  obtain ⟨pcp, dei, vid⟩ := tag
  rw [fromTci, masked, mk.injEq]
  refine ⟨UInt8.toBitVec_inj.mp (BitVec.eq_of_getLsbD_eq fun i hi => ?_), ?_,
    UInt16.toBitVec_inj.mp (BitVec.eq_of_getLsbD_eq fun i hi => ?_)⟩
  -- each field is read back bit by bit: the masks make the three disjoint
  · cases dei <;> interval_cases i <;> simp [toTci]
  · rw [and_dei_ne_zero]
    cases dei <;> simp [toTci]
  · cases dei <;> interval_cases i <;> simp [toTci]

/-- **Writing back a read tag** is exact. -/
theorem toTci_fromTci (tci : UInt16) : (fromTci tci).toTci = tci := by
  refine UInt16.toBitVec_inj.mp (BitVec.eq_of_getLsbD_eq fun i hi => ?_)
  interval_cases i <;> simp [fromTci, toTci, and_dei_ne_zero, -UInt16.toUInt16_toUInt8]

/-- Twelve bits hold every VLAN identifier below 4096. -/
theorem vid_and_of_lt {vid : UInt16} (h : vid < 4096) : vid &&& 0x0FFF = vid := by
  refine UInt16.toNat_inj.mp ?_
  have hlt : vid.toNat < 2 ^ 12 := UInt16.lt_iff_toNat_lt.mp h
  rw [UInt16.toNat_and]
  exact (Nat.and_two_pow_sub_one_eq_mod vid.toNat 12).trans (Nat.mod_eq_of_lt hlt)

/-- Masking the priority twice is masking it once. -/
theorem pcp_and_and (pcp : UInt8) : pcp &&& 0b111 &&& 0b111 = pcp &&& 0b111 := by
  rw [UInt8.and_assoc, UInt8.and_self]

end Dot1qTag

end VlanSwitch
