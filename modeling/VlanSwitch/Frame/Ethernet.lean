import Mathlib.Data.Vector.Basic
import VlanSwitch.Lib.BigEndian
import VlanSwitch.Frame.Dot1q

/-!
# Ethernet frames on the wire

`VlanSwitch.EthernetFrame.parse` reads an Ethernet II frame with at most one 802.1Q
tag, `VlanSwitch.EthernetFrame.writeInto` appends one to a buffer. The tagged and the
untagged layout share one byte stream and are told apart by the two bytes after the
addresses, so the writer refuses the one frame the reader would take for a tagged
one: untagged, with the TPID as its EtherType. On the others
(`VlanSwitch.EthernetFrame.Encodable`) the bytes appended are
`VlanSwitch.EthernetFrame.wireBytes`, and reading them back gives the frame with its
tag masked to the wire (`VlanSwitch.EthernetFrame.parse_wireBytes`).

Slices and indices of the source that would panic out of bounds are written with
their bounds as proof obligations, so that the reader never leaves its input by
construction.
-/

namespace VlanSwitch

/-- A MAC address: six octets. -/
abbrev Mac := List.Vector UInt8 6

/-- Why a byte string is not a frame. -/
inductive ParseError where
  /-- Fewer than 14 bytes: not enough for the addresses and the EtherType. -/
  | tooShort (len : ℕ)
  /-- The TPID was there, but fewer than 18 bytes. -/
  | truncatedTag (len : ℕ)
  deriving DecidableEq, Repr

/-- Why a frame cannot be written. -/
inductive WriteError where
  /-- An untagged frame with the TPID as its EtherType would be read as a tagged one. -/
  | ambiguousUntaggedEtherType
  deriving DecidableEq, Repr

/-- The EtherType that announces an 802.1Q tag. -/
def tpid8021q : UInt16 := 0x8100

/-- The length of a header without a tag: two addresses and the EtherType. -/
abbrev untaggedHeaderLen : ℕ := 14

/-- The length of a header with a tag: two addresses, TPID, TCI and the EtherType. -/
abbrev taggedHeaderLen : ℕ := 18

/-- A parsed Ethernet II frame, with at most one 802.1Q tag. -/
structure EthernetFrame where
  dst : Mac
  src : Mac
  tag : Option Dot1qTag
  ethertype : UInt16
  payload : List UInt8
  deriving DecidableEq

namespace EthernetFrame

/-- The six octets of `bytes` from `i` on. -/
def macAt (bytes : List UInt8) (i : ℕ) (h : i + 6 ≤ bytes.length) : Mac :=
  ⟨(bytes.drop i).take 6, by rw [List.length_take, List.length_drop]; omega⟩

/-- The number of bytes a frame takes on the wire. -/
def wireLen (frame : EthernetFrame) : ℕ :=
  (if frame.tag.isSome then taggedHeaderLen else untaggedHeaderLen) + frame.payload.length

/-- Reads a frame off a byte string. -/
def parse (bytes : List UInt8) : Except ParseError EthernetFrame :=
  if h : bytes.length < untaggedHeaderLen then .error (.tooShort bytes.length)
  else
    have hlen : 14 ≤ bytes.length := Nat.le_of_not_lt h
    let dst := macAt bytes 0 (by omega)
    let src := macAt bytes 6 (by omega)
    -- either the EtherType, or the TPID of a tag
    let next := UInt16.ofBeBytes bytes[12] bytes[13]
    if next = tpid8021q then
      if h' : bytes.length < taggedHeaderLen then .error (.truncatedTag bytes.length)
      else
        have hlen' : 18 ≤ bytes.length := Nat.le_of_not_lt h'
        let tci := UInt16.ofBeBytes bytes[14] bytes[15]
        let ethertype := UInt16.ofBeBytes bytes[16] bytes[17]
        .ok { dst, src, tag := some (Dot1qTag.fromTci tci), ethertype,
              payload := bytes.drop taggedHeaderLen }
    else
      .ok { dst, src, tag := none, ethertype := next, payload := bytes.drop untaggedHeaderLen }

/-- Appends a frame to the buffer `out`: the result, and the buffer afterwards. -/
def writeInto (frame : EthernetFrame) (out : List UInt8) : Except WriteError Unit × List UInt8 :=
  -- nothing is written before this test, so a failure leaves the buffer as it was
  if frame.tag.isNone ∧ frame.ethertype = tpid8021q then
    (.error .ambiguousUntaggedEtherType, out)
  else
    let out := out ++ frame.dst.toList
    let out := out ++ frame.src.toList
    let out := match frame.tag with
      | some tag => out ++ tpid8021q.toBeBytes ++ tag.toTci.toBeBytes
      | none => out
    let out := out ++ frame.ethertype.toBeBytes
    (.ok (), out ++ frame.payload)

/-! ### What is written -/

/-- A frame the writer accepts: tagged, or not announcing a tag by its EtherType. -/
def Encodable (frame : EthernetFrame) : Prop := frame.tag = none → frame.ethertype ≠ tpid8021q

instance (frame : EthernetFrame) : Decidable frame.Encodable :=
  inferInstanceAs (Decidable (_ → _))

/-- The bytes a tag takes between the addresses and the EtherType. -/
def tagBytes : Option Dot1qTag → List UInt8
  | some tag => tpid8021q.toBeBytes ++ tag.toTci.toBeBytes
  | none => []

/-- The bytes of a frame on the wire. -/
def wireBytes (frame : EthernetFrame) : List UInt8 :=
  frame.dst.toList ++ (frame.src.toList ++ (tagBytes frame.tag ++
    (frame.ethertype.toBeBytes ++ frame.payload)))

/-- A frame as the wire carries it, its tag masked. -/
def masked (frame : EthernetFrame) : EthernetFrame :=
  { frame with tag := frame.tag.map Dot1qTag.masked }

theorem writeInto_of_encodable {frame : EthernetFrame} (h : frame.Encodable) (out : List UInt8) :
    frame.writeInto out = (.ok (), out ++ frame.wireBytes) := by
  have hno : ¬(frame.tag.isNone ∧ frame.ethertype = tpid8021q) := fun hc =>
    h (Option.isNone_iff_eq_none.mp hc.1) hc.2
  rw [writeInto, if_neg hno, wireBytes]
  cases frame.tag <;> simp [tagBytes]

theorem writeInto_of_not_encodable {frame : EthernetFrame} (h : ¬frame.Encodable)
    (out : List UInt8) : frame.writeInto out = (.error .ambiguousUntaggedEtherType, out) := by
  have hboth : frame.tag = none ∧ frame.ethertype = tpid8021q := by simpa [Encodable] using h
  rw [writeInto, if_pos ⟨Option.isNone_iff_eq_none.mpr hboth.1, hboth.2⟩]

@[simp] theorem length_toBeBytes (x : UInt16) : x.toBeBytes.length = 2 :=
  BigEndian.length_encode 2 _

theorem length_wireBytes (frame : EthernetFrame) : frame.wireBytes.length = frame.wireLen := by
  unfold wireBytes wireLen
  cases frame.tag <;> simp [tagBytes, untaggedHeaderLen, taggedHeaderLen] <;> omega

/-! ### What is read back -/

@[simp] theorem macAt_zero (mac : Mac) (rest : List UInt8) (h) :
    macAt (mac.toList ++ rest) 0 h = mac := by
  refine Subtype.ext ?_
  change ((mac.toList ++ rest).drop 0).take 6 = mac.toList
  rw [List.drop_zero, List.take_left' mac.toList_length]

@[simp] theorem macAt_six (mac mac' : Mac) (rest : List UInt8) (h) :
    macAt (mac.toList ++ (mac'.toList ++ rest)) 6 h = mac' := by
  refine Subtype.ext ?_
  change ((mac.toList ++ (mac'.toList ++ rest)).drop 6).take 6 = mac'.toList
  rw [List.drop_left' mac.toList_length, List.take_left' mac'.toList_length]

/-- What follows the two addresses. -/
theorem drop_addresses (dst src : Mac) (rest : List UInt8) (n : ℕ) :
    (dst.toList ++ (src.toList ++ rest)).drop (n + 12) = rest.drop n := by
  rw [show n + 12 = 6 + (6 + n) by omega, ← List.drop_drop, List.drop_left' dst.toList_length,
    ← List.drop_drop, List.drop_left' src.toList_length]

/-- **Reading an untagged frame**, whose EtherType does not announce a tag. -/
theorem parse_untagged (dst src : Mac) {a b : UInt8} (payload : List UInt8)
    (h : UInt16.ofBeBytes a b ≠ tpid8021q) :
    parse (dst.toList ++ (src.toList ++ a :: b :: payload)) =
      .ok { dst, src, tag := none, ethertype := UInt16.ofBeBytes a b, payload } := by
  have hlen : ¬6 + (6 + (payload.length + 1 + 1)) < untaggedHeaderLen := by
    simp only [untaggedHeaderLen]
    omega
  have hdrop := drop_addresses dst src (a :: b :: payload) 2
  simpa [parse, h, hlen] using hdrop

/-- **Reading a tagged frame.** -/
theorem parse_tagged (dst src : Mac) {a b c d e f : UInt8} (payload : List UInt8)
    (h : UInt16.ofBeBytes a b = tpid8021q) :
    parse (dst.toList ++ (src.toList ++ a :: b :: c :: d :: e :: f :: payload)) =
      .ok { dst, src, tag := some (Dot1qTag.fromTci (UInt16.ofBeBytes c d)),
            ethertype := UInt16.ofBeBytes e f, payload } := by
  have hlen : ¬6 + (6 + (payload.length + 1 + 1 + 1 + 1 + 1 + 1)) < untaggedHeaderLen := by
    simp only [untaggedHeaderLen]
    omega
  have hlen' : ¬6 + (6 + (payload.length + 1 + 1 + 1 + 1 + 1 + 1)) < taggedHeaderLen := by
    simp only [taggedHeaderLen]
    omega
  have hdrop := drop_addresses dst src (a :: b :: c :: d :: e :: f :: payload) 6
  simpa [parse, h, hlen, hlen'] using hdrop

/-- **Reading back a written frame** gives the frame as the wire carries it. -/
theorem parse_wireBytes {frame : EthernetFrame} (h : frame.Encodable) :
    parse frame.wireBytes = .ok frame.masked := by
  obtain ⟨dst, src, tag, ethertype, payload⟩ := frame
  obtain ⟨e, f, hef, hef'⟩ := ethertype.exists_toBeBytes
  cases tag with
  | none =>
    -- the EtherType is not the TPID, so the reader does not look for a tag
    rw [wireBytes, masked, tagBytes, hef]
    refine (parse_untagged dst src payload ?_).trans (by rw [hef']; rfl)
    rw [hef']
    exact h rfl
  | some tag =>
    obtain ⟨a, b, hab, hab'⟩ := tpid8021q.exists_toBeBytes
    obtain ⟨c, d, hcd, hcd'⟩ := tag.toTci.exists_toBeBytes
    rw [wireBytes, masked, tagBytes, hef, hab, hcd]
    refine (parse_tagged dst src payload hab').trans ?_
    rw [hcd', hef', Dot1qTag.fromTci_toTci]
    rfl

end EthernetFrame

end VlanSwitch
