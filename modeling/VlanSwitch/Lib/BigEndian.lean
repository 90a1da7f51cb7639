import Mathlib.Data.List.Basic
import Mathlib.Data.Nat.ModEq
import Mathlib.Tactic.Ring

/-!
# Big-endian byte strings

The fixed-width big-endian encoding of a natural number, and its inverse. The
encoding truncates (`BigEndian.decode_encode`), the decoding of `n` bytes is below
`256 ^ n` (`BigEndian.decode_lt`), and every byte string is the encoding of what it
decodes to (`BigEndian.encode_decode`); on machine integers of the right width both
round trips are exact.
-/

namespace BigEndian

/-- The `n` low-order bytes of `x`, most significant first. -/
def encode : ℕ → ℕ → List UInt8
  | 0, _ => []
  | n + 1, x => UInt8.ofNat (x / 256 ^ n) :: encode n x

/-- The number a byte string spells, most significant byte first. -/
def decode : List UInt8 → ℕ
  | [] => 0
  | b :: l => b.toNat * 256 ^ l.length + decode l

@[simp] theorem length_encode (n x : ℕ) : (encode n x).length = n := by
  induction n with
  | zero => rfl
  | succ n ih => rw [encode, List.length_cons, ih]

/-- **Decoding after encoding** keeps the bytes that were kept. -/
theorem decode_encode (n x : ℕ) : decode (encode n x) = x % 256 ^ n := by
  induction n with
  | zero => simp [encode, decode, Nat.mod_one]
  | succ n ih =>
    have hsplit : x % 256 ^ (n + 1) = x % 256 ^ n + 256 ^ n * (x / 256 ^ n % 256) :=
      Nat.mod_pow_succ
    rw [encode, decode, ih, length_encode, UInt8.toNat_ofNat', hsplit, Nat.add_comm, Nat.mul_comm]

theorem decode_lt (l : List UInt8) : decode l < 256 ^ l.length := by
  induction l with
  | nil => simp [decode]
  | cons b l ih =>
    have hb : b.toNat + 1 ≤ 256 := UInt8.toNat_lt b
    calc b.toNat * 256 ^ l.length + decode l
        < b.toNat * 256 ^ l.length + 256 ^ l.length := Nat.add_lt_add_left ih _
      _ = (b.toNat + 1) * 256 ^ l.length := by ring
      _ ≤ 256 * 256 ^ l.length := Nat.mul_le_mul_right _ hb
      _ = 256 ^ (b :: l).length := by rw [List.length_cons, pow_succ]; ring

/-- What is above the bytes kept does not matter to an encoding. -/
theorem encode_mul_add (n a x : ℕ) : encode n (a * 256 ^ n + x) = encode n x := by
  induction n generalizing a with
  | zero => rfl
  | succ n ih =>
    have hpow : a * 256 ^ (n + 1) + x = (a * 256) * 256 ^ n + x := by rw [pow_succ]; ring
    have hdiv : ((a * 256) * 256 ^ n + x) / 256 ^ n = a * 256 + x / 256 ^ n := by
      rw [Nat.add_comm, Nat.add_mul_div_right _ _ (Nat.pow_pos (by decide)), Nat.add_comm]
    rw [encode, encode, hpow, ih, hdiv]
    refine congrArg (· :: encode n x) (UInt8.toNat_inj.mp ?_)
    rw [UInt8.toNat_ofNat', UInt8.toNat_ofNat']
    omega

/-- **Encoding after decoding** is the identity at the right width. -/
theorem encode_decode (l : List UInt8) : encode l.length (decode l) = l := by
  induction l with
  | nil => rfl
  | cons b l ih =>
    have hdiv : (b.toNat * 256 ^ l.length + decode l) / 256 ^ l.length = b.toNat := by
      rw [Nat.add_comm, Nat.add_mul_div_right _ _ (Nat.pow_pos (by decide)),
        Nat.div_eq_of_lt (decode_lt l), Nat.zero_add]
    rw [decode, List.length_cons, encode, hdiv, encode_mul_add, ih, UInt8.ofNat_toNat]

end BigEndian

/-! ### Machine integers -/

namespace UInt16

/-- The two bytes of a 16-bit integer, most significant first. -/
def toBeBytes (x : UInt16) : List UInt8 := BigEndian.encode 2 x.toNat

/-- The 16-bit integer two bytes spell, most significant first. -/
def ofBeBytes (a b : UInt8) : UInt16 := UInt16.ofNat (BigEndian.decode [a, b])

theorem toBeBytes_ofBeBytes (a b : UInt8) : (ofBeBytes a b).toBeBytes = [a, b] := by
  have hlt : BigEndian.decode [a, b] < UInt16.size :=
    lt_of_lt_of_eq (BigEndian.decode_lt [a, b]) (by norm_num [UInt16.size])
  have hnat : (ofBeBytes a b).toNat = BigEndian.decode [a, b] := UInt16.toNat_ofNat_of_lt' hlt
  rw [toBeBytes, hnat]
  exact BigEndian.encode_decode [a, b]

/-- Reading back the two bytes of a 16-bit integer. -/
theorem exists_toBeBytes (x : UInt16) : ∃ a b, x.toBeBytes = [a, b] ∧ ofBeBytes a b = x := by
  obtain ⟨a, b, hab⟩ := List.length_eq_two.1 (BigEndian.length_encode 2 x.toNat)
  refine ⟨a, b, hab, UInt16.toNat_inj.mp ?_⟩
  rw [ofBeBytes, ← hab, BigEndian.decode_encode, UInt16.toNat_ofNat',
    Nat.mod_mod_of_dvd _ (by simp)]
  exact Nat.mod_eq_of_lt (UInt16.toNat_lt x)

end UInt16

namespace UInt64

/-- The eight bytes of a 64-bit integer, most significant first. -/
def toBeBytes (x : UInt64) : List UInt8 := BigEndian.encode 8 x.toNat

/-- The 64-bit integer a byte string spells, most significant byte first. -/
def ofBeBytes (l : List UInt8) : UInt64 := UInt64.ofNat (BigEndian.decode l)

@[simp] theorem length_toBeBytes (x : UInt64) : x.toBeBytes.length = 8 :=
  BigEndian.length_encode 8 _

@[simp] theorem ofBeBytes_toBeBytes (x : UInt64) : ofBeBytes x.toBeBytes = x := by
  refine UInt64.toNat_inj.mp ?_
  rw [ofBeBytes, toBeBytes, BigEndian.decode_encode, UInt64.toNat_ofNat',
    Nat.mod_mod_of_dvd _ (by norm_num)]
  exact Nat.mod_eq_of_lt (UInt64.toNat_lt x)

theorem toBeBytes_ofBeBytes {l : List UInt8} (h : l.length = 8) : (ofBeBytes l).toBeBytes = l := by
  have hlt : BigEndian.decode l < UInt64.size :=
    lt_of_lt_of_eq (BigEndian.decode_lt l) (by norm_num [h, UInt64.size])
  have hnat : (ofBeBytes l).toNat = BigEndian.decode l := UInt64.toNat_ofNat_of_lt' hlt
  rw [toBeBytes, hnat, ← h]
  exact BigEndian.encode_decode l

end UInt64
