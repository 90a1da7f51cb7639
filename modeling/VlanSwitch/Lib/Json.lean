import Mathlib.Algebra.Order.Group.Unbundled.Int
import VlanSwitch.Lib.Text

/-!
# JSON

Values (`Json`), their text without white space (`Json.print`), and a parser for the
whole of the language (`Json.parse`): white space between tokens, escapes and pairs of
surrogates in strings, numbers with fractions and exponents. A number is kept exactly, as
a mantissa and a power of ten.

The parser reads back whatever is printed (`Json.parse_print`). It works on the rest of a
text and returns what is left of it, so the statement that goes through by induction is
about a text with something after it (`Json.readsBack`); for a number that has to
be something that does not continue it (`Json.Follow`). Every call takes a bound on the
length of what it may still read, which the length of the text satisfies.
-/

/-- A JSON value. -/
inductive Json where
  | null
  | bool (b : Bool)
  /-- The number `mantissa * 10 ^ exponent`. -/
  | num (mantissa exponent : ℤ)
  | str (s : String)
  | arr (elems : List Json)
  | obj (members : List (String × Json))

namespace Json

/-- A natural number. -/
abbrev nat (n : ℕ) : Json := num n 0

/-! ### Printing -/

/-- The digit of a number below 16. -/
def hexDigit (n : ℕ) : Char := if n < 10 then Char.ofNat (48 + n) else Char.ofNat (87 + n)

/-- A character of a string: quotation marks, backslashes and control characters are
escaped. -/
def printChar (c : Char) : List Char :=
  if c = '"' ∨ c = '\\' then ['\\', c]
  else if c.toNat < 32 then
    ['\\', 'u', '0', '0', hexDigit (c.toNat / 16), hexDigit (c.toNat % 16)]
  else [c]

def printString (s : String) : List Char := '"' :: s.toList.flatMap printChar ++ ['"']

def printInt (n : ℤ) : List Char :=
  if n < 0 then '-' :: Nat.toDigits 10 n.natAbs else Nat.toDigits 10 n.natAbs

def printNum (mantissa exponent : ℤ) : List Char :=
  printInt mantissa ++ if exponent = 0 then [] else 'e' :: printInt exponent

mutual

/-- The text of a value. -/
def print : Json → List Char
  | null => "null".toList
  | bool true => "true".toList
  | bool false => "false".toList
  | num mantissa exponent => printNum mantissa exponent
  | str s => printString s
  | arr elems => '[' :: printElems elems ++ [']']
  | obj members => '\x7b' :: printMembers members ++ ['\x7d']

/-- Values with commas between them. -/
def printElems : List Json → List Char
  | [] => []
  | v :: vs => print v ++ if vs.isEmpty then [] else ',' :: printElems vs

/-- Keys and their values, with commas between them. -/
def printMembers : List (String × Json) → List Char
  | [] => []
  | (k, v) :: ms =>
    printString k ++ ':' :: print v ++ if ms.isEmpty then [] else ',' :: printMembers ms

end

theorem print_arr (vs : List Json) : print (arr vs) = '[' :: printElems vs ++ [']'] := by
  rw [print]

theorem print_obj (ms : List (String × Json)) :
    print (obj ms) = '\x7b' :: printMembers ms ++ ['\x7d'] := by
  rw [print]

theorem printMembers_singleton (k : String) (v : Json) :
    printMembers [(k, v)] = printString k ++ ':' :: print v := by
  simp [printMembers]

theorem printMembers_cons_cons (k : String) (v : Json) (m : String × Json)
    (ms : List (String × Json)) :
    printMembers ((k, v) :: m :: ms) =
      printString k ++ ':' :: (print v ++ ',' :: printMembers (m :: ms)) := by
  simp [printMembers]

/-- A list of values is printed with a comma between any two. -/
theorem printElems_eq (vs : List Json) : printElems vs = [','].intercalate (vs.map print) := by
  induction vs with
  | nil => simp [printElems]
  | cons v vs ih =>
    rw [printElems]
    rcases vs with _ | ⟨w, vs⟩
    · simp
    · rw [ih]
      simp

theorem nat_injective {m n : ℕ} (h : nat m = nat n) : m = n := Int.ofNat.inj (num.inj h).1

/-- A natural number is printed in decimal. -/
theorem print_nat (n : ℕ) : print (nat n) = n.repr.toList := by
  have hpos : ¬(n : ℤ) < 0 := by omega
  rw [print, printNum, printInt, if_neg hpos, if_pos rfl, List.append_nil, Int.natAbs_natCast,
    Nat.toList_repr]

/-- A string of digits has nothing to escape. -/
theorem print_str_repr (n : ℕ) : print (str n.repr) = '"' :: n.repr.toList ++ ['"'] := by
  have hplain : ∀ c ∈ n.repr.toList, printChar c = [c] := fun c hc => by
    rw [Nat.toList_repr] at hc
    have hdigit := Text.isDigit_of_mem_toDigits hc
    rw [Char.isDigit_iff_toNat] at hdigit
    have hlow : 48 ≤ c.toNat := hdigit.1
    rw [printChar, if_neg, if_neg (by omega)]
    rintro (rfl | rfl)
    · exact absurd hlow (by decide)
    · exact absurd hdigit.2 (by decide)
  rw [print, printString, List.flatMap_def, List.map_congr_left hplain, ← List.flatMap_def,
    List.flatMap_singleton']

/-! ### Parsing -/

/-- What comes after white space. -/
def skipWs (s : List Char) : List Char :=
  s.dropWhile fun c => c = ' ' ∨ c = '\t' ∨ c = '\n' ∨ c = '\r'

/-- The character a short escape stands for. -/
def unescape : Char → Option Char
  | '"' => some '"'
  | '\\' => some '\\'
  | '/' => some '/'
  | 'b' => some '\x08'
  | 'f' => some '\x0c'
  | 'n' => some '\n'
  | 'r' => some '\r'
  | 't' => some '\t'
  | _ => none

def hexValue (c : Char) : Option ℕ :=
  if c.isDigit then some (c.toNat - 48)
  else if 'a' ≤ c ∧ c ≤ 'f' then some (c.toNat - 87)
  else if 'A' ≤ c ∧ c ≤ 'F' then some (c.toNat - 55)
  else none

/-- Four digits. -/
def parseHex4 : List Char → Option (ℕ × List Char)
  | a :: b :: c :: d :: s => do
    let a ← hexValue a
    let b ← hexValue b
    let c ← hexValue c
    let d ← hexValue d
    some (((a * 16 + b) * 16 + c) * 16 + d, s)
  | _ => none

/-- What a long escape stands for, which two of them may do together. -/
def parseUnicode (s : List Char) : Option (Char × List Char) := do
  let (n, s) ← parseHex4 s
  if 0xD800 ≤ n ∧ n < 0xDC00 then
    let s ← Text.stripPrefix ['\\', 'u'] s
    let (m, s) ← parseHex4 s
    if 0xDC00 ≤ m ∧ m < 0xE000 then
      some (Char.ofNat (0x10000 + (n - 0xD800) * 0x400 + (m - 0xDC00)), s)
    else none
  else if 0xDC00 ≤ n ∧ n < 0xE000 then none
  else some (Char.ofNat n, s)

/-- One character of a string, which may be escaped. -/
def parseChar (c : Char) (s : List Char) : Option (Char × List Char) :=
  if c ≠ '\\' then some (c, s)
  else
    match s with
    | [] => none
    | e :: s => if e = 'u' then parseUnicode s else (unescape e).map fun c => (c, s)

/-- The characters of a string up to the quotation mark that ends it. -/
def parseChars : ℕ → List Char → Option (List Char × List Char)
  | 0, _ => none
  | _ + 1, [] => none
  | n + 1, c :: s =>
    if c = '"' then some ([], s)
    else if c.toNat < 32 then none
    else do
      let (c, s) ← parseChar c s
      let (cs, s) ← parseChars n s
      some (c :: cs, s)

/-- A string, after the quotation mark that begins it. -/
def parseString (n : ℕ) (s : List Char) : Option (String × List Char) := do
  let (cs, s) ← parseChars n s
  some (String.ofList cs, s)

/-- At least one digit. -/
def parseDigits (s : List Char) : Option (List Char × List Char) :=
  let digits := s.takeWhile Char.isDigit
  if digits = [] then none else some (digits, s.dropWhile Char.isDigit)

/-- The digits after the point, if there is one. -/
def parseFrac : List Char → Option (List Char × List Char)
  | '.' :: s => parseDigits s
  | s => some ([], s)

/-- A whole number, with a sign of either kind or with none. -/
def parseInt (s : List Char) : Option (ℤ × List Char) :=
  match s with
  | [] => none
  | c :: rest =>
    if c = '-' then
      (parseDigits rest).map fun (ds, rest) => (-(Nat.ofDigitChars 10 ds 0 : ℤ), rest)
    else
      (parseDigits (if c = '+' then rest else s)).map fun (ds, rest) =>
        ((Nat.ofDigitChars 10 ds 0 : ℤ), rest)

/-- The exponent, if there is one. -/
def parseExp (s : List Char) : Option (ℤ × List Char) :=
  match s with
  | [] => some (0, [])
  | c :: rest => if c = 'e' ∨ c = 'E' then parseInt rest else some (0, s)

/-- A number without its sign: no digit follows a leading zero. -/
def parseUnsignedNum (s : List Char) : Option ((ℕ × ℤ) × List Char) := do
  let (int, s) ← parseDigits s
  if int.head? = some '0' ∧ int ≠ ['0'] then none
  else
    let (frac, s) ← parseFrac s
    let (exp, s) ← parseExp s
    some ((Nat.ofDigitChars 10 (int ++ frac) 0, exp - frac.length), s)

/-- A number, with a minus sign or with none. -/
def parseNum (s : List Char) : Option (Json × List Char) :=
  if s.head? = some '-' then
    (parseUnsignedNum s.tail).map fun ((m, e), s) => (num (-(m : ℤ)) e, s)
  else (parseUnsignedNum s).map fun ((m, e), s) => (num m e, s)

mutual

/-- A value. -/
def parseValue : ℕ → List Char → Option (Json × List Char)
  | 0, _ => none
  | _ + 1, [] => none
  | n + 1, c :: s =>
    if c = 'n' then (Text.stripPrefix "ull".toList s).map fun s => (null, s)
    else if c = 't' then (Text.stripPrefix "rue".toList s).map fun s => (bool true, s)
    else if c = 'f' then (Text.stripPrefix "alse".toList s).map fun s => (bool false, s)
    else if c = '"' then (parseString n s).map fun (cs, s) => (str cs, s)
    else if c = '[' then
      if (skipWs s).head? = some ']' then some (arr [], (skipWs s).tail)
      else (parseElems n s).map fun (vs, s) => (arr vs, s)
    else if c = '\x7b' then
      if (skipWs s).head? = some '\x7d' then some (obj [], (skipWs s).tail)
      else (parseMembers n s).map fun (ms, s) => (obj ms, s)
    else parseNum (c :: s)

/-- Values with commas between them, up to the bracket that ends them. -/
def parseElems : ℕ → List Char → Option (List Json × List Char)
  | 0, _ => none
  | n + 1, s => do
    let (v, s) ← parseValue n (skipWs s)
    match skipWs s with
    | ',' :: s => (parseElems n s).map fun (vs, s) => (v :: vs, s)
    | ']' :: s => some ([v], s)
    | _ => none

/-- Keys and their values with commas between them, up to the brace that ends them. -/
def parseMembers : ℕ → List Char → Option (List (String × Json) × List Char)
  | 0, _ => none
  | n + 1, s => do
    let s ← Text.stripPrefix ['"'] (skipWs s)
    let (k, s) ← parseString n s
    let s ← Text.stripPrefix [':'] (skipWs s)
    let (v, s) ← parseValue n (skipWs s)
    match skipWs s with
    | ',' :: s => (parseMembers n s).map fun (ms, s) => ((k, v) :: ms, s)
    | '\x7d' :: s => some ([(k, v)], s)
    | _ => none

end

/-- Reads a text: a value, and nothing else but white space. -/
def parse (s : String) : Option Json := do
  let (v, rest) ← parseValue s.length (skipWs s.toList)
  if skipWs rest = [] then some v else none

/-! ### Numbers are read back -/

/-- What can come after a value: nothing, or what ends it inside another. -/
def Follow : List Char → Prop
  | [] => True
  | c :: _ => c = ',' ∨ c = ']' ∨ c = '\x7d'

/-- Nothing that follows a value is a digit. -/
def NoDigit : List Char → Prop
  | [] => True
  | c :: _ => c.isDigit = false

theorem Follow.noDigit {rest : List Char} (h : Follow rest) : NoDigit rest := by
  rcases rest with _ | ⟨c, rest⟩
  · trivial
  · rcases h with rfl | rfl | rfl <;> rfl

theorem Follow.skipWs_eq {rest : List Char} (h : Follow rest) : skipWs rest = rest := by
  rcases rest with _ | ⟨c, rest⟩
  · rfl
  · rcases h with rfl | rfl | rfl <;> rfl

theorem parseDigits_append {digits rest : List Char} (hne : digits ≠ [])
    (hdigits : ∀ c ∈ digits, c.isDigit = true) (hrest : NoDigit rest) :
    parseDigits (digits ++ rest) = some (digits, rest) := by
  have htake : rest.takeWhile Char.isDigit = [] := by
    rcases rest with _ | ⟨c, rest⟩
    · rfl
    · exact List.takeWhile_cons_of_neg (Bool.eq_false_iff.mp hrest)
  have hdrop : rest.dropWhile Char.isDigit = rest := by
    rcases rest with _ | ⟨c, rest⟩
    · rfl
    · exact List.dropWhile_cons_of_neg (Bool.eq_false_iff.mp hrest)
  rw [parseDigits, List.takeWhile_append_of_pos hdigits, List.dropWhile_append_of_pos hdigits,
    htake, hdrop, List.append_nil, if_neg hne]

theorem parseDigits_toDigits (n : ℕ) {rest : List Char} (h : NoDigit rest) :
    parseDigits (Nat.toDigits 10 n ++ rest) = some (Nat.toDigits 10 n, rest) :=
  parseDigits_append Nat.toDigits_ne_nil (fun _ => Text.isDigit_of_mem_toDigits) h

/-- A number is written without leading zeros. -/
theorem head?_toDigits (n : ℕ) :
    (Nat.toDigits 10 n).head? = some '0' → Nat.toDigits 10 n = ['0'] := by
  induction n using Nat.strong_induction_on with
  | _ n ih =>
    rcases Nat.lt_or_ge n 10 with hlt | hge
    · rw [Nat.toDigits_of_lt_base hlt, List.head?_cons]
      exact fun h => congrArg (fun c => [c]) (Option.some.inj h)
    · rw [Nat.toDigits_of_base_le (by decide) hge,
        List.head?_append_of_ne_nil _ Nat.toDigits_ne_nil]
      intro h
      -- the digits before the last would be a zero
      have hzero := ih (n / 10) (by omega) h
      have hvalue : n / 10 = 0 := by
        rw [← Nat.ofDigitChars_ten_toDigits (n := n / 10), hzero]
        rfl
      omega

/-- The digits of a number are read as it. -/
theorem parseUnsignedNum_toDigits (n : ℕ) {rest : List Char} {e : ℤ} {rest' : List Char}
    (hrest : NoDigit rest) (hpoint : rest.head? ≠ some '.')
    (hexp : parseExp rest = some (e, rest')) :
    parseUnsignedNum (Nat.toDigits 10 n ++ rest) = some ((n, e), rest') := by
  have hzero : ¬((Nat.toDigits 10 n).head? = some '0' ∧ Nat.toDigits 10 n ≠ ['0']) :=
    fun h => h.2 (head?_toDigits n h.1)
  have hfrac : parseFrac rest = some ([], rest) := by
    unfold parseFrac
    split
    · exact absurd rfl hpoint
    · rfl
  simp only [parseUnsignedNum, parseDigits_toDigits n hrest, Option.bind_eq_bind,
    Option.bind_some, if_neg hzero, hfrac, hexp, List.append_nil, Nat.ofDigitChars_ten_toDigits,
    List.length_nil, Int.natCast_zero, Int.sub_zero]

theorem parseExp_follow {rest : List Char} (h : Follow rest) : parseExp rest = some (0, rest) := by
  rcases rest with _ | ⟨c, rest⟩
  · rfl
  · rcases h with rfl | rfl | rfl <;> rfl

/-- A digit is none of the characters that mean something else. -/
theorem ne_of_isDigit {c d : Char} (hc : c.isDigit = true) (hd : d.isDigit = false) : c ≠ d := by
  rintro rfl
  rw [hc] at hd
  cases hd

/-- The digits of a number begin with one. -/
theorem exists_cons_toDigits (n : ℕ) :
    ∃ c s, Nat.toDigits 10 n = c :: s ∧ c.isDigit = true := by
  obtain ⟨c, s, h⟩ := List.exists_cons_of_ne_nil (Nat.toDigits_ne_nil (n := n) (b := 10))
  refine ⟨c, s, h, Text.isDigit_of_mem_toDigits (n := n) ?_⟩
  rw [h]
  exact List.mem_cons_self

/-- A whole number is read back. -/
theorem parseInt_printInt (e : ℤ) {rest : List Char} (h : NoDigit rest) :
    parseInt (printInt e ++ rest) = some (e, rest) := by
  rw [printInt]
  split
  · next hneg =>
    have habs : -(e.natAbs : ℤ) = e := by omega
    simp only [List.cons_append, parseInt, if_true, parseDigits_toDigits _ h, Option.map_some,
      Nat.ofDigitChars_ten_toDigits, habs]
  · next hpos =>
    obtain ⟨c, s, hcons, hc⟩ := exists_cons_toDigits e.natAbs
    have hread := parseDigits_toDigits e.natAbs h
    have habs : (e.natAbs : ℤ) = e := by omega
    have hminus : c ≠ '-' := ne_of_isDigit hc rfl
    have hplus : c ≠ '+' := ne_of_isDigit hc rfl
    rw [hcons, List.cons_append] at hread ⊢
    simp only [parseInt, if_neg hminus, if_neg hplus, hread, Option.map_some, ← hcons,
      Nat.ofDigitChars_ten_toDigits, habs]

/-- What comes after the digits of the mantissa is the exponent. -/
theorem exponent_print (e : ℤ) {rest : List Char} (h : Follow rest) :
    ∃ tail, (if e = 0 then [] else 'e' :: printInt e) ++ rest = tail ∧ NoDigit tail ∧
      tail.head? ≠ some '.' ∧ parseExp tail = some (e, rest) := by
  by_cases he : e = 0
  · refine ⟨rest, by rw [if_pos he, List.nil_append], h.noDigit, ?_, he ▸ parseExp_follow h⟩
    rcases rest with _ | ⟨c, rest⟩
    · simp
    · rcases h with rfl | rfl | rfl <;> simp
  · refine ⟨'e' :: (printInt e ++ rest), ?_, rfl, by simp, ?_⟩
    · rw [if_neg he, List.cons_append]
    · rw [parseExp, if_pos (Or.inl rfl), parseInt_printInt e h.noDigit]

/-- **A number is read back.** -/
theorem parseNum_print (m e : ℤ) {rest : List Char} (h : Follow rest) :
    parseNum (printNum m e ++ rest) = some (num m e, rest) := by
  obtain ⟨tail, htail, hdigit, hpoint, hread⟩ := exponent_print e h
  have hmantissa := parseUnsignedNum_toDigits m.natAbs hdigit hpoint hread
  rw [printNum, List.append_assoc, htail, printInt]
  split
  · next hneg =>
    have habs : -(m.natAbs : ℤ) = m := by omega
    simp only [List.cons_append, parseNum, List.head?_cons, if_true, List.tail_cons, hmantissa,
      Option.map_some, habs]
  · next hpos =>
    obtain ⟨c, s, hcons, hc⟩ := exists_cons_toDigits m.natAbs
    have habs : (m.natAbs : ℤ) = m := by omega
    have hminus : ¬(Nat.toDigits 10 m.natAbs ++ tail).head? = some '-' := by
      rw [hcons, List.cons_append, List.head?_cons]
      exact fun hc' => ne_of_isDigit hc rfl (Option.some.inj hc')
    simp only [parseNum, if_neg hminus, hmantissa, Option.map_some, habs]

/-! ### Strings are read back -/

theorem hexValue_hexDigit : ∀ n < 16, hexValue (hexDigit n) = some n := by decide

/-- A small number is read back from two digits after two zeros. -/
theorem parseHex4_hexDigit {n : ℕ} (hn : n < 256) (s : List Char) :
    parseHex4 ('0' :: '0' :: hexDigit (n / 16) :: hexDigit (n % 16) :: s) = some (n, s) := by
  have hzero : hexValue '0' = some 0 := rfl
  have hhigh := hexValue_hexDigit (n / 16) (by omega)
  have hlow := hexValue_hexDigit (n % 16) (by omega)
  have hvalue : ((0 * 16 + 0) * 16 + n / 16) * 16 + n % 16 = n := by omega
  simp only [parseHex4, hzero, hhigh, hlow, Option.bind_eq_bind, Option.bind_some, hvalue]

/-- A control character is read back from its long escape. -/
theorem parseUnicode_control {c : Char} (hc : c.toNat < 32) (s : List Char) :
    parseUnicode ('0' :: '0' :: hexDigit (c.toNat / 16) :: hexDigit (c.toNat % 16) :: s) =
      some (c, s) := by
  have hhigh : ¬(0xD800 ≤ c.toNat ∧ c.toNat < 0xDC00) := by omega
  have hlow : ¬(0xDC00 ≤ c.toNat ∧ c.toNat < 0xE000) := by omega
  have hhex := parseHex4_hexDigit (n := c.toNat) (by omega) s
  simp only [parseUnicode, hhex, Option.bind_eq_bind, Option.bind_some, if_neg hhigh, if_neg hlow,
    Char.ofNat_toNat]

/-- One character of a string is read before the others. -/
theorem parseChars_cons {n : ℕ} {c d : Char} {s s' : List Char} (hquote : c ≠ '"')
    (hctrl : ¬c.toNat < 32) (h : parseChar c s = some (d, s')) :
    parseChars (n + 1) (c :: s) = (parseChars n s').map fun (cs, s) => (d :: cs, s) := by
  rw [parseChars, if_neg hquote, if_neg hctrl, h]
  simp only [Option.bind_eq_bind, Option.bind_some]
  rcases parseChars n s' with _ | ⟨cs, s''⟩ <;> rfl

/-- An escape is read before the other characters. -/
theorem parseChars_backslash {n : ℕ} {d : Char} {s s' : List Char}
    (h : parseChar '\\' s = some (d, s')) :
    parseChars (n + 1) ('\\' :: s) = (parseChars n s').map fun (cs, s) => (d :: cs, s) :=
  parseChars_cons (by decide) (by decide) h

/-- **A character is read back** from what it is printed as. -/
theorem parseChars_printChar (n : ℕ) (c : Char) (s : List Char) :
    parseChars (n + 1) (printChar c ++ s) =
      (parseChars n s).map fun (cs, s) => (c :: cs, s) := by
  rw [printChar]
  split
  · next h =>
    -- what the backslash stands before is itself
    refine parseChars_backslash ?_
    rcases h with rfl | rfl <;> rfl
  · next h =>
    rw [not_or] at h
    split
    · next hctrl =>
      exact parseChars_backslash (parseUnicode_control hctrl s)
    · next hctrl =>
      exact parseChars_cons h.1 hctrl (if_pos h.2)

theorem parseChars_flatMap {n : ℕ} {cs : List Char} (hn : (cs.flatMap printChar).length < n)
    (rest : List Char) :
    parseChars n (cs.flatMap printChar ++ '"' :: rest) = some (cs, rest) := by
  induction cs generalizing n with
  | nil =>
    obtain ⟨n, rfl⟩ := Nat.exists_eq_succ_of_ne_zero (Nat.ne_of_gt hn)
    rfl
  | cons c cs ih =>
    obtain ⟨n, rfl⟩ := Nat.exists_eq_succ_of_ne_zero (Nat.ne_zero_of_lt hn)
    rw [List.flatMap_cons, List.length_append] at hn
    have hchar : 1 ≤ (printChar c).length := by
      rw [printChar]
      split_ifs <;> exact Nat.succ_pos _
    rw [List.flatMap_cons, List.append_assoc, parseChars_printChar, ih (by omega), Option.map_some]

/-- **A string is read back.** -/
theorem parseString_print {n : ℕ} {s : String} (hn : (printString s).length ≤ n + 1)
    (rest : List Char) :
    parseString n (s.toList.flatMap printChar ++ '"' :: rest) = some (s, rest) := by
  rw [printString, List.length_append, List.length_cons, List.length_singleton] at hn
  rw [parseString, parseChars_flatMap (by omega)]
  simp only [Option.bind_eq_bind, Option.bind_some, String.ofList_toList]

/-! ### Values are read back -/

/-- What a value can begin with: it is not white space, and ends nothing. -/
def Starts (c : Char) : Prop :=
  c = 'n' ∨ c = 't' ∨ c = 'f' ∨ c = '"' ∨ c = '[' ∨ c = '\x7b' ∨ c = '-' ∨ c.isDigit = true

theorem Starts.skipWs_eq {c : Char} (h : Starts c) (s : List Char) :
    skipWs (c :: s) = c :: s := by
  refine List.dropWhile_cons_of_neg ?_
  rw [decide_eq_true_eq]
  rintro (rfl | rfl | rfl | rfl) <;> exact absurd h (by simp [Starts])

theorem exists_cons_printInt (n : ℤ) : ∃ c s, printInt n = c :: s ∧ Starts c := by
  rw [printInt]
  split
  · exact ⟨_, _, rfl, by simp [Starts]⟩
  · obtain ⟨c, s, hcons, hc⟩ := exists_cons_toDigits n.natAbs
    exact ⟨c, s, hcons, by simp [Starts, hc]⟩

/-- **A value begins with a character of its own.** -/
theorem exists_cons_print (v : Json) : ∃ c s, print v = c :: s ∧ Starts c := by
  cases v with
  | null => exact ⟨'n', _, rfl, by simp [Starts]⟩
  | bool b =>
    cases b
    · exact ⟨'f', _, rfl, by simp [Starts]⟩
    · exact ⟨'t', _, rfl, by simp [Starts]⟩
  | num m e =>
    obtain ⟨c, s, hcons, hc⟩ := exists_cons_printInt m
    refine ⟨c, s ++ if e = 0 then [] else 'e' :: printInt e, ?_, hc⟩
    rw [print, printNum, hcons, List.cons_append]
  | str s => exact ⟨'"', _, rfl, by simp [Starts]⟩
  | arr vs => exact ⟨'[', _, rfl, by simp [Starts]⟩
  | obj ms => exact ⟨'\x7b', _, rfl, by simp [Starts]⟩

theorem skipWs_print (v : Json) (s : List Char) : skipWs (print v ++ s) = print v ++ s := by
  obtain ⟨c, t, hcons, hc⟩ := exists_cons_print v
  rw [hcons, List.cons_append, hc.skipWs_eq]

/-- What is read back of values, of lists of values and of lists of members, with a
bound on the length of what is read. -/
structure ReadsBack (n : ℕ) : Prop where
  value : ∀ v rest, (print v).length ≤ n → Follow rest →
    parseValue n (print v ++ rest) = some (v, rest)
  elems : ∀ vs rest, vs ≠ [] → (printElems vs).length + 1 ≤ n →
    parseElems n (printElems vs ++ ']' :: rest) = some (vs, rest)
  members : ∀ ms rest, ms ≠ [] → (printMembers ms).length + 1 ≤ n →
    parseMembers n (printMembers ms ++ '\x7d' :: rest) = some (ms, rest)

/-- A list of values is read back one value at a time. -/
theorem ReadsBack.elems_succ {n : ℕ} (h : ReadsBack n) {vs : List Json} (hne : vs ≠ [])
    (hn : (printElems vs).length ≤ n) (rest : List Char) :
    parseElems (n + 1) (printElems vs ++ ']' :: rest) = some (vs, rest) := by
  obtain ⟨v, vs, rfl⟩ := List.exists_cons_of_ne_nil hne
  rw [printElems, List.length_append] at hn
  rw [printElems, List.append_assoc, parseElems, skipWs_print]
  rcases vs with _ | ⟨w, vs⟩
  · have hfollow : Follow (']' :: rest) := Or.inr (Or.inl rfl)
    have hv := h.value v (']' :: rest) (by omega) hfollow
    simp only [List.isEmpty_nil, if_true, List.nil_append, hv, Option.bind_eq_bind,
      Option.bind_some, hfollow.skipWs_eq]
  · have hfollow : Follow (',' :: (printElems (w :: vs) ++ ']' :: rest)) := Or.inl rfl
    have hv := h.value v (',' :: (printElems (w :: vs) ++ ']' :: rest)) (by omega) hfollow
    have hvs := h.elems (w :: vs) rest (List.cons_ne_nil w vs) (by
      simp only [List.isEmpty_cons, Bool.false_eq_true, if_false, List.length_cons] at hn
      omega)
    simp only [List.isEmpty_cons, Bool.false_eq_true, if_false, List.cons_append, hv,
      Option.bind_eq_bind, Option.bind_some, hfollow.skipWs_eq, hvs, Option.map_some]

/-- A list of members is read back one key and its value at a time. -/
theorem ReadsBack.members_succ {n : ℕ} (h : ReadsBack n) {ms : List (String × Json)}
    (hne : ms ≠ []) (hn : (printMembers ms).length ≤ n) (rest : List Char) :
    parseMembers (n + 1) (printMembers ms ++ '\x7d' :: rest) = some (ms, rest) := by
  obtain ⟨⟨k, v⟩, ms, rfl⟩ := List.exists_cons_of_ne_nil hne
  rw [printMembers, List.length_append, List.length_append, List.length_cons] at hn
  have hquote : ∀ s, Text.stripPrefix ['"'] (skipWs (printString k ++ s)) =
      some (k.toList.flatMap printChar ++ '"' :: s) := fun s =>
    Text.stripPrefix_eq_some.mpr (by
      rw [printString, List.append_assoc]
      rfl)
  have hcolon : ∀ s, Text.stripPrefix [':'] (skipWs (':' :: s)) = some s := fun s =>
    Text.stripPrefix_eq_some.mpr rfl
  have hk : ∀ s, parseString n (k.toList.flatMap printChar ++ '"' :: s) = some (k, s) :=
    parseString_print (by omega)
  rw [printMembers, List.append_assoc, List.append_assoc, List.cons_append, parseMembers]
  rcases ms with _ | ⟨m, ms⟩
  · have hfollow : Follow ('\x7d' :: rest) := Or.inr (Or.inr rfl)
    have hv := h.value v ('\x7d' :: rest) (by omega) hfollow
    simp only [List.isEmpty_nil, if_true, List.nil_append, hquote, hk, hcolon, skipWs_print, hv,
      Option.bind_eq_bind, Option.bind_some, hfollow.skipWs_eq]
  · have hfollow : Follow (',' :: (printMembers (m :: ms) ++ '\x7d' :: rest)) := Or.inl rfl
    have hv := h.value v (',' :: (printMembers (m :: ms) ++ '\x7d' :: rest)) (by omega) hfollow
    have hms := h.members (m :: ms) rest (List.cons_ne_nil m ms) (by
      simp only [List.isEmpty_cons, Bool.false_eq_true, if_false, List.length_cons] at hn
      omega)
    simp only [List.isEmpty_cons, Bool.false_eq_true, if_false, List.cons_append, hquote, hk,
      hcolon, skipWs_print, hv, Option.bind_eq_bind, Option.bind_some, hfollow.skipWs_eq, hms,
      Option.map_some]

theorem parseValue_word {n : ℕ} {c : Char} {word : List Char} {v : Json} (rest : List Char)
    (h : ∀ s, parseValue (n + 1) (c :: s) = (Text.stripPrefix word s).map fun s => (v, s)) :
    parseValue (n + 1) (c :: (word ++ rest)) = some (v, rest) := by
  rw [h, Text.stripPrefix_eq_some.mpr rfl, Option.map_some]

/-- A number is not taken for anything else. -/
theorem parseValue_printNum (n : ℕ) (m e : ℤ) {rest : List Char} (h : Follow rest) :
    parseValue (n + 1) (printNum m e ++ rest) = some (num m e, rest) := by
  obtain ⟨c, s, hcons, hc⟩ : ∃ c s, printInt m = c :: s ∧ (c = '-' ∨ c.isDigit = true) := by
    rw [printInt]
    split
    · exact ⟨_, _, rfl, Or.inl rfl⟩
    · obtain ⟨c, s, hcons, hc⟩ := exists_cons_toDigits m.natAbs
      exact ⟨c, s, hcons, Or.inr hc⟩
  have hne : ∀ d : Char, (d.isDigit || d == '-') = false → c ≠ d := fun d hd => by
    obtain ⟨hdigit, hminus⟩ := Bool.or_eq_false_iff.mp hd
    rcases hc with rfl | hc
    · exact Ne.symm (beq_eq_false_iff_ne.mp hminus)
    · exact ne_of_isDigit hc hdigit
  have hnum := parseNum_print m e h
  rw [printNum, hcons, List.cons_append, List.cons_append] at hnum ⊢
  rw [parseValue, if_neg (hne _ rfl), if_neg (hne _ rfl), if_neg (hne _ rfl), if_neg (hne _ rfl),
    if_neg (hne _ rfl), if_neg (hne _ rfl), hnum]

theorem parseValue_quote (n : ℕ) (s : List Char) :
    parseValue (n + 1) ('"' :: s) = (parseString n s).map fun (cs, s) => (str cs, s) := rfl

theorem parseValue_bracket (n : ℕ) (s : List Char) :
    parseValue (n + 1) ('[' :: s) =
      if (skipWs s).head? = some ']' then some (arr [], (skipWs s).tail)
      else (parseElems n s).map fun (vs, s) => (arr vs, s) := rfl

theorem parseValue_brace (n : ℕ) (s : List Char) :
    parseValue (n + 1) ('\x7b' :: s) =
      if (skipWs s).head? = some '\x7d' then some (obj [], (skipWs s).tail)
      else (parseMembers n s).map fun (ms, s) => (obj ms, s) := rfl

/-- A list with a value in it does not look empty. -/
theorem head?_printElems {vs : List Json} (h : vs ≠ []) (s : List Char) :
    (skipWs (printElems vs ++ s)).head? ≠ some ']' := by
  obtain ⟨v, vs, rfl⟩ := List.exists_cons_of_ne_nil h
  obtain ⟨c, t, hcons, hc⟩ := exists_cons_print v
  rw [printElems, List.append_assoc, hcons, List.cons_append, hc.skipWs_eq, List.head?_cons]
  rintro heq
  obtain rfl := Option.some.inj heq
  simp [Starts] at hc

theorem head?_printMembers {ms : List (String × Json)} (h : ms ≠ []) (s : List Char) :
    (skipWs (printMembers ms ++ s)).head? ≠ some '\x7d' := by
  obtain ⟨⟨k, v⟩, ms, rfl⟩ := List.exists_cons_of_ne_nil h
  have hquote : (skipWs (printMembers ((k, v) :: ms) ++ s)).head? = some '"' := rfl
  rw [hquote]
  decide

/-- **Every value is read back**, whatever follows it. -/
theorem readsBack (n : ℕ) : ReadsBack n := by
  induction n with
  | zero =>
    refine ⟨fun v rest hn _ => ?_, fun _ _ _ hn => absurd hn (by omega),
      fun _ _ _ hn => absurd hn (by omega)⟩
    obtain ⟨c, s, hcons, -⟩ := exists_cons_print v
    rw [hcons] at hn
    exact absurd hn (Nat.not_succ_le_zero _)
  | succ n ih =>
    refine ⟨fun v rest hn hfollow => ?_, fun vs rest hne hn => ih.elems_succ hne (by omega) rest,
      fun ms rest hne hn => ih.members_succ hne (by omega) rest⟩
    cases v with
    | null => exact parseValue_word rest fun s => rfl
    | bool b =>
      cases b
      · exact parseValue_word rest fun s => rfl
      · exact parseValue_word rest fun s => rfl
    | num m e => exact parseValue_printNum n m e hfollow
    | str s =>
      rw [print] at hn ⊢
      have htext : printString s ++ rest = '"' :: (s.toList.flatMap printChar ++ '"' :: rest) := by
        rw [printString, List.append_assoc]
        rfl
      rw [htext, parseValue_quote, parseString_print hn, Option.map_some]
    | arr vs =>
      have htext : print (arr vs) ++ rest = '[' :: (printElems vs ++ ']' :: rest) := by
        rw [print, List.append_assoc]
        rfl
      have hlen := congrArg List.length htext
      rw [htext, parseValue_bracket]
      rcases eq_or_ne vs [] with rfl | hne
      · rfl
      · have hvs := ih.elems vs rest hne (by
          simp only [List.length_append, List.length_cons] at hlen
          omega)
        rw [if_neg (head?_printElems hne _), hvs, Option.map_some]
    | obj ms =>
      have htext : print (obj ms) ++ rest = '\x7b' :: (printMembers ms ++ '\x7d' :: rest) := by
        rw [print, List.append_assoc]
        rfl
      have hlen := congrArg List.length htext
      rw [htext, parseValue_brace]
      rcases eq_or_ne ms [] with rfl | hne
      · rfl
      · have hms := ih.members ms rest hne (by
          simp only [List.length_append, List.length_cons] at hlen
          omega)
        rw [if_neg (head?_printMembers hne _), hms, Option.map_some]

/-- **What is printed is read back.** -/
theorem parse_print (v : Json) : parse (String.ofList (print v)) = some v := by
  have hlen : (String.ofList (print v)).length = (print v).length := by
    rw [← String.length_toList, String.toList_ofList]
  have hread := (readsBack (print v).length).value v [] le_rfl trivial
  have hws := skipWs_print v []
  rw [List.append_nil] at hread hws
  rw [parse, hlen, String.toList_ofList, hws, hread]
  rfl

end Json
