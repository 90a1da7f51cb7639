import Mathlib.Data.List.Forall2
import Mathlib.Order.Lattice

/-!
# Reading text by hand

What programs that read small texts without a grammar do: cut a text at its first
separator, take a prefix off it, read a number in decimal, and give up at the first
failure. A text is the list of its characters here, and each of these is characterised
by the texts it accepts:

* `Text.splitOnce_eq_some` – the cut is at the first separator;
* `Text.stripPrefix_eq_some`;
* `Text.parseUnsigned_eq_some` – the numerals accepted are an optional sign and at
  least one digit, with a bounded value (`Text.Numeral`), and among them is the one a
  number is written as (`Text.numeral_toDigits`);
* `Except.bind_eq_ok`, `Except.mapM_eq_ok` – a chain and a loop of steps that may fail
  succeed if every step does.
-/

/-! ### Steps that may fail -/

namespace Except

universe u

variable {ε : Type*} {α β : Type u}

theorem ok_bind (a : α) (f : α → Except ε β) : (.ok a : Except ε α) >>= f = f a := rfl

/-- A chain of two steps succeeds if both do. -/
theorem bind_eq_ok {x : Except ε α} {f : α → Except ε β} {b : β} :
    x >>= f = .ok b ↔ ∃ a, x = .ok a ∧ f a = .ok b := by
  rcases x with e | a
  · exact ⟨fun h => (by cases h), fun ⟨a, ha, _⟩ => (by cases ha)⟩
  · exact ⟨fun h => ⟨a, rfl, h⟩, fun ⟨a', ha, h⟩ => Except.ok.inj ha ▸ h⟩

/-- A chain of two steps fails as the first of them that does. -/
theorem bind_eq_error {x : Except ε α} {f : α → Except ε β} {e : ε} :
    x >>= f = .error e ↔ x = .error e ∨ ∃ a, x = .ok a ∧ f a = .error e := by
  rcases x with e' | a
  · refine ⟨fun h => Or.inl (congrArg _ (Except.error.inj h)), ?_⟩
    rintro (h | ⟨a, ha, -⟩)
    · exact congrArg _ (Except.error.inj h)
    · cases ha
  · refine ⟨fun h => Or.inr ⟨a, rfl, h⟩, ?_⟩
    rintro (h | ⟨a', ha, h⟩)
    · cases h
    · exact Except.ok.inj ha ▸ h

theorem map_eq_ok {x : Except ε α} {f : α → β} {b : β} :
    f <$> x = .ok b ↔ ∃ a, x = .ok a ∧ f a = b := by
  rcases x with e | a
  · exact ⟨fun h => (by cases h), fun ⟨a, ha, _⟩ => (by cases ha)⟩
  · exact ⟨fun h => ⟨a, rfl, Except.ok.inj h⟩, fun ⟨a', ha, h⟩ =>
      congrArg Except.ok (Except.ok.inj ha ▸ h)⟩

theorem mapError_eq_ok {ε' : Type*} {x : Except ε α} {f : ε → ε'} {a : α} :
    x.mapError f = .ok a ↔ x = .ok a := by
  rcases x with e | b
  · exact ⟨fun h => (by cases h), fun h => (by cases h)⟩
  · exact ⟨fun h => congrArg _ (Except.ok.inj h), fun h => congrArg _ (Except.ok.inj h)⟩

theorem mapError_eq_error {ε' : Type*} {x : Except ε α} {f : ε → ε'} {e : ε'} :
    x.mapError f = .error e ↔ ∃ e', x = .error e' ∧ f e' = e := by
  rcases x with e' | b
  · exact ⟨fun h => ⟨e', rfl, Except.error.inj h⟩, fun ⟨e'', he, h⟩ =>
      congrArg Except.error (Except.error.inj he ▸ h)⟩
  · exact ⟨fun h => (by cases h), fun ⟨_, h, _⟩ => (by cases h)⟩

/-- **A loop of steps succeeds if every step does.** -/
theorem mapM_eq_ok {f : α → Except ε β} {l : List α} {r : List β} :
    l.mapM f = .ok r ↔ List.Forall₂ (fun a b => f a = .ok b) l r := by
  induction l generalizing r with
  | nil =>
    rw [List.mapM_nil, List.forall₂_nil_left_iff]
    exact ⟨fun h => (Except.ok.inj h).symm, fun h => congrArg Except.ok h.symm⟩
  | cons a l ih =>
    rw [List.mapM_cons, bind_eq_ok, List.forall₂_cons_left_iff]
    refine exists_congr fun b => ?_
    rw [bind_eq_ok]
    constructor
    · rintro ⟨hb, r', hr', h⟩
      exact ⟨r', hb, ih.mp hr', (Except.ok.inj h).symm⟩
    · rintro ⟨r', hb, hr', rfl⟩
      exact ⟨hb, r', ih.mpr hr', rfl⟩

/-- A loop of steps fails as one of them does. -/
theorem exists_of_mapM_eq_error {f : α → Except ε β} {l : List α} {e : ε}
    (h : l.mapM f = .error e) : ∃ a ∈ l, f a = .error e := by
  induction l with
  | nil => cases h
  | cons a l ih =>
    rw [List.mapM_cons, bind_eq_error] at h
    rcases h with h | ⟨b, -, h⟩
    · exact ⟨a, List.mem_cons_self, h⟩
    · rcases bind_eq_error.mp h with h | ⟨r, -, h⟩
      · obtain ⟨a', ha', hf⟩ := ih h
        exact ⟨a', List.mem_cons_of_mem a ha', hf⟩
      · cases h

end Except

namespace Text

/-! ### Cutting -/

section Cut

variable {α : Type*} [DecidableEq α]

/-- What comes before the first separator and what comes after it. -/
def splitOnce (sep : α) : List α → Option (List α × List α)
  | [] => none
  | a :: l => if a = sep then some ([], l) else (splitOnce sep l).map fun (x, y) => (a :: x, y)

/-- **The cut is at the first separator.** -/
theorem splitOnce_eq_some {sep : α} {l x y : List α} :
    splitOnce sep l = some (x, y) ↔ sep ∉ x ∧ l = x ++ sep :: y := by
  induction l generalizing x with
  | nil => simp [splitOnce]
  | cons a l ih =>
    rw [splitOnce]
    by_cases ha : a = sep
    · rw [if_pos ha, ha]
      constructor
      · intro h
        obtain ⟨rfl, rfl⟩ := Prod.mk.inj (Option.some.inj h)
        exact ⟨List.not_mem_nil, rfl⟩
      · rintro ⟨hx, h⟩
        rcases x with _ | ⟨b, x⟩
        · rw [(List.cons.inj h).2]
        · exact absurd (List.mem_cons.mpr (Or.inl (List.cons.inj h).1)) hx
    · rw [if_neg ha, Option.map_eq_some_iff]
      constructor
      · rintro ⟨⟨x', y'⟩, hl, h⟩
        obtain ⟨rfl, rfl⟩ := Prod.mk.inj h
        obtain ⟨hx', rfl⟩ := ih.mp hl
        refine ⟨fun hmem => ?_, rfl⟩
        rcases List.mem_cons.mp hmem with rfl | hmem
        · exact ha rfl
        · exact hx' hmem
      · rintro ⟨hx, h⟩
        rcases x with _ | ⟨b, x⟩
        · exact absurd (List.cons.inj h).1 ha
        · obtain ⟨rfl, rfl⟩ := List.cons.inj h
          exact ⟨(x, y), ih.mpr ⟨fun hmem => hx (List.mem_cons_of_mem _ hmem), rfl⟩, rfl⟩

/-- What comes after a prefix. -/
def stripPrefix (pre l : List α) : Option (List α) :=
  if pre <+: l then some (l.drop pre.length) else none

theorem stripPrefix_eq_some {pre l rest : List α} :
    stripPrefix pre l = some rest ↔ l = pre ++ rest := by
  rw [stripPrefix]
  constructor
  · intro h
    split at h
    · next hpre =>
      obtain ⟨t, rfl⟩ := hpre
      rw [List.drop_left] at h
      rw [Option.some.inj h]
    · cases h
  · rintro rfl
    rw [if_pos (List.prefix_append pre rest), List.drop_left]

end Cut

/-! ### Numbers -/

/-- A number in decimal: an optional sign, and at least one digit. -/
def Numeral (s : List Char) (n : ℕ) : Prop :=
  ∃ digits, (s = digits ∨ s = '+' :: digits) ∧ digits ≠ [] ∧
    (∀ c ∈ digits, c.isDigit = true) ∧ Nat.ofDigitChars 10 digits 0 = n

/-- One more digit, as long as the value stays within the bound. -/
def pushDigit (bound acc : ℕ) (c : Char) : Option ℕ :=
  if c.isDigit ∧ 10 * acc + (c.toNat - '0'.toNat) ≤ bound then
    some (10 * acc + (c.toNat - '0'.toNat))
  else none

/-- What comes after the sign, if there is one. -/
def dropSign : List Char → List Char
  | '+' :: digits => digits
  | digits => digits

/-- Reads an unsigned number in decimal. -/
def parseUnsigned (bound : ℕ) (s : List Char) : Option ℕ :=
  let digits := dropSign s
  if digits = [] then none else digits.foldlM (pushDigit bound) 0

/-- Digits only add to a value. -/
theorem le_ofDigitChars (digits : List Char) (acc : ℕ) :
    acc ≤ Nat.ofDigitChars 10 digits acc := by
  induction digits generalizing acc with
  | nil => simp
  | cons c digits ih =>
    rw [Nat.ofDigitChars_cons]
    have hrest := ih (10 * acc + (c.toNat - '0'.toNat))
    omega

/-- **Reading digits checks each of them, and the bound at the end.** -/
theorem foldlM_pushDigit {bound acc n : ℕ} {digits : List Char} (hacc : acc ≤ bound) :
    digits.foldlM (pushDigit bound) acc = some n ↔
      (∀ c ∈ digits, c.isDigit = true) ∧ Nat.ofDigitChars 10 digits acc = n ∧ n ≤ bound := by
  induction digits generalizing acc with
  | nil =>
    rw [List.foldlM_nil, Nat.ofDigitChars_nil]
    constructor
    · intro h
      obtain rfl := Option.some.inj h
      exact ⟨fun c hc => absurd hc List.not_mem_nil, rfl, hacc⟩
    · rintro ⟨-, rfl, -⟩
      rfl
  | cons c digits ih =>
    have hle := le_ofDigitChars digits (10 * acc + (c.toNat - '0'.toNat))
    rw [List.foldlM_cons, pushDigit, Nat.ofDigitChars_cons, List.forall_mem_cons]
    split
    · next h =>
      rw [Option.bind_eq_bind, Option.bind_some, ih h.2, and_assoc]
      exact ⟨fun hrest => ⟨h.1, hrest⟩, fun hrest => hrest.2⟩
    · next h =>
      -- the value is out of bounds from here on
      refine ⟨fun hc => absurd hc (by simp), ?_⟩
      rintro ⟨⟨hc, -⟩, rfl, hbound⟩
      exact absurd ⟨hc, Nat.le_trans hle hbound⟩ h

/-- A numeral is what is left of it without its sign: a sign is not a digit. -/
theorem numeral_iff {s : List Char} {n : ℕ} :
    Numeral s n ↔ dropSign s ≠ [] ∧ (∀ c ∈ dropSign s, c.isDigit = true) ∧
      Nat.ofDigitChars 10 (dropSign s) 0 = n := by
  unfold dropSign
  split
  · next digits =>
    refine ⟨?_, fun h => ⟨digits, Or.inr rfl, h⟩⟩
    rintro ⟨digits', hs | hs, h⟩
    · exact absurd (h.2.1 '+' (hs ▸ List.mem_cons_self)) (by decide)
    · exact (List.cons.inj hs).2 ▸ h
  · next hplus =>
    refine ⟨?_, fun h => ⟨s, Or.inl rfl, h⟩⟩
    rintro ⟨digits, hs | hs, h⟩
    · exact hs ▸ h
    · exact (hplus digits hs).elim

/-- **The numerals that are read.** -/
theorem parseUnsigned_eq_some {bound n : ℕ} {s : List Char} :
    parseUnsigned bound s = some n ↔ Numeral s n ∧ n ≤ bound := by
  rw [parseUnsigned, numeral_iff]
  split
  · next hnil => exact ⟨fun h => absurd h (by simp), fun h => absurd hnil h.1.1⟩
  · next hnil => rw [foldlM_pushDigit (Nat.zero_le bound), and_iff_right hnil, and_assoc]

/-- A numeral is written with digits and a sign. -/
theorem Numeral.notMem {s : List Char} {n : ℕ} (h : Numeral s n) {c : Char}
    (hc : (c.isDigit || c == '+') = false) : c ∉ s := by
  obtain ⟨hdigit, hsign⟩ := Bool.or_eq_false_iff.mp hc
  obtain ⟨digits, rfl | rfl, -, hall, -⟩ := h
  · exact fun hmem => absurd (hall c hmem) (by simp [hdigit])
  · intro hmem
    rcases List.mem_cons.mp hmem with rfl | hmem
    · exact beq_eq_false_iff_ne.mp hsign rfl
    · exact absurd (hall c hmem) (by simp [hdigit])

theorem Numeral.ne_nil {s : List Char} {n : ℕ} (h : Numeral s n) : s ≠ [] := by
  obtain ⟨digits, rfl | rfl, hne, -⟩ := h
  · exact hne
  · exact List.cons_ne_nil _ _

/-- A number is written with digits. -/
theorem isDigit_of_mem_toDigits {n : ℕ} {c : Char} (hc : c ∈ Nat.toDigits 10 n) :
    c.isDigit = true :=
  Nat.isDigit_of_mem_toDigits (by decide) le_rfl hc

/-- **A number is read back from what it is written as.** -/
theorem numeral_toDigits (n : ℕ) : Numeral (Nat.toDigits 10 n) n :=
  ⟨Nat.toDigits 10 n, Or.inl rfl, Nat.toDigits_ne_nil, fun _ => isDigit_of_mem_toDigits,
    Nat.ofDigitChars_ten_toDigits⟩

/-! ### Writing a list -/

/-- A loop that writes a comma before each element but the first. -/
def writeList {α : Type*} (write : String → α → String) (out : String) (l : List α) : String :=
  l.zipIdx.foldl (fun out (a, i) => write (if i > 0 then out ++ "," else out) a) out

/-- **What such a loop writes**: the elements with a comma between any two. -/
theorem writeList_eq {α : Type*} {write : String → α → String} {f : α → String}
    (h : ∀ out a, write out a = out ++ f a) (out : String) (l : List α) :
    writeList write out l = out ++ ",".intercalate (l.map f) := by
  -- after the first element, every one comes with its comma
  have htail : ∀ (l : List α) (a : α) (out : String) (n : ℕ),
      (l.zipIdx (n + 1)).foldl (fun out (a, i) => write (if i > 0 then out ++ "," else out) a)
        (out ++ f a) = out ++ ",".intercalate ((a :: l).map f) := by
    intro l
    induction l with
    | nil => simp
    | cons b l ih =>
      intro a out n
      rw [List.zipIdx_cons, List.foldl_cons]
      dsimp only
      rw [if_pos (Nat.succ_pos n), h, ih b (out ++ f a ++ ",") (n + 1)]
      simp only [List.map_cons, String.intercalate_cons_cons, String.append_assoc]
  rcases l with _ | ⟨a, l⟩
  · simp [writeList]
  · rw [writeList, List.zipIdx_cons, List.foldl_cons]
    dsimp only
    rw [if_neg (Nat.lt_irrefl 0), h]
    exact htail l a out 0

end Text
