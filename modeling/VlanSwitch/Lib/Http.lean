import Mathlib.Data.UInt
import VlanSwitch.Lib.Text

/-!
# Messages framed by their length

A message is a start line, fields, an empty line, and a body that is as long as the field
`Content-Length` says. This file has a reader for such messages (`Http.readMessage`), the
way a client reads what a server sends: lines up to the first empty one, the fields out of
all but the first of them, and then exactly as many bytes as were announced. What a
message is written as (`Http.Message.print`) is read back as the message, with whatever
follows it left over (`Http.readMessage_print`), whatever bytes the body holds: line ends
in a body are not taken for the end of the head, since the reader has stopped looking for
lines by then.
-/

namespace Http

/-- A message. -/
structure Message where
  start : List UInt8
  fields : List (List UInt8 × List UInt8)
  body : List UInt8
  deriving DecidableEq

/-! ### Reading -/

/-- Takes off a line, which ends at the first CR LF. -/
def readLine : List UInt8 → Option (List UInt8 × List UInt8)
  | [] => none
  | 13 :: 10 :: s => some ([], s)
  | b :: s => (readLine s).map fun (line, rest) => (b :: line, rest)

/-- Takes off the lines up to the first empty one, `n` at most. -/
def readHead : ℕ → List UInt8 → Option (List (List UInt8) × List UInt8)
  | 0, _ => none
  | n + 1, s =>
    match readLine s with
    | none => none
    | some ([], rest) => some ([], rest)
    | some (line, rest) => (readHead n rest).map fun (lines, rest) => (line :: lines, rest)

/-- A field is a name, a colon, and a value, perhaps after blanks. -/
def readField (line : List UInt8) : Option (List UInt8 × List UInt8) :=
  (Text.splitOnce 58 line).map fun (name, value) => (name, value.dropWhile fun b => b = 32)

/-- A letter is the same in either case. -/
def toLower (b : UInt8) : UInt8 := if 65 ≤ b ∧ b ≤ 90 then b + 32 else b

/-- `content-length` -/
def contentLengthName : List UInt8 :=
  [99, 111, 110, 116, 101, 110, 116, 45, 108, 101, 110, 103, 116, 104]

/-- How long the body is, as the first field of that name says. -/
def contentLength (bound : ℕ) (fields : List (List UInt8 × List UInt8)) : Option ℕ :=
  (fields.find? fun f => f.1.map toLower = contentLengthName).bind fun f =>
    Text.parseUnsigned bound (f.2.map fun b => Char.ofNat b.toNat)

/-- Reads a message, and returns what follows it. -/
def readMessage (s : List UInt8) : Option (Message × List UInt8) := do
  let (lines, rest) ← readHead s.length s
  match lines with
  | [] => none
  | start :: lines =>
    let fields ← lines.mapM readField
    let n ← contentLength rest.length fields
    some (⟨start, fields, rest.take n⟩, rest.drop n)

/-! ### Writing -/

/-- What a field is written as. -/
def printField (f : List UInt8 × List UInt8) : List UInt8 := f.1 ++ 58 :: 32 :: f.2

/-- What lines are written as. -/
def printLines (lines : List (List UInt8)) : List UInt8 := lines.flatMap fun l => l ++ [13, 10]

/-- What a message is written as. -/
def Message.print (m : Message) : List UInt8 :=
  printLines (m.start :: m.fields.map printField) ++ 13 :: 10 :: m.body

/-- Lines hold no CR, names no colon, values do not begin with a blank, and the length is
that of the body. -/
structure Message.WellFormed (m : Message) : Prop where
  start_ne : m.start ≠ []
  start : 13 ∉ m.start
  names : ∀ f ∈ m.fields, 58 ∉ f.1 ∧ 13 ∉ f.1
  values : ∀ f ∈ m.fields, 13 ∉ f.2 ∧ f.2.head? ≠ some 32
  length : ∀ bound, m.body.length ≤ bound → contentLength bound m.fields = some m.body.length

theorem readLine_cons {b : UInt8} (h : b ≠ 13) (s : List UInt8) :
    readLine (b :: s) = (readLine s).map fun (line, rest) => (b :: line, rest) := by
  rw [readLine]
  intro s' hb
  exact absurd hb h

/-- **A line is read back.** -/
theorem readLine_append {line : List UInt8} (h : 13 ∉ line) (s : List UInt8) :
    readLine (line ++ 13 :: 10 :: s) = some (line, s) := by
  induction line with
  | nil => rfl
  | cons b line ih =>
    have hb : b ≠ 13 := fun heq => h (heq ▸ List.mem_cons_self)
    have hline : 13 ∉ line := fun hmem => h (List.mem_cons_of_mem _ hmem)
    rw [List.cons_append, readLine_cons hb, ih hline]
    rfl

/-- **A head is read back**, if there is room for its lines and the empty one. -/
theorem readHead_print {lines : List (List UInt8)} (hne : ∀ l ∈ lines, l ≠ [] ∧ 13 ∉ l) {n : ℕ}
    (hn : lines.length < n) (s : List UInt8) :
    readHead n (printLines lines ++ 13 :: 10 :: s) = some (lines, s) := by
  induction lines generalizing n with
  | nil =>
    obtain ⟨n, rfl⟩ := Nat.exists_eq_succ_of_ne_zero (Nat.pos_iff_ne_zero.mp hn)
    rfl
  | cons line lines ih =>
    rw [List.length_cons] at hn
    obtain ⟨n, rfl⟩ := Nat.exists_eq_succ_of_ne_zero (show n ≠ 0 by omega)
    rw [List.forall_mem_cons] at hne
    have hline := readLine_append hne.1.2 (printLines lines ++ 13 :: 10 :: s)
    have hprint : printLines (line :: lines) ++ 13 :: 10 :: s =
        line ++ 13 :: 10 :: (printLines lines ++ 13 :: 10 :: s) := by
      simp [printLines, List.append_assoc]
    rcases line with _ | ⟨b, line⟩
    · exact absurd rfl hne.1.1
    · rw [hprint, readHead, hline]
      dsimp only
      rw [ih hne.2 (show lines.length < n by omega)]
      rfl

/-- **A field is read back.** -/
theorem readField_print {f : List UInt8 × List UInt8} (hname : 58 ∉ f.1)
    (hvalue : f.2.head? ≠ some 32) : readField (printField f) = some f := by
  obtain ⟨name, value⟩ := f
  have hsplit : Text.splitOnce 58 (printField (name, value)) = some (name, 32 :: value) :=
    Text.splitOnce_eq_some.mpr ⟨hname, rfl⟩
  have hdrop : (32 :: value).dropWhile (fun b => decide (b = 32)) = value := by
    rw [List.dropWhile_cons_of_pos (by decide)]
    rcases value with _ | ⟨b, value⟩
    · rfl
    · have hb : b ≠ 32 := fun h => hvalue (congrArg some h)
      rw [List.dropWhile_cons_of_neg (by simpa using hb)]
  rw [readField, hsplit, Option.map_some]
  exact congrArg (fun v => some (name, v)) hdrop

theorem mapM_readField_print {fields : List (List UInt8 × List UInt8)}
    (hnames : ∀ f ∈ fields, 58 ∉ f.1) (hvalues : ∀ f ∈ fields, f.2.head? ≠ some 32) :
    (fields.map printField).mapM readField = some fields := by
  induction fields with
  | nil => rfl
  | cons f fields ih =>
    rw [List.forall_mem_cons] at hnames hvalues
    rw [List.map_cons, List.mapM_cons, readField_print hnames.1 hvalues.1, ih hnames.2 hvalues.2]
    rfl

/-- A line is no longer than what is written, so there is room for all of them. -/
theorem length_le_printLines (lines : List (List UInt8)) :
    lines.length ≤ (printLines lines).length := by
  induction lines with
  | nil => exact Nat.le_refl _
  | cons line lines ih =>
    rw [printLines, List.flatMap_cons, List.length_append, List.length_append, List.length_cons]
    rw [printLines] at ih
    have htwo : [(13 : UInt8), 10].length = 2 := rfl
    omega

/-- **A message is read back**, and what follows it is left over. -/
theorem readMessage_print {m : Message} (h : m.WellFormed) (tail : List UInt8) :
    readMessage (m.print ++ tail) = some (m, tail) := by
  obtain ⟨start, fields, body⟩ := m
  have hlines : ∀ l ∈ start :: fields.map printField, l ≠ [] ∧ 13 ∉ l := by
    rw [List.forall_mem_cons]
    refine ⟨⟨h.start_ne, h.start⟩, ?_⟩
    intro l hl
    obtain ⟨f, hf, rfl⟩ := List.mem_map.mp hl
    refine ⟨by simp [printField], ?_⟩
    have hname := (h.names f hf).2
    have hvalue := (h.values f hf).1
    simp [printField, hname, hvalue]
  have hread : (Message.print ⟨start, fields, body⟩) ++ tail =
      printLines (start :: fields.map printField) ++ 13 :: 10 :: (body ++ tail) := by
    simp [Message.print, List.append_assoc]
  have hroom : (start :: fields.map printField).length <
      (Message.print ⟨start, fields, body⟩ ++ tail).length := by
    have hle := length_le_printLines (start :: fields.map printField)
    rw [hread, List.length_append, List.length_cons (a := (13 : UInt8))]
    omega
  have hfields : (fields.map printField).mapM readField = some fields :=
    mapM_readField_print (fun f hf => (h.names f hf).1) fun f hf => (h.values f hf).2
  have hlength : contentLength (body ++ tail).length fields = some body.length :=
    h.length _ (by rw [List.length_append]; exact Nat.le_add_right _ _)
  have hhead : readHead (Message.print ⟨start, fields, body⟩ ++ tail).length
      (Message.print ⟨start, fields, body⟩ ++ tail) =
        some (start :: fields.map printField, body ++ tail) := by
    rw [hread] at hroom ⊢
    exact readHead_print hlines hroom (body ++ tail)
  rw [readMessage, hhead]
  simp only [Option.bind_eq_bind, Option.bind_some, hfields, hlength, List.take_left',
    List.drop_left']

end Http
