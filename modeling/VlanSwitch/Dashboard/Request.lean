import Mathlib.Data.UInt
import VlanSwitch.Lib.Segments

/-!
# The request line

The dashboard answers one request per connection, and of a request it looks at the first
line only. `VlanSwitch.readRequestLine` reads until it has a newline, until it has
`VlanSwitch.maxRequestLineLen` bytes, or until the client closes the connection; what it
returns is what it has before the first newline, as text. The three ways to stop compete
within a single read, which brings up to `VlanSwitch.chunkLen` bytes and is cut where the
network cuts it; `VlanSwitch.request_line_independent` says that the cuts do not matter
for any line the limit has room for.
-/

namespace VlanSwitch

/-- How much is buffered at most before a line is given up on. -/
def maxRequestLineLen : ℕ := 8192

/-- How much a single read brings at most. -/
def chunkLen : ℕ := 512

/-- `\n` -/
def newline : UInt8 := 10

/-! ### Text from bytes -/

/-- What stands for bytes that are not text. -/
def replacement : Char := '\uFFFD'

/-- A byte that continues a character. -/
def isContinuation (b : UInt8) : Bool := 0x80 ≤ b && b ≤ 0xBF

/-- The second byte of a character of three or four bytes: some are left out, since a
shorter form exists or the character does not. -/
def isSecond (first b : UInt8) : Bool :=
  if first = 0xE0 then 0xA0 ≤ b && b ≤ 0xBF
  else if first = 0xED then 0x80 ≤ b && b ≤ 0x9F
  else if first = 0xF0 then 0x90 ≤ b && b ≤ 0xBF
  else if first = 0xF4 then 0x80 ≤ b && b ≤ 0x8F
  else isContinuation b

/-- The character of a list of bytes, the first of which gives `bits`. -/
def assemble (bits : ℕ) (rest : List UInt8) : Char :=
  Char.ofNat (rest.foldl (fun n b => n * 64 + (b.toNat - 0x80)) bits)

/-- How many bytes the character takes that begins with this one. -/
def charWidth (first : UInt8) : ℕ :=
  if first < 0x80 then 1
  else if first < 0xC2 then 0
  else if first < 0xE0 then 2
  else if first < 0xF0 then 3
  else if first < 0xF5 then 4
  else 0

/-- The character that begins with `first`, and how many of the bytes that follow belong
to it. Of a sequence that breaks off, one replacement stands for what there is. -/
def nextChar (first : UInt8) (rest : List UInt8) : Char × ℕ :=
  match charWidth first, rest with
  | 1, _ => (Char.ofNat first.toNat, 0)
  | 2, b₁ :: _ =>
    if isContinuation b₁ then (assemble (first.toNat - 0xC0) [b₁], 1) else (replacement, 0)
  | 3, b₁ :: rest =>
    if isSecond first b₁ then
      match rest with
      | b₂ :: _ =>
        if isContinuation b₂ then (assemble (first.toNat - 0xE0) [b₁, b₂], 2)
        else (replacement, 1)
      | [] => (replacement, 1)
    else (replacement, 0)
  | 4, b₁ :: rest =>
    if isSecond first b₁ then
      match rest with
      | b₂ :: rest =>
        if isContinuation b₂ then
          match rest with
          | b₃ :: _ =>
            if isContinuation b₃ then (assemble (first.toNat - 0xF0) [b₁, b₂, b₃], 3)
            else (replacement, 2)
          | [] => (replacement, 2)
        else (replacement, 1)
      | [] => (replacement, 1)
    else (replacement, 0)
  | _, _ => (replacement, 0)

/-- The characters of a list of bytes, `skip` bytes of which belong to the last one. -/
def decodeLossy : ℕ → List UInt8 → List Char
  | _, [] => []
  | skip + 1, _ :: bytes => decodeLossy skip bytes
  | 0, first :: bytes => (nextChar first bytes).1 :: decodeLossy (nextChar first bytes).2 bytes

/-- `String::from_utf8_lossy`. -/
def fromUtf8Lossy (bytes : List UInt8) : String := String.ofList (decodeLossy 0 bytes)

example : fromUtf8Lossy [0x47, 0xC3, 0xA9, 0xE2, 0x82, 0x41, 0xFF] = "Gé\uFFFDA\uFFFD" := by
  decide

/-! ### Reading the line -/

/-- What a read returns: bytes, none at the end of the stream, or an error. -/
abbrev Read (ε : Type) := Except ε (List UInt8)

/-- There is a newline, or too much without one. -/
def LineBuffered (buf : List UInt8) : Prop := newline ∈ buf ∨ maxRequestLineLen ≤ buf.length

instance : DecidablePred LineBuffered := fun _ => inferInstanceAs (Decidable (_ ∨ _))

/-- The loop of `readRequestLine`: the buffer it ends with. After the last read the
stream is at its end. -/
def bufferRequestLine {ε : Type} (buf : List UInt8) : List (Read ε) → Except ε (List UInt8)
  | [] => .ok buf
  | read :: reads =>
    if LineBuffered buf then .ok buf
    else
      match read with
      | .error e => .error e
      | .ok chunk =>
        -- the client closed the connection
        if chunk.length = 0 then .ok buf
        else bufferRequestLine (buf ++ chunk) reads

/-- What comes before the first newline. -/
def firstLine (buf : List UInt8) : List UInt8 := (buf.splitOn newline).headD []

/-- Reads the request line. -/
def readRequestLine {ε : Type} (reads : List (Read ε)) : Except ε String := do
  let buf ← bufferRequestLine [] reads
  pure (fromUtf8Lossy (firstLine buf))

/-- Without errors, the loop collects what is read. -/
theorem bufferRequestLine_ok {ε : Type} {reads : List (List UInt8)} (h : ∀ r ∈ reads, r ≠ [])
    (buf : List UInt8) :
    bufferRequestLine buf (reads.map (Except.ok : _ → Read ε)) =
      .ok (Segments.collect LineBuffered buf reads) := by
  induction reads generalizing buf with
  | nil => rfl
  | cons r reads ih =>
    rw [List.forall_mem_cons] at h
    rw [List.map_cons, bufferRequestLine, Segments.collect]
    split
    · rfl
    · rw [if_neg fun hc => h.1 (List.length_eq_zero_iff.mp hc)]
      exact ih h.2 _

/-- The first newline of a stream is at `i`. -/
def FirstNewline (stream : List UInt8) (i : ℕ) : Prop :=
  stream[i]? = some newline ∧ newline ∉ stream.take i

/-- A newline among the first `n` bytes is preceded by the first one. -/
theorem exists_firstNewline {stream : List UInt8} {n : ℕ} (h : newline ∈ stream.take n) :
    ∃ i < n, FirstNewline stream i := by
  obtain ⟨line, rest, hsplit, hline⟩ := List.eq_append_cons_of_mem h
  have hlt : line.length < n := by
    have hlen := congrArg List.length hsplit
    rw [List.length_take, List.length_append, List.length_cons] at hlen
    omega
  obtain ⟨rest', hrest'⟩ := List.take_prefix n stream
  rw [hsplit, List.append_assoc] at hrest'
  refine ⟨line.length, hlt, ?_, ?_⟩
  · rw [← hrest', List.getElem?_append_right le_rfl, Nat.sub_self]
    rfl
  · rw [← hrest', List.take_left]
    exact hline

theorem firstLine_of_notMem {buf : List UInt8} (h : newline ∉ buf) : firstLine buf = buf := by
  rw [firstLine, List.splitOn_eq_singleton h, List.headD_cons]

theorem firstLine_append {line : List UInt8} (h : newline ∉ line) (rest : List UInt8) :
    firstLine (line ++ newline :: rest) = line := by
  rw [firstLine, List.splitOn_append_cons_self_of_not_mem h, List.headD_cons]

theorem FirstNewline.firstLine_eq {buf : List UInt8} {i : ℕ} (h : FirstNewline buf i) :
    firstLine buf = buf.take i := by
  obtain ⟨hi, hget⟩ := List.getElem?_eq_some_iff.mp h.1
  have hsplit : buf.take i ++ newline :: buf.drop (i + 1) = buf := by
    rw [← hget, List.getElem_cons_drop, List.take_append_drop]
  rw [← hsplit, firstLine_append h.2, hsplit]

/-- The first line is a prefix without a newline, and not a short one unless there is a
newline early on. -/
theorem firstLine_prefix (buf : List UInt8) :
    firstLine buf <+: buf ∧ newline ∉ firstLine buf ∧
      ∀ n ≤ buf.length, newline ∉ buf.take n → n ≤ (firstLine buf).length := by
  by_cases hmem : newline ∈ buf
  · obtain ⟨line, rest, hbuf, hline⟩ := List.eq_append_cons_of_mem hmem
    rw [hbuf, firstLine_append hline]
    refine ⟨List.prefix_append _ _, hline, fun n hn hnot => ?_⟩
    by_contra hlt
    -- the newline is among the first `n`
    have hto : line ++ [newline] <+: (line ++ newline :: rest).take n := by
      refine List.prefix_take_iff.mpr ⟨⟨rest, by simp⟩, ?_⟩
      rw [List.length_append, List.length_singleton]
      omega
    exact hnot (hto.subset (List.mem_append_right _ (List.mem_singleton_self _)))
  · rw [firstLine_of_notMem hmem]
    exact ⟨List.prefix_rfl, hmem, fun n hn _ => hn⟩

/-- A stream, cut into the pieces in which it is read. -/
structure CutOf (stream : List UInt8) (reads : List (List UInt8)) : Prop where
  flatten_eq : reads.flatten = stream
  size : ∀ r ∈ reads, r ≠ [] ∧ r.length ≤ chunkLen

/-- A connection on which no read fails. -/
def clean (ε : Type) (reads : List (List UInt8)) : List (Read ε) := reads.map .ok

section Cut

variable {ε : Type} {stream : List UInt8} {reads : List (List UInt8)}

variable (ε) in
/-- **What is buffered**: a prefix of the stream, all of it unless the line is buffered,
and not much too much. -/
theorem CutOf.exists_buffer (h : CutOf stream reads) :
    ∃ buf, bufferRequestLine [] (clean ε reads) = .ok buf ∧ buf <+: stream ∧
      (LineBuffered buf ∨ buf = stream) ∧ buf.length < maxRequestLineLen + chunkLen := by
  have hpre := Segments.collect_prefix LineBuffered [] reads
  have hfull := Segments.collect_full LineBuffered [] reads
  rw [List.nil_append, h.flatten_eq] at hpre hfull
  refine ⟨_, bufferRequestLine_ok (fun r hr => (h.size r hr).1) [], hpre, hfull, ?_⟩
  refine Segments.length_collect_lt (fun _ => Or.inr) (fun r hr => (h.size r hr).2) ?_
  decide

/-- The buffer gives the line. -/
theorem readRequestLine_of_buffer {reads : List (Read ε)} {buf : List UInt8}
    (h : bufferRequestLine [] reads = .ok buf) :
    readRequestLine reads = .ok (fromUtf8Lossy (firstLine buf)) := by
  rw [readRequestLine, h]
  rfl

/-- A line the limit has room for is returned as it is. -/
theorem CutOf.readRequestLine_of_first (h : CutOf stream reads) {i : ℕ}
    (hi : i < maxRequestLineLen) (hfirst : FirstNewline stream i) :
    readRequestLine (clean ε reads) = .ok (fromUtf8Lossy (stream.take i)) := by
  obtain ⟨buf, hbuf, ⟨rest, hrest⟩, hfull, -⟩ := h.exists_buffer ε
  -- the buffer reaches beyond the newline, whichever way the loop ended
  have hlt : i < buf.length := by
    by_contra hle
    have hsub : buf <+: stream.take i :=
      List.prefix_take_iff.mpr ⟨⟨rest, hrest⟩, Nat.le_of_not_lt hle⟩
    rcases hfull with (hmem | hlen) | rfl
    · exact hfirst.2 (hsub.subset hmem)
    · omega
    · obtain ⟨hi', -⟩ := List.getElem?_eq_some_iff.mp hfirst.1
      exact hle hi'
  have htake : stream.take i = buf.take i := by
    rw [← hrest, List.take_append_of_le_length hlt.le]
  have hbuffirst : FirstNewline buf i := by
    refine ⟨?_, htake ▸ hfirst.2⟩
    rw [← hfirst.1, ← hrest, List.getElem?_append_left hlt]
  rw [readRequestLine_of_buffer hbuf, hbuffirst.firstLine_eq, htake]

/-- A stream that ends before the limit, without a newline, is the line. -/
theorem CutOf.readRequestLine_of_short (h : CutOf stream reads) (hnone : newline ∉ stream)
    (hshort : stream.length < maxRequestLineLen) :
    readRequestLine (clean ε reads) = .ok (fromUtf8Lossy stream) := by
  obtain ⟨buf, hbuf, hpre, hfull, -⟩ := h.exists_buffer ε
  obtain rfl : buf = stream := by
    refine hfull.resolve_left ?_
    rintro (hmem | hlen)
    · exact hnone (hpre.subset hmem)
    · exact absurd (hlen.trans hpre.length_le) (Nat.not_le_of_lt hshort)
  rw [readRequestLine_of_buffer hbuf, firstLine_of_notMem hnone]

variable (ε) in
/-- **A line that is too long is cut off**, not too early and not much too late. -/
theorem CutOf.readRequestLine_of_long (h : CutOf stream reads)
    (hlong : maxRequestLineLen ≤ stream.length) (hnone : newline ∉ stream.take maxRequestLineLen) :
    ∃ line, readRequestLine (clean ε reads) = .ok (fromUtf8Lossy line) ∧ line <+: stream ∧
      newline ∉ line ∧ maxRequestLineLen ≤ line.length ∧
        line.length < maxRequestLineLen + chunkLen := by
  obtain ⟨buf, hbuf, hpre, hfull, hlen⟩ := h.exists_buffer ε
  obtain ⟨hline, hnot, hearly⟩ := firstLine_prefix buf
  -- a newline in the buffer is beyond the limit, so the buffer is that long in any case
  have hreach : maxRequestLineLen ≤ buf.length := by
    by_contra hlt
    rcases hfull with (hmem | hle) | rfl
    · have hsub : buf <+: stream.take maxRequestLineLen :=
        List.prefix_take_iff.mpr ⟨hpre, Nat.le_of_not_le hlt⟩
      exact hnone (hsub.subset hmem)
    · exact hlt hle
    · exact hlt hlong
  have htake : buf.take maxRequestLineLen = stream.take maxRequestLineLen := by
    obtain ⟨rest, rfl⟩ := hpre
    rw [List.take_append_of_le_length hreach]
  refine ⟨firstLine buf, readRequestLine_of_buffer hbuf, hline.trans hpre, hnot, ?_, ?_⟩
  · exact hearly _ hreach (htake ▸ hnone)
  · exact lt_of_le_of_lt hline.length_le hlen

end Cut

/-- **The request line does not depend on how the stream is cut.** A stream is read in
pieces of up to 512 bytes, cut anywhere, without errors. Reading ends with at most 8703
bytes buffered. If the first newline is at an index below 8192, the line is what comes
before it; if there is none, and the stream is shorter than that, the line is the
stream; in any other case it is a prefix of the stream without a newline, of 8192 to
8703 bytes. So any two cuts of a stream with a newline at an index below 8192 give the
same line. -/
theorem request_line_independent {ε : Type} {stream : List UInt8} {reads : List (List UInt8)}
    (h : CutOf stream reads) :
    (∃ buf, bufferRequestLine [] (clean ε reads) = .ok buf ∧ buf.length ≤ 8703) ∧
    (∀ i < 8192, FirstNewline stream i →
      readRequestLine (clean ε reads) = .ok (fromUtf8Lossy (stream.take i))) ∧
    (newline ∉ stream ∧ stream.length < 8192 →
      readRequestLine (clean ε reads) = .ok (fromUtf8Lossy stream)) ∧
    ((¬∃ i < 8192, FirstNewline stream i) → ¬(newline ∉ stream ∧ stream.length < 8192) →
      ∃ line, readRequestLine (clean ε reads) = .ok (fromUtf8Lossy line) ∧ line <+: stream ∧
        newline ∉ line ∧ 8192 ≤ line.length ∧ line.length ≤ 8703) ∧
    ∀ reads', CutOf stream reads' → (∃ i < 8192, FirstNewline stream i) →
      readRequestLine (clean ε reads') = readRequestLine (clean ε reads) := by
  refine ⟨?_, fun i hi hfirst => h.readRequestLine_of_first hi hfirst,
    fun hshort => h.readRequestLine_of_short hshort.1 hshort.2, fun hlate hlong => ?_, ?_⟩
  · obtain ⟨buf, hbuf, -, -, hlen⟩ := h.exists_buffer ε
    exact ⟨buf, hbuf, Nat.le_of_lt_succ hlen⟩
  · -- there is no newline early on
    have hnone : newline ∉ stream.take maxRequestLineLen :=
      fun hmem => hlate (exists_firstNewline hmem)
    have hreach : maxRequestLineLen ≤ stream.length := by
      by_contra hlt
      rw [List.take_of_length_le (Nat.le_of_not_le hlt)] at hnone
      exact hlong ⟨hnone, Nat.lt_of_not_le hlt⟩
    obtain ⟨line, hline, hpre, hnot, hge, hle⟩ := h.readRequestLine_of_long ε hreach hnone
    exact ⟨line, hline, hpre, hnot, hge, Nat.le_of_lt_succ hle⟩
  · rintro reads' h' ⟨i, hi, hfirst⟩
    rw [h.readRequestLine_of_first hi hfirst, h'.readRequestLine_of_first hi hfirst]

/-- A request in two pieces. -/
theorem request_line_independent_two :
    readRequestLine (clean Empty [[0x47, 0x45], [0x54, 0x0A, 0x78]]) = .ok "GET" := by
  have h := @request_line_independent Empty [0x47, 0x45, 0x54, 0x0A, 0x78]
    [[0x47, 0x45], [0x54, 0x0A, 0x78]] ⟨rfl, by decide⟩
  exact h.2.1 3 (by decide) ⟨rfl, by decide⟩

end VlanSwitch
