import VlanSwitch.Dashboard.Render
import VlanSwitch.Dashboard.Request
import VlanSwitch.Lib.Http

/-!
# The dashboard over HTTP

A connection sends one request and gets one response. Of the request only the first two
words of its first line count (`VlanSwitch.reply`), and the response is written out as one
text, with the length of its body in bytes (`VlanSwitch.formatResponse`); afterwards the
connection is read dry for a while, so that closing it does not take the response back
(`VlanSwitch.drainRequestBody`). A client that takes the response apart the way HTTP says
gets back exactly the status and the body (`VlanSwitch.readMessage_reply`), and
the text of the body with it, since what is encoded as UTF-8 is decoded as it was
(`VlanSwitch.fromUtf8Lossy_asBytes`). `VlanSwitch.http_exchange` puts this together, from
the bytes of the request, however they are cut, to the body of the response.
-/

namespace VlanSwitch

/-! ### Text as bytes -/

/-- `str::as_bytes`, in UTF-8. -/
def asBytes (s : String) : List UInt8 := s.toList.flatMap String.utf8EncodeChar

@[simp] theorem asBytes_append (s t : String) : asBytes (s ++ t) = asBytes s ++ asBytes t := by
  rw [asBytes, String.toList_append, List.flatMap_append, asBytes, asBytes]

theorem toNat_ofNat_of_lt {k : ℕ} (h : k < 256) : (UInt8.ofNat k).toNat = k :=
  UInt8.toNat_ofNat_of_lt' h

theorem charWidth_ofNat {k : ℕ} (h : k < 256) :
    charWidth (UInt8.ofNat k) = if k < 0x80 then 1 else if k < 0xC2 then 0 else
      if k < 0xE0 then 2 else if k < 0xF0 then 3 else if k < 0xF5 then 4 else 0 := by
  simp only [charWidth, UInt8.lt_iff_toNat_lt, toNat_ofNat_of_lt h]
  rfl

theorem isContinuation_ofNat {k : ℕ} (h : k < 256) :
    isContinuation (UInt8.ofNat k) = true ↔ 0x80 ≤ k ∧ k ≤ 0xBF := by
  simp only [isContinuation, UInt8.le_iff_toNat_le, toNat_ofNat_of_lt h, Bool.and_eq_true,
    decide_eq_true_eq]
  exact Iff.rfl

theorem isSecond_ofNat {j k : ℕ} (hj : j < 256) (h : k < 256) :
    isSecond (UInt8.ofNat j) (UInt8.ofNat k) = true ↔
      (if j = 0xE0 then 0xA0 else if j = 0xF0 then 0x90 else 0x80) ≤ k ∧
        k ≤ if j = 0xED then 0x9F else if j = 0xF4 then 0x8F else 0xBF := by
  have heq : ∀ m < 256, UInt8.ofNat j = UInt8.ofNat m ↔ j = m := by
    intro m hm
    rw [← UInt8.toNat_inj, toNat_ofNat_of_lt hj, toNat_ofNat_of_lt hm]
  have h₁ : UInt8.ofNat j = 0xE0 ↔ j = 0xE0 := heq 0xE0 (by omega)
  have h₂ : UInt8.ofNat j = 0xED ↔ j = 0xED := heq 0xED (by omega)
  have h₃ : UInt8.ofNat j = 0xF0 ↔ j = 0xF0 := heq 0xF0 (by omega)
  have h₄ : UInt8.ofNat j = 0xF4 ↔ j = 0xF4 := heq 0xF4 (by omega)
  simp only [isSecond, isContinuation, h₁, h₂, h₃, h₄, UInt8.le_iff_toNat_le, toNat_ofNat_of_lt h]
  split
  · simp [*]
  · split
    · simp [*]
    · split
      · simp [*]
      · split
        · simp [*]
        · simp [*]

/-! A character has one byte to four, by its code `v`. -/

theorem nextChar_one {v : ℕ} (h : v < 0x80) (rest : List UInt8) :
    nextChar (UInt8.ofNat v) rest = (Char.ofNat v, 0) := by
  have hwidth : charWidth (UInt8.ofNat v) = 1 := by
    rw [charWidth_ofNat (by omega), if_pos h]
  simp only [nextChar, hwidth, toNat_ofNat_of_lt (show v < 256 by omega)]

theorem nextChar_two {v : ℕ} (hlow : 0x80 ≤ v) (h : v < 0x800) (rest : List UInt8) :
    nextChar (UInt8.ofNat (v / 64 % 0x20 + 0xc0)) (UInt8.ofNat (v % 0x40 + 0x80) :: rest) =
      (Char.ofNat v, 1) := by
  have hwidth : charWidth (UInt8.ofNat (v / 64 % 0x20 + 0xc0)) = 2 := by
    rw [charWidth_ofNat (by omega), if_neg (by omega), if_neg (by omega), if_pos (by omega)]
  have hnext : isContinuation (UInt8.ofNat (v % 0x40 + 0x80)) = true :=
    (isContinuation_ofNat (by omega)).mpr (by omega)
  have hcode : (v / 64 % 0x20 + 0xc0 - 0xC0) * 64 + (v % 0x40 + 0x80 - 0x80) = v := by omega
  simp only [nextChar, hwidth, if_pos hnext, assemble, List.foldl_cons, List.foldl_nil,
    toNat_ofNat_of_lt (show v / 64 % 0x20 + 0xc0 < 256 by omega),
    toNat_ofNat_of_lt (show v % 0x40 + 0x80 < 256 by omega), hcode]

/-- The codes of the surrogates are the ones that the second byte rules out. -/
theorem nextChar_three {v : ℕ} (hlow : 0x800 ≤ v) (h : v < 0x10000)
    (hvalid : v < 0xD800 ∨ 0xDFFF < v) (rest : List UInt8) :
    nextChar (UInt8.ofNat (v / 4096 % 0x10 + 0xe0))
        (UInt8.ofNat (v / 64 % 0x40 + 0x80) :: UInt8.ofNat (v % 0x40 + 0x80) :: rest) =
      (Char.ofNat v, 2) := by
  have hwidth : charWidth (UInt8.ofNat (v / 4096 % 0x10 + 0xe0)) = 3 := by
    rw [charWidth_ofNat (by omega), if_neg (by omega), if_neg (by omega), if_neg (by omega),
      if_pos (by omega)]
  have hsecond : isSecond (UInt8.ofNat (v / 4096 % 0x10 + 0xe0))
      (UInt8.ofNat (v / 64 % 0x40 + 0x80)) = true := by
    refine (isSecond_ofNat (by omega) (by omega)).mpr ⟨?_, ?_⟩
    · split <;> [skip; split] <;> omega
    · split <;> [skip; split] <;> omega
  have hnext : isContinuation (UInt8.ofNat (v % 0x40 + 0x80)) = true :=
    (isContinuation_ofNat (by omega)).mpr (by omega)
  have hcode : ((v / 4096 % 0x10 + 0xe0 - 0xE0) * 64 + (v / 64 % 0x40 + 0x80 - 0x80)) * 64 +
      (v % 0x40 + 0x80 - 0x80) = v := by omega
  simp only [nextChar, hwidth, if_pos hsecond, if_pos hnext, assemble, List.foldl_cons,
    List.foldl_nil, toNat_ofNat_of_lt (show v / 4096 % 0x10 + 0xe0 < 256 by omega),
    toNat_ofNat_of_lt (show v / 64 % 0x40 + 0x80 < 256 by omega),
    toNat_ofNat_of_lt (show v % 0x40 + 0x80 < 256 by omega), hcode]

theorem nextChar_four {v : ℕ} (hlow : 0x10000 ≤ v) (h : v < 0x110000) (rest : List UInt8) :
    nextChar (UInt8.ofNat (v / 262144 % 0x08 + 0xf0))
        (UInt8.ofNat (v / 4096 % 0x40 + 0x80) :: UInt8.ofNat (v / 64 % 0x40 + 0x80) ::
          UInt8.ofNat (v % 0x40 + 0x80) :: rest) = (Char.ofNat v, 3) := by
  have hwidth : charWidth (UInt8.ofNat (v / 262144 % 0x08 + 0xf0)) = 4 := by
    rw [charWidth_ofNat (by omega), if_neg (by omega), if_neg (by omega), if_neg (by omega),
      if_neg (by omega), if_pos (by omega)]
  have hsecond : isSecond (UInt8.ofNat (v / 262144 % 0x08 + 0xf0))
      (UInt8.ofNat (v / 4096 % 0x40 + 0x80)) = true := by
    refine (isSecond_ofNat (by omega) (by omega)).mpr ⟨?_, ?_⟩
    · split <;> [skip; split] <;> omega
    · split <;> [skip; split] <;> omega
  have hthird : isContinuation (UInt8.ofNat (v / 64 % 0x40 + 0x80)) = true :=
    (isContinuation_ofNat (by omega)).mpr (by omega)
  have hnext : isContinuation (UInt8.ofNat (v % 0x40 + 0x80)) = true :=
    (isContinuation_ofNat (by omega)).mpr (by omega)
  have hcode : (((v / 262144 % 0x08 + 0xf0 - 0xF0) * 64 +
      (v / 4096 % 0x40 + 0x80 - 0x80)) * 64 + (v / 64 % 0x40 + 0x80 - 0x80)) * 64 +
      (v % 0x40 + 0x80 - 0x80) = v := by omega
  simp only [nextChar, hwidth, if_pos hsecond, if_pos hthird, if_pos hnext, assemble,
    List.foldl_cons, List.foldl_nil,
    toNat_ofNat_of_lt (show v / 262144 % 0x08 + 0xf0 < 256 by omega),
    toNat_ofNat_of_lt (show v / 4096 % 0x40 + 0x80 < 256 by omega),
    toNat_ofNat_of_lt (show v / 64 % 0x40 + 0x80 < 256 by omega),
    toNat_ofNat_of_lt (show v % 0x40 + 0x80 < 256 by omega), hcode]

/-- The bytes of a character, by its code. -/
theorem nextChar_encode (c : Char) (rest : List UInt8) :
    ∃ b bs, String.utf8EncodeChar c = b :: bs ∧ nextChar b (bs ++ rest) = (c, bs.length) := by
  have hvalid : c.val.toNat < 0xD800 ∨ 0xDFFF < c.val.toNat ∧ c.val.toNat < 0x110000 := c.valid
  have hc : Char.ofNat c.val.toNat = c := Char.ofNat_toNat c
  rw [String.utf8EncodeChar]
  generalize c.val.toNat = v at hvalid hc
  subst hc
  split
  · exact ⟨_, _, rfl, nextChar_one (by omega) rest⟩
  · split
    · exact ⟨_, _, rfl, nextChar_two (by omega) (by omega) rest⟩
    · split
      · exact ⟨_, _, rfl, nextChar_three (by omega) (by omega) (by omega) rest⟩
      · exact ⟨_, _, rfl, nextChar_four (by omega) (by omega) rest⟩

/-- The bytes that belong to the last character are skipped. -/
theorem decodeLossy_append (bs rest : List UInt8) :
    decodeLossy bs.length (bs ++ rest) = decodeLossy 0 rest := by
  induction bs with
  | nil => rfl
  | cons b bs ih => exact ih

/-- **What was encoded is decoded as it was.** -/
theorem fromUtf8Lossy_asBytes (s : String) : fromUtf8Lossy (asBytes s) = s := by
  have hdecode : ∀ cs : List Char, decodeLossy 0 (cs.flatMap String.utf8EncodeChar) = cs := by
    intro cs
    induction cs with
    | nil => rfl
    | cons c cs ih =>
      obtain ⟨b, bs, hencode, hnext⟩ :=
        nextChar_encode c (cs.flatMap String.utf8EncodeChar)
      rw [List.flatMap_cons, hencode, List.cons_append, decodeLossy, hnext, decodeLossy_append, ih]
  rw [fromUtf8Lossy, asBytes, hdecode, String.ofList_toList]

/-! ### Requests and responses -/

/-- The characters Unicode counts as white space. -/
def isWhitespace (c : Char) : Bool :=
  let n := c.toNat
  (9 ≤ n && n ≤ 13) || n == 0x20 || n == 0x85 || n == 0xA0 || n == 0x1680 ||
    (0x2000 ≤ n && n ≤ 0x200A) || n == 0x2028 || n == 0x2029 || n == 0x202F || n == 0x205F ||
    n == 0x3000

/-- `str::split_whitespace`: the words of a text. -/
def splitWhitespace (s : String) : List String :=
  ((s.toList.splitOnP isWhitespace).filter fun word => word ≠ []).map String.ofList

/-- The method and the path of a request, empty if they are missing. -/
def requestWords (line : String) : String × String :=
  ((splitWhitespace line).getD 0 "", (splitWhitespace line).getD 1 "")

/-- What is said when the loop does not answer. -/
def serverError : String × String × String :=
  ("500 Internal Server Error", "text/plain", "daemon unavailable")

/-- The status, the content type and the body of the response. `page` is the page that is
served, and `counters` what the loop answers if it is asked. -/
def reply (page : String) (counters : Option String) : String × String → String × String × String
  | ("GET", "/") => ("200 OK", "text/html; charset=utf-8", page)
  | ("GET", "/api/counters") =>
    match counters with
    | some json => ("200 OK", "application/json", json)
    | none => serverError
  | ("GET", _) => ("404 Not Found", "text/plain", "not found")
  | _ => ("405 Method Not Allowed", "text/plain", "GET only")

/-- The text of a response. -/
def formatResponse (status contentType body : String) : String :=
  "HTTP/1.1 " ++ status ++ "\r\nContent-Type: " ++ contentType ++ "\r\nContent-Length: " ++
    (asBytes body).length.repr ++ "\r\nConnection: close\r\n\r\n" ++ body

/-- How much is read and thrown away after the response. -/
def drainMaxBytes : ℕ := 64 * 1024

/-- How much a read brings then, at most. -/
def drainChunkLen : ℕ := 4096

/-- Reads on and throws away what comes, until there is enough, or nothing more, or an
error; running out of time is one. -/
def drainRequestBody {ε : Type} (drained : ℕ) : List (Read ε) → ℕ
  | [] => drained
  | read :: reads =>
    if drained < drainMaxBytes then
      match read with
      | .ok chunk => if 0 < chunk.length then drainRequestBody (drained + chunk.length) reads
          else drained
      | .error _ => drained
    else drained

/-- What becomes of a connection. -/
structure Handled where
  response : List UInt8
  drained : ℕ
  deriving DecidableEq

/-- Handles a connection: the reads for the request line, and those after the response. If
the first fail, or take too long, there is no response. -/
def handleConnection {ε : Type} (page : String) (counters : Option String)
    (reads later : List (Read ε)) : Except ε Handled := do
  let line ← readRequestLine reads
  let (status, contentType, body) := reply page counters (requestWords line)
  pure { response := asBytes (formatResponse status contentType body)
         drained := drainRequestBody 0 later }

/-! ### What a client reads -/

/-- A digit is one byte, between 48 and 57. -/
theorem encode_of_isDigit {c : Char} (h : c.isDigit = true) :
    String.utf8EncodeChar c = [UInt8.ofNat c.toNat] ∧ 48 ≤ c.toNat ∧ c.toNat ≤ 57 := by
  have hrange : 48 ≤ c.toNat ∧ c.toNat ≤ 57 := by
    simpa [Char.isDigit, UInt32.le_iff_toNat_le] using h
  refine ⟨?_, hrange⟩
  have hle : c.val.toNat ≤ 0x7f := by
    have hval : c.val.toNat = c.toNat := rfl
    omega
  rw [String.utf8EncodeChar, if_pos hle]
  rfl

/-- Digits are read as the characters they are. -/
theorem map_encode_digits {cs : List Char} (h : ∀ c ∈ cs, c.isDigit = true) :
    (cs.flatMap String.utf8EncodeChar).map (fun b => Char.ofNat b.toNat) = cs := by
  induction cs with
  | nil => rfl
  | cons c cs ih =>
    rw [List.forall_mem_cons] at h
    obtain ⟨hencode, hlow, hhigh⟩ := encode_of_isDigit h.1
    rw [List.flatMap_cons, hencode, List.map_append, ih h.2, List.map_singleton,
      toNat_ofNat_of_lt (by omega), Char.ofNat_toNat, List.singleton_append]

/-- The bytes of digits are digits. -/
theorem range_of_mem_encode_digits {cs : List Char} (h : ∀ c ∈ cs, c.isDigit = true) {b : UInt8}
    (hb : b ∈ cs.flatMap String.utf8EncodeChar) : 48 ≤ b.toNat ∧ b.toNat ≤ 57 := by
  obtain ⟨c, hc, hb⟩ := List.mem_flatMap.mp hb
  obtain ⟨hencode, hlow, hhigh⟩ := encode_of_isDigit (h c hc)
  rw [hencode, List.mem_singleton] at hb
  rw [hb, toNat_ofNat_of_lt (by omega)]
  exact ⟨hlow, hhigh⟩

/-- The message a response is. -/
def responseMessage (status contentType body : String) : Http.Message where
  start := asBytes "HTTP/1.1 " ++ asBytes status
  fields := [(asBytes "Content-Type", asBytes contentType),
    (asBytes "Content-Length", asBytes (asBytes body).length.repr),
    (asBytes "Connection", asBytes "close")]
  body := asBytes body

/-- **The text of a response is that of its message.** -/
theorem asBytes_formatResponse (status contentType body : String) :
    asBytes (formatResponse status contentType body) =
      (responseMessage status contentType body).print := by
  have htype : asBytes "\r\nContent-Type: " = 13 :: 10 :: (asBytes "Content-Type" ++ [58, 32]) := by
    decide
  have hlength : asBytes "\r\nContent-Length: " =
      13 :: 10 :: (asBytes "Content-Length" ++ [58, 32]) := by decide
  have hclose : asBytes "\r\nConnection: close\r\n\r\n" =
      13 :: 10 :: (asBytes "Connection" ++ 58 :: 32 :: (asBytes "close" ++ [13, 10, 13, 10])) := by
    decide
  simp only [formatResponse, asBytes_append, htype, hlength, hclose, responseMessage,
    Http.Message.print, Http.printLines, Http.printField, List.map_cons, List.map_nil,
    List.flatMap_cons, List.flatMap_nil, List.append_assoc, List.cons_append, List.nil_append]

/-- A status or a content type that fits on a line. -/
def FitsLine (s : String) : Prop := 13 ∉ asBytes s ∧ (asBytes s).head? ≠ some 32

instance (s : String) : Decidable (FitsLine s) := inferInstanceAs (Decidable (_ ∧ _))

/-- **A response is well formed**, whatever its body. -/
theorem wellFormed_responseMessage {status contentType : String} (hstatus : FitsLine status)
    (htype : FitsLine contentType) (body : String) :
    (responseMessage status contentType body).WellFormed := by
  have hdigits : ∀ c ∈ (asBytes body).length.repr.toList, c.isDigit = true := by
    rw [Nat.toList_repr]
    exact fun c hc => Text.isDigit_of_mem_toDigits hc
  have hrange : ∀ b ∈ asBytes (asBytes body).length.repr, 48 ≤ b.toNat ∧ b.toNat ≤ 57 :=
    fun b hb => range_of_mem_encode_digits hdigits hb
  have hnumber : 13 ∉ asBytes (asBytes body).length.repr ∧
      (asBytes (asBytes body).length.repr).head? ≠ some 32 := by
    refine ⟨fun h => ?_, fun h => ?_⟩
    · exact absurd (hrange 13 h).1 (by decide)
    · exact absurd (hrange 32 (List.mem_of_head? h)).1 (by decide)
  refine ⟨by simp [responseMessage, asBytes], ?_, ?_, ?_, ?_⟩
  · rw [responseMessage, List.mem_append, not_or]
    exact ⟨by decide, hstatus.1⟩
  · simp only [responseMessage, List.forall_mem_cons]
    exact ⟨by decide, by decide, by decide, fun f hf => absurd hf List.not_mem_nil⟩
  · simp only [responseMessage, List.forall_mem_cons]
    exact ⟨htype, hnumber, by decide, fun f hf => absurd hf List.not_mem_nil⟩
  · intro bound hbound
    have hother : ¬(asBytes "Content-Type").map Http.toLower = Http.contentLengthName := by decide
    have hname : (asBytes "Content-Length").map Http.toLower = Http.contentLengthName := by decide
    have hfind : (responseMessage status contentType body).fields.find?
        (fun f => f.1.map Http.toLower = Http.contentLengthName) =
          some (asBytes "Content-Length", asBytes (asBytes body).length.repr) := by
      rw [responseMessage, List.find?_cons_of_neg (by simpa using hother),
        List.find?_cons_of_pos (by simpa using hname)]
    have hmap := map_encode_digits hdigits
    rw [Http.contentLength, hfind, Option.bind_some]
    dsimp only
    rw [asBytes, hmap, Nat.toList_repr]
    exact Text.parseUnsigned_eq_some.mpr ⟨Text.numeral_toDigits _, hbound⟩

/-- Every status and content type fits on a line. -/
theorem fitsLine_reply (page : String) (counters : Option String) (words : String × String) :
    FitsLine (reply page counters words).1 ∧ FitsLine (reply page counters words).2.1 := by
  have hplain : FitsLine "text/plain" := by decide
  unfold reply
  split
  · exact ⟨(by decide : FitsLine "200 OK"), (by decide : FitsLine "text/html; charset=utf-8")⟩
  · split
    · exact ⟨(by decide : FitsLine "200 OK"), (by decide : FitsLine "application/json")⟩
    · exact ⟨(by decide : FitsLine "500 Internal Server Error"), hplain⟩
  · exact ⟨(by decide : FitsLine "404 Not Found"), hplain⟩
  · exact ⟨(by decide : FitsLine "405 Method Not Allowed"), hplain⟩

/-- Other paths are not found. -/
theorem reply_of_path_ne {page : String} {counters : Option String} {path : String}
    (hroot : path ≠ "/") (hcounters : path ≠ "/api/counters") :
    reply page counters ("GET", path) = ("404 Not Found", "text/plain", "not found") := by
  unfold reply
  split
  · next heq => exact absurd (Prod.mk.inj heq).2 hroot
  · next heq => exact absurd (Prod.mk.inj heq).2 hcounters
  · rfl
  · next hget => exact absurd rfl (hget path)

/-- Other methods are not allowed. -/
theorem reply_of_method_ne {page : String} {counters : Option String} {method path : String}
    (h : method ≠ "GET") :
    reply page counters (method, path) =
      ("405 Method Not Allowed", "text/plain", "GET only") := by
  unfold reply
  split
  · next heq => exact absurd (Prod.mk.inj heq).1 h
  · next heq => exact absurd (Prod.mk.inj heq).1 h
  · next heq => exact absurd (Prod.mk.inj heq).1 h
  · rfl

/-! ### What is drained -/

/-- **Draining ends in time**: not much more is read than there is to be. -/
theorem drainRequestBody_lt {ε : Type} {reads : List (Read ε)}
    (h : ∀ chunk, .ok chunk ∈ reads → chunk.length ≤ drainChunkLen) {drained : ℕ}
    (hd : drained < drainMaxBytes + drainChunkLen) :
    drainRequestBody drained reads < drainMaxBytes + drainChunkLen := by
  induction reads generalizing drained with
  | nil => exact hd
  | cons read reads ih =>
    have hrest : ∀ chunk, .ok chunk ∈ reads → chunk.length ≤ drainChunkLen :=
      fun chunk hchunk => h chunk (List.mem_cons_of_mem _ hchunk)
    unfold drainRequestBody
    split
    · next hlt =>
      rcases read with e | chunk
      · exact hd
      · have hlen := h chunk List.mem_cons_self
        dsimp only
        split
        · exact ih hrest (by omega)
        · exact hd
    · exact hd

/-! ### The whole exchange -/

/-- The message that answers a request: of the request, only the first two words of its
first line count. -/
def replyMessage (page : String) (counters : Option String) (words : String × String) :
    Http.Message :=
  let (status, contentType, body) := reply page counters words
  responseMessage status contentType body

/-- The text of the response is that of the message. -/
theorem asBytes_reply (page : String) (counters : Option String) (words : String × String) :
    asBytes (formatResponse (reply page counters words).1 (reply page counters words).2.1
      (reply page counters words).2.2) = (replyMessage page counters words).print := by
  rw [replyMessage]
  generalize reply page counters words = r
  exact asBytes_formatResponse r.1 r.2.1 r.2.2

/-- **A client reads the answer back**, and what follows is left over. -/
theorem readMessage_reply (page : String) (counters : Option String) (words : String × String)
    (tail : List UInt8) :
    Http.readMessage ((replyMessage page counters words).print ++ tail) =
      some (replyMessage page counters words, tail) := by
  obtain ⟨hstatus, htype⟩ := fitsLine_reply page counters words
  rw [replyMessage]
  generalize reply page counters words = r at hstatus htype ⊢
  exact Http.readMessage_print (wellFormed_responseMessage hstatus htype r.2.2) tail

/-- **From the bytes of the request to the body of the response.** A request whose first
line ends at an index below 8192 is read in pieces of up to 512 bytes, cut anywhere. There
is a response, a client that takes lines off up to the first empty one, and then as many
bytes as announced, reads the same message off it whatever follows, and after it less than
68 KiB are drained, in pieces of up to 4096 bytes. Of the request, only the first two words
of the line count: they determine the message, and hence every byte of the response. On
`GET /` the body is the page; on `GET /api/counters` it is text from which a JSON parser
recovers the tree of the switch, if the loop answers, and an error if it does not; any
other path and any other method is refused. -/
theorem http_exchange {ε : Type} {stream : List UInt8} {reads : List (List UInt8)}
    (h : CutOf stream reads) {i : ℕ} (hi : i < 8192) (hfirst : FirstNewline stream i)
    {method path : String}
    (hwords : requestWords (fromUtf8Lossy (stream.take i)) = (method, path)) (page : String)
    (counters : Option String) {later : List (Read ε)}
    (hlater : ∀ chunk, .ok chunk ∈ later → chunk.length ≤ 4096) :
    ∃ handled m, handleConnection page counters (clean ε reads) later = .ok handled ∧
      m = replyMessage page counters (method, path) ∧ handled.response = m.print ∧
      (∀ tail, Http.readMessage (handled.response ++ tail) = some (m, tail)) ∧
      handled.drained < 68 * 1024 ∧
      (method = "GET" → path = "/" →
        m.start = asBytes "HTTP/1.1 200 OK" ∧ fromUtf8Lossy m.body = page) ∧
      (method = "GET" → path = "/api/counters" →
        (∀ s, counters = some (renderCountersJson s) → m.start = asBytes "HTTP/1.1 200 OK" ∧
          Json.parse (fromUtf8Lossy m.body) = some (countersJson s)) ∧
        (counters = none → m.start = asBytes "HTTP/1.1 500 Internal Server Error" ∧
          m.body = asBytes "daemon unavailable")) ∧
      (method = "GET" → path ≠ "/" → path ≠ "/api/counters" →
        m.start = asBytes "HTTP/1.1 404 Not Found" ∧ m.body = asBytes "not found") ∧
      (method ≠ "GET" → m.start = asBytes "HTTP/1.1 405 Method Not Allowed" ∧
        m.body = asBytes "GET only") := by
  have hline : readRequestLine (clean ε reads) = .ok (fromUtf8Lossy (stream.take i)) :=
    h.readRequestLine_of_first hi hfirst
  have hhandled : handleConnection page counters (clean ε reads) later =
      .ok ⟨(replyMessage page counters (method, path)).print, drainRequestBody 0 later⟩ := by
    rw [handleConnection, hline, Except.ok_bind, hwords, ← asBytes_reply]
    rfl
  have hdrained : drainRequestBody 0 later < 68 * 1024 := drainRequestBody_lt hlater (by decide)
  have hok : asBytes "HTTP/1.1 " ++ asBytes "200 OK" = asBytes "HTTP/1.1 200 OK" := by decide
  refine ⟨_, _, hhandled, rfl, rfl, readMessage_reply page counters (method, path), hdrained,
    ?_, ?_, ?_, ?_⟩
  · rintro rfl rfl
    exact ⟨hok, fromUtf8Lossy_asBytes page⟩
  · rintro rfl rfl
    refine ⟨?_, ?_⟩
    · rintro s rfl
      refine ⟨hok, ?_⟩
      change Json.parse (fromUtf8Lossy (asBytes (renderCountersJson s))) = _
      rw [fromUtf8Lossy_asBytes, parse_renderCountersJson]
    · rintro rfl
      refine ⟨?_, rfl⟩
      change asBytes "HTTP/1.1 " ++ asBytes "500 Internal Server Error" = _
      decide
  · rintro rfl hroot hcounters
    rw [replyMessage, reply_of_path_ne hroot hcounters]
    refine ⟨?_, rfl⟩
    change asBytes "HTTP/1.1 " ++ asBytes "404 Not Found" = _
    decide
  · intro hmethod
    rw [replyMessage, reply_of_method_ne hmethod]
    refine ⟨?_, rfl⟩
    change asBytes "HTTP/1.1 " ++ asBytes "405 Method Not Allowed" = _
    decide

/-- A request for the counters of a switch without ports, in two pieces. -/
theorem http_exchange_counters :
    ∃ handled m, handleConnection "" (some (renderCountersJson (Switch.withProbeId 7)))
        (clean Empty [(asBytes "GET /api/cou"), asBytes "nters HTTP/1.1\r\n"]) [] = .ok handled ∧
      handled.response = m.print ∧ Http.readMessage (handled.response ++ [0]) = some (m, [0]) ∧
      Json.parse (fromUtf8Lossy m.body) = some (countersJson (Switch.withProbeId 7)) := by
  obtain ⟨handled, m, hhandled, -, hprint, hread, -, -, hcounters, -⟩ := @http_exchange Empty
    (asBytes "GET /api/counters HTTP/1.1\r\n")
    [asBytes "GET /api/cou", asBytes "nters HTTP/1.1\r\n"] ⟨by decide, by decide⟩ 27 (by decide)
    ⟨by decide, by decide⟩ "GET" "/api/counters" (by decide) ""
    (some (renderCountersJson (Switch.withProbeId 7))) []
    (fun _ hchunk => absurd hchunk List.not_mem_nil)
  exact ⟨handled, m, hhandled, hprint, hread [0], ((hcounters rfl rfl).1 _ rfl).2⟩

end VlanSwitch
