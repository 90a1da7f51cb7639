import VlanSwitch.Frame.Ethernet

/-!
# The wire format, both ways

Reading and writing a frame are inverse to one another, up to what the wire has room
for. What can be read can be written back, byte for byte
(`VlanSwitch.EthernetFrame.wireBytes_of_parse`): the TCI loses nothing, and a frame
that was read is never the one the writer refuses. What can be written is read back
with its tag masked (`VlanSwitch.EthernetFrame.parse_wireBytes`), so that frames whose
tag fits the wire are told apart by their bytes
(`VlanSwitch.EthernetFrame.wireBytes_injOn`).

The bytes come from strangers, and an access out of bounds would end the process.
`VlanSwitch.EthernetFrame.parseChecked` is the reader with every access checked, and
none of them fails (`VlanSwitch.EthernetFrame.parseChecked_eq`).
-/

namespace VlanSwitch

namespace EthernetFrame

/-! ### Every access is in bounds -/

/-- `bytes[i..i + 6]`, copied into an address. -/
def macAt? (bytes : List UInt8) (i : ℕ) : Option Mac :=
  if h : i + 6 ≤ bytes.length then some (macAt bytes i h) else none

/-- `bytes[i..]`. -/
def sliceFrom? (bytes : List UInt8) (i : ℕ) : Option (List UInt8) :=
  if i ≤ bytes.length then some (bytes.drop i) else none

/-- Reads a frame off a byte string, every access checked: `none` is an index or a slice
out of bounds, where the source would panic. -/
def parseChecked (bytes : List UInt8) : Option (Except ParseError EthernetFrame) :=
  if bytes.length < untaggedHeaderLen then some (.error (.tooShort bytes.length))
  else do
    let dst ← macAt? bytes 0
    let src ← macAt? bytes 6
    let next := UInt16.ofBeBytes (← bytes[12]?) (← bytes[13]?)
    if next = tpid8021q then
      if bytes.length < taggedHeaderLen then some (.error (.truncatedTag bytes.length))
      else do
        let tci := UInt16.ofBeBytes (← bytes[14]?) (← bytes[15]?)
        let ethertype := UInt16.ofBeBytes (← bytes[16]?) (← bytes[17]?)
        let payload ← sliceFrom? bytes taggedHeaderLen
        some (.ok { dst, src, tag := some (Dot1qTag.fromTci tci), ethertype, payload })
    else do
      let payload ← sliceFrom? bytes untaggedHeaderLen
      some (.ok { dst, src, tag := none, ethertype := next, payload })

/-- **The reader stays inside its input**: no access of it is out of bounds. -/
theorem parseChecked_eq (bytes : List UInt8) : parseChecked bytes = some (parse bytes) := by
  rw [parseChecked, parse]
  by_cases h : bytes.length < untaggedHeaderLen
  · rw [if_pos h, dif_pos h]
  · rw [if_neg h, dif_neg h]
    have hlen : 14 ≤ bytes.length := Nat.le_of_not_lt h
    have hdst : macAt? bytes 0 = some (macAt bytes 0 (by omega)) := dif_pos _
    have hsrc : macAt? bytes 6 = some (macAt bytes 6 (by omega)) := dif_pos _
    have hrest : sliceFrom? bytes untaggedHeaderLen = some (bytes.drop untaggedHeaderLen) :=
      if_pos hlen
    simp only [hdst, hsrc, hrest, Option.bind_eq_bind, Option.bind_some,
      List.getElem?_eq_getElem (show 12 < bytes.length by omega),
      List.getElem?_eq_getElem (show 13 < bytes.length by omega)]
    split
    · by_cases h' : bytes.length < taggedHeaderLen
      · rw [if_pos h', dif_pos h']
      · rw [if_neg h', dif_neg h']
        have hlen' : 18 ≤ bytes.length := Nat.le_of_not_lt h'
        have hrest' : sliceFrom? bytes taggedHeaderLen = some (bytes.drop taggedHeaderLen) :=
          if_pos hlen'
        simp only [hrest', Option.bind_some,
          List.getElem?_eq_getElem (show 14 < bytes.length by omega),
          List.getElem?_eq_getElem (show 15 < bytes.length by omega),
          List.getElem?_eq_getElem (show 16 < bytes.length by omega),
          List.getElem?_eq_getElem (show 17 < bytes.length by omega)]
    · rfl

/-! ### What can be read -/

/-- A byte string that is long enough, as the header it starts with. -/
theorem exists_header {bytes : List UInt8} (h : 14 ≤ bytes.length) :
    ∃ (dst src : Mac) (a b : UInt8) (rest : List UInt8),
      bytes = dst.toList ++ (src.toList ++ a :: b :: rest) := by
  have hsplit : bytes = bytes.take 6 ++ ((bytes.drop 6).take 6 ++ bytes.drop 12) := by
    have hdrop : bytes.drop 12 = (bytes.drop 6).drop 6 := by rw [List.drop_drop]
    rw [hdrop, List.take_append_drop, List.take_append_drop]
  have hlen : 2 ≤ (bytes.drop 12).length := by
    rw [List.length_drop]
    omega
  rcases hrest : bytes.drop 12 with _ | ⟨a, _ | ⟨b, rest⟩⟩
  · simp [hrest] at hlen
  · simp [hrest] at hlen
  · rw [hrest] at hsplit
    refine ⟨⟨bytes.take 6, ?_⟩, ⟨(bytes.drop 6).take 6, ?_⟩, a, b, rest, hsplit⟩
    · rw [List.length_take]
      omega
    · rw [List.length_take, List.length_drop]
      omega

/-- What follows the two addresses, byte by byte. -/
theorem getElem?_addresses (dst src : Mac) (rest : List UInt8) (n : ℕ) :
    (dst.toList ++ (src.toList ++ rest))[n + 12]? = rest[n]? := by
  have hdrop := congrArg (fun l : List UInt8 => l[0]?) (drop_addresses dst src rest n)
  simpa only [List.getElem?_drop, Nat.add_zero] using hdrop

/-- The TCI and the EtherType behind a TPID, if there is room for them. -/
theorem exists_tag_header {rest : List UInt8} (h : 4 ≤ rest.length) :
    ∃ c d e f payload, rest = c :: d :: e :: f :: payload := by
  rcases rest with _ | ⟨c, _ | ⟨d, _ | ⟨e, _ | ⟨f, payload⟩⟩⟩⟩
  · simp at h
  · simp at h
  · simp at h
  · simp at h
  · exact ⟨c, d, e, f, payload, rfl⟩

/-- The two bytes that announce a tag. -/
theorem ofBeBytes_eq_tpid {a b : UInt8} :
    UInt16.ofBeBytes a b = tpid8021q ↔ a = 0x81 ∧ b = 0x00 := by
  constructor
  · intro h
    have hbytes : [a, b] = [0x81, 0x00] := by
      rw [← UInt16.toBeBytes_ofBeBytes, h]
      rfl
    obtain ⟨rfl, hb⟩ := List.cons.inj hbytes
    exact ⟨rfl, (List.cons.inj hb).1⟩
  · rintro ⟨rfl, rfl⟩
    rfl

theorem parse_short {bytes : List UInt8} (h : bytes.length < 14) :
    parse bytes = .error (.tooShort bytes.length) := by
  rw [parse, dif_pos h]

/-- A tag that was announced, but is cut off. -/
theorem parse_truncated (dst src : Mac) {a b : UInt8} {rest : List UInt8}
    (h : UInt16.ofBeBytes a b = tpid8021q) (hrest : rest.length < 4) :
    parse (dst.toList ++ (src.toList ++ a :: b :: rest)) =
      .error (.truncatedTag (rest.length + 14)) := by
  have hlen : ¬6 + (6 + (rest.length + 1 + 1)) < untaggedHeaderLen := by
    simp only [untaggedHeaderLen]
    omega
  have hlen' : 6 + (6 + (rest.length + 1 + 1)) < taggedHeaderLen := by
    simp only [taggedHeaderLen]
    omega
  simp [parse, h, hlen, hlen']
  omega

/-- A header announces a tag by its bytes 12 and 13. -/
theorem announces {dst src : Mac} {a b : UInt8} {rest : List UInt8} :
    (dst.toList ++ (src.toList ++ a :: b :: rest))[12]? = some 0x81 ∧
        (dst.toList ++ (src.toList ++ a :: b :: rest))[13]? = some 0x00 ↔
      UInt16.ofBeBytes a b = tpid8021q := by
  rw [getElem?_addresses dst src (a :: b :: rest) 0, getElem?_addresses dst src (a :: b :: rest) 1,
    ofBeBytes_eq_tpid]
  simp

/-- A byte string that announces a tag it has no room for. -/
theorem parse_announced {bytes : List UInt8} (hlen : 14 ≤ bytes.length)
    (htag : bytes[12]? = some 0x81 ∧ bytes[13]? = some 0x00) (hlt : bytes.length < 18) :
    parse bytes = .error (.truncatedTag bytes.length) := by
  obtain ⟨dst, src, a, b, rest, rfl⟩ := exists_header hlen
  have hrest : (dst.toList ++ (src.toList ++ a :: b :: rest)).length = rest.length + 14 := by
    simp
    omega
  rw [hrest] at hlt ⊢
  exact parse_truncated dst src (announces.mp htag) (by omega)

/-- What was read has a header. -/
theorem le_length_of_parse {bytes : List UInt8} {frame : EthernetFrame}
    (h : parse bytes = .ok frame) : 14 ≤ bytes.length := by
  by_contra hlt
  rw [parse_short (by omega)] at h
  cases h

/-- **What was read can be written back**, and gives the bytes it was read off. -/
theorem wireBytes_of_parse {bytes : List UInt8} {frame : EthernetFrame}
    (h : parse bytes = .ok frame) : frame.Encodable ∧ frame.wireBytes = bytes := by
  obtain ⟨dst, src, a, b, rest, rfl⟩ := exists_header (le_length_of_parse h)
  by_cases htpid : UInt16.ofBeBytes a b = tpid8021q
  · have hrest : 4 ≤ rest.length := by
      by_contra hlt
      rw [parse_truncated dst src htpid (by omega)] at h
      cases h
    obtain ⟨c, d, e, f, payload, rfl⟩ := exists_tag_header hrest
    rw [parse_tagged dst src payload htpid] at h
    obtain rfl := Except.ok.inj h
    refine ⟨fun hnone => absurd hnone (by simp), ?_⟩
    simp only [wireBytes, tagBytes, Dot1qTag.toTci_fromTci, UInt16.toBeBytes_ofBeBytes, ← htpid,
      List.cons_append, List.nil_append]
  · rw [parse_untagged dst src rest htpid] at h
    obtain rfl := Except.ok.inj h
    refine ⟨fun _ => htpid, ?_⟩
    simp only [wireBytes, tagBytes, UInt16.toBeBytes_ofBeBytes, List.cons_append, List.nil_append]

/-- **Decoding then encoding is the identity.** The reader never leaves its input; it
accepts a byte string exactly if there is room for the header it announces, with the
matching error otherwise; and what it accepts is written back as it was, in as many
bytes as the frame says it takes. -/
theorem decode_then_encode (bytes : List UInt8) :
    parseChecked bytes = some (parse bytes) ∧
      ((∃ frame, parse bytes = .ok frame) ↔ 14 ≤ bytes.length ∧
        (bytes[12]? = some 0x81 ∧ bytes[13]? = some 0x00 → 18 ≤ bytes.length)) ∧
      (bytes.length < 14 → parse bytes = .error (.tooShort bytes.length)) ∧
      (14 ≤ bytes.length → bytes[12]? = some 0x81 ∧ bytes[13]? = some 0x00 →
        bytes.length < 18 → parse bytes = .error (.truncatedTag bytes.length)) ∧
      ∀ frame, parse bytes = .ok frame →
        (∀ out, frame.writeInto out = (.ok (), out ++ bytes)) ∧ frame.wireLen = bytes.length := by
  refine ⟨parseChecked_eq bytes, ?_, parse_short, parse_announced, ?_⟩
  · constructor
    · rintro ⟨frame, hframe⟩
      have hlen := le_length_of_parse hframe
      refine ⟨hlen, fun htag => ?_⟩
      by_contra hlt
      rw [parse_announced hlen htag (by omega)] at hframe
      cases hframe
    · rintro ⟨hlen, htag⟩
      obtain ⟨dst, src, a, b, rest, rfl⟩ := exists_header hlen
      by_cases htpid : UInt16.ofBeBytes a b = tpid8021q
      · have hroom := htag (announces.mpr htpid)
        simp only [List.length_append, List.Vector.toList_length, List.length_cons] at hroom
        have hrest : 4 ≤ rest.length := by omega
        obtain ⟨c, d, e, f, payload, rfl⟩ := exists_tag_header hrest
        exact ⟨_, parse_tagged dst src payload htpid⟩
      · exact ⟨_, parse_untagged dst src rest htpid⟩
  · intro frame hframe
    obtain ⟨henc, hbytes⟩ := wireBytes_of_parse hframe
    refine ⟨fun out => ?_, ?_⟩
    · rw [writeInto_of_encodable henc, hbytes]
    · rw [← length_wireBytes, hbytes]

/-! ### What can be written -/

/-- A frame whose tag, if it has one, fits the wire. -/
def Fits (frame : EthernetFrame) : Prop :=
  ∀ tag, frame.tag = some tag → tag.pcp < 8 ∧ tag.vid < 4096

/-- Masking is reducing modulo what the wire has room for. -/
theorem masked_eq (frame : EthernetFrame) :
    frame.masked = { frame with
      tag := frame.tag.map fun tag => ⟨tag.pcp % 8, tag.dei, tag.vid % 4096⟩ } := by
  have htag : Dot1qTag.masked = fun tag : Dot1qTag => ⟨tag.pcp % 8, tag.dei, tag.vid % 4096⟩ := by
    funext tag
    rw [Dot1qTag.masked, Dot1qTag.mk.injEq]
    refine ⟨UInt8.toNat_inj.mp ?_, rfl, UInt16.toNat_inj.mp ?_⟩
    · rw [UInt8.toNat_and, UInt8.toNat_mod]
      exact Nat.and_two_pow_sub_one_eq_mod tag.pcp.toNat 3
    · rw [UInt16.toNat_and, UInt16.toNat_mod]
      exact Nat.and_two_pow_sub_one_eq_mod tag.vid.toNat 12
  rw [masked, htag]

/-- A frame that fits the wire is not masked. -/
theorem masked_of_fits {frame : EthernetFrame} (h : frame.Fits) : frame.masked = frame := by
  obtain ⟨dst, src, tag, ethertype, payload⟩ := frame
  rw [masked_eq]
  rcases tag with _ | tag
  · rfl
  · obtain ⟨hpcp, hvid⟩ := h tag rfl
    have hpcp' : tag.pcp % 8 = tag.pcp := UInt8.toNat_inj.mp (by
      rw [UInt8.toNat_mod]
      exact Nat.mod_eq_of_lt (UInt8.lt_iff_toNat_lt.mp hpcp))
    have hvid' : tag.vid % 4096 = tag.vid := UInt16.toNat_inj.mp (by
      rw [UInt16.toNat_mod]
      exact Nat.mod_eq_of_lt (UInt16.lt_iff_toNat_lt.mp hvid))
    simp only [Option.map_some, hpcp', hvid']

/-- **Frames that fit the wire are told apart by their bytes.** -/
theorem wireBytes_injOn {frame frame' : EthernetFrame} (h : frame.Encodable) (hfits : frame.Fits)
    (h' : frame'.Encodable) (hfits' : frame'.Fits) (hbytes : frame.wireBytes = frame'.wireBytes) :
    frame = frame' := by
  have hparse := parse_wireBytes h
  rw [hbytes, parse_wireBytes h', masked_of_fits hfits', masked_of_fits hfits] at hparse
  exact (Except.ok.inj hparse).symm

/-- **Encoding then decoding loses the tag bits that do not fit, and nothing else.**
Writing a frame fails exactly if it is untagged with the TPID as its EtherType, and
leaves the buffer alone then. Otherwise it appends as many bytes as the frame takes,
and reading these gives the frame with its priority modulo 8 and its VLAN modulo 4096.
So two frames in range that append the same bytes to a buffer are equal. -/
theorem encode_then_decode (frame : EthernetFrame) (out : List UInt8) :
    ((∃ e, (frame.writeInto out).1 = .error e) ↔
        frame.tag = none ∧ frame.ethertype = 0x8100) ∧
      (frame.tag = none ∧ frame.ethertype = 0x8100 → (frame.writeInto out).2 = out) ∧
      (¬(frame.tag = none ∧ frame.ethertype = 0x8100) → ∃ bytes,
        frame.writeInto out = (.ok (), out ++ bytes) ∧ bytes.length = frame.wireLen ∧
          parse bytes = .ok { frame with
            tag := frame.tag.map fun tag => ⟨tag.pcp % 8, tag.dei, tag.vid % 4096⟩ }) ∧
      ∀ frame', (∀ tag, frame.tag = some tag → tag.pcp < 8 ∧ tag.vid < 4096) →
        (∀ tag, frame'.tag = some tag → tag.pcp < 8 ∧ tag.vid < 4096) →
        (frame.writeInto out).1 = .ok () → frame.writeInto out = frame'.writeInto out →
        frame = frame' := by
  have hrefused : ¬frame.Encodable ↔ frame.tag = none ∧ frame.ethertype = 0x8100 := by
    simp [Encodable, tpid8021q]
  have hwritten : ∀ f : EthernetFrame, (f.writeInto out).1 = .ok () → f.Encodable := fun f hf => by
    by_contra hnot
    rw [writeInto_of_not_encodable hnot] at hf
    cases hf
  rw [← hrefused]
  refine ⟨?_, ?_, ?_, ?_⟩
  · constructor
    · rintro ⟨e, he⟩ henc
      rw [writeInto_of_encodable henc] at he
      cases he
    · intro hnot
      exact ⟨_, congrArg Prod.fst (writeInto_of_not_encodable hnot out)⟩
  · intro hnot
    rw [writeInto_of_not_encodable hnot]
  · intro henc
    have henc' : frame.Encodable := not_not.mp henc
    refine ⟨frame.wireBytes, writeInto_of_encodable henc' out, frame.length_wireBytes, ?_⟩
    rw [parse_wireBytes henc', masked_eq]
  · intro frame' hfits hfits' hok heq
    have henc := hwritten frame hok
    have henc' := hwritten frame' (heq ▸ hok)
    rw [writeInto_of_encodable henc, writeInto_of_encodable henc'] at heq
    exact wireBytes_injOn henc hfits henc' hfits'
      (List.append_cancel_left (congrArg Prod.snd heq))

end EthernetFrame

end VlanSwitch
