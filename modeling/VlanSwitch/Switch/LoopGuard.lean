import VlanSwitch.Frame.Ethernet

/-!
# Loop-guard probes

Every switch broadcasts a probe frame that carries its own 64-bit identity; one that
comes back means a loop. Two recognizers read a probe: the loose one
(`VlanSwitch.LoopGuard.isAnyProbe`) asks for the EtherType and the magic, the strict
one (`VlanSwitch.LoopGuard.isOwnProbe`) for the identity after it as well. The
payload is padded, so both read a prefix of it only.
-/

namespace VlanSwitch

namespace LoopGuard

/-- The EtherType of probes, which they share with other traffic. -/
def probeEthertype : UInt16 := 0x88B7

/-- `VLPB`, the four bytes a probe payload starts with. -/
def probeMagic : List UInt8 := [0x56, 0x4C, 0x50, 0x42]

/-- The length of a probe payload, which brings the frame to the 802.3 minimum. -/
def probePayloadLen : ℕ := 46

/-- The first octet of a probe's source: locally administered, unicast. -/
def probeSrcPrefix : UInt8 := 0x02

/-- The source address of a probe: the prefix, and the first five bytes of the id. -/
def probeSrc (probeId : UInt64) : Mac :=
  ⟨probeSrcPrefix :: probeId.toBeBytes.take 5, by simp⟩

/-- The payload of a probe: the magic, the id, and zeros up to the length. -/
def probePayload (probeId : UInt64) : List UInt8 :=
  probeMagic ++ (probeId.toBeBytes ++ List.replicate (probePayloadLen - 12) 0)

/-- The probe frame of the switch `probeId`. -/
def probeFrame (probeId : UInt64) : EthernetFrame where
  dst := List.Vector.replicate 6 0xFF
  src := probeSrc probeId
  tag := none
  ethertype := probeEthertype
  payload := probePayload probeId

/-- The wire bytes of the probe of the switch `probeId`. -/
def buildProbe (probeId : UInt64) : List UInt8 := ((probeFrame probeId).writeInto []).2

/-- `slice::get` on a range: nothing if the range leaves the slice. -/
def getRange (l : List UInt8) (lo hi : ℕ) : Option (List UInt8) :=
  if lo ≤ hi ∧ hi ≤ l.length then some ((l.drop lo).take (hi - lo)) else none

/-- The probe id of a payload that starts with the magic and is long enough. -/
def payloadProbeId (payload : List UInt8) : Option UInt64 :=
  if getRange payload 0 4 ≠ some probeMagic then none
  else (getRange payload 4 12).map UInt64.ofBeBytes

/-- The frame is the probe of the switch `probeId`. -/
def isOwnProbe (frame : EthernetFrame) (probeId : UInt64) : Prop :=
  frame.ethertype = probeEthertype ∧ payloadProbeId frame.payload = some probeId

instance (frame : EthernetFrame) (probeId : UInt64) : Decidable (isOwnProbe frame probeId) :=
  inferInstanceAs (Decidable (_ ∧ _))

/-- The frame is a probe of some switch. -/
def isAnyProbe (frame : EthernetFrame) : Prop :=
  frame.ethertype = probeEthertype ∧ getRange frame.payload 0 4 = some probeMagic

instance (frame : EthernetFrame) : Decidable (isAnyProbe frame) :=
  inferInstanceAs (Decidable (_ ∧ _))

/-! ### What the recognizers accept -/

/-- Reading a range of a byte string, as a split of it. -/
theorem getRange_eq_some {l r : List UInt8} {lo hi : ℕ} (h : lo ≤ hi) :
    getRange l lo hi = some r ↔
      ∃ pre post, l = pre ++ (r ++ post) ∧ pre.length = lo ∧ r.length = hi - lo := by
  rw [getRange]
  constructor
  · intro hr
    split at hr
    · next hb =>
      obtain rfl := Option.some.inj hr
      refine ⟨l.take lo, l.drop hi, ?_, ?_, ?_⟩
      · have hdrop : l.drop hi = (l.drop lo).drop (hi - lo) := by
          rw [List.drop_drop, Nat.add_sub_cancel' h]
        rw [hdrop, List.take_append_drop, List.take_append_drop]
      · rw [List.length_take]
        omega
      · rw [List.length_take, List.length_drop]
        omega
    · cases hr
  · rintro ⟨pre, post, rfl, hpre, hr⟩
    have hb : lo ≤ hi ∧ hi ≤ (pre ++ (r ++ post)).length := by
      simp only [List.length_append]
      omega
    rw [if_pos hb, List.drop_left' hpre, List.take_left' hr]

/-- **The strict recognizer reads the magic and then the id**, whatever follows. -/
theorem payloadProbeId_eq_some {payload : List UInt8} {probeId : UInt64} :
    payloadProbeId payload = some probeId ↔
      ∃ post, payload = probeMagic ++ (probeId.toBeBytes ++ post) := by
  rw [payloadProbeId]
  constructor
  · intro h
    split at h
    · cases h
    · next hmagic =>
      obtain ⟨pre, post, hp, hpre, -⟩ := (getRange_eq_some (by omega)).mp (not_not.mp hmagic)
      obtain ⟨bytes, hbytes, hid⟩ := Option.map_eq_some_iff.mp h
      obtain ⟨pre', post', hp', hpre', hlen⟩ := (getRange_eq_some (by omega)).mp hbytes
      -- the two ranges are adjacent, so the splits of the payload agree
      obtain rfl := List.eq_nil_of_length_eq_zero hpre
      have hsplit : probeMagic ++ post = pre' ++ (bytes ++ post') := by
        rw [← hp', hp, List.nil_append]
      obtain ⟨rfl, rfl⟩ := List.append_inj hsplit (by rw [hpre']; rfl)
      refine ⟨post', ?_⟩
      rw [hp', ← hid, UInt64.toBeBytes_ofBeBytes hlen]
  · rintro ⟨post, rfl⟩
    have hmagic : getRange (probeMagic ++ (probeId.toBeBytes ++ post)) 0 4 = some probeMagic :=
      (getRange_eq_some (by omega)).mpr ⟨[], _, rfl, rfl, rfl⟩
    have hid : getRange (probeMagic ++ (probeId.toBeBytes ++ post)) 4 12 =
        some probeId.toBeBytes :=
      (getRange_eq_some (by omega)).mpr ⟨probeMagic, post, rfl, rfl, by simp⟩
    rw [if_neg (not_not.mpr hmagic), hid, Option.map_some, UInt64.ofBeBytes_toBeBytes]

/-- A switch's own probe is a probe. -/
theorem isOwnProbe.isAnyProbe {frame : EthernetFrame} {probeId : UInt64}
    (h : isOwnProbe frame probeId) : isAnyProbe frame := by
  obtain ⟨htype, hid⟩ := h
  obtain ⟨post, hpost⟩ := payloadProbeId_eq_some.mp hid
  refine ⟨htype, (getRange_eq_some (by omega)).mpr ⟨[], probeId.toBeBytes ++ post, ?_, rfl, rfl⟩⟩
  rw [hpost, List.nil_append]

end LoopGuard

end VlanSwitch
