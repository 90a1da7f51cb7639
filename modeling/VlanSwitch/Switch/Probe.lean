import VlanSwitch.Switch.Run

/-!
# The loop guard fires exactly on its own probe

A probe leaves the switch as `VlanSwitch.LoopGuard.buildProbe` and comes back as a
bridge on the way has left it: perhaps with an 802.1Q tag put in, perhaps with bytes
added at the end (`VlanSwitch.LoopGuard.returned`). Reading it back always succeeds and
gives a frame both recognizers agree on (`VlanSwitch.LoopGuard.parse_returned`), so
that `forward` blocks the port of its own probe and ignores those of others, whatever
the tag and the tail. In the other direction nothing else blocks: a frame that changes
a blocked flag spells the identity of the switch
(`VlanSwitch.Switch.isOwnProbe_of_isBlocked_forward`).
-/

namespace VlanSwitch

namespace EthernetFrame

/-- A tag put into a frame, after the two addresses. -/
def insertTag (tag : Option Dot1qTag) (bytes : List UInt8) : List UInt8 :=
  bytes.take 12 ++ (tagBytes tag ++ bytes.drop 12)

/-- Putting a tag into the bytes of an untagged frame gives the bytes of the tagged
one. -/
theorem insertTag_wireBytes (tag : Option Dot1qTag) {frame : EthernetFrame}
    (h : frame.tag = none) :
    insertTag tag frame.wireBytes = { frame with tag }.wireBytes := by
  obtain ⟨dst, src, tag', ethertype, payload⟩ := frame
  obtain rfl : tag' = none := h
  have haddr : (dst.toList ++ src.toList).length = 12 := by simp
  simp only [insertTag, wireBytes, tagBytes, List.nil_append]
  rw [← List.append_assoc dst.toList, List.take_left' haddr, List.drop_left' haddr,
    List.append_assoc]

/-- Bytes added at the end are payload. -/
theorem wireBytes_append (frame : EthernetFrame) (tail : List UInt8) :
    frame.wireBytes ++ tail = { frame with payload := frame.payload ++ tail }.wireBytes := by
  simp only [wireBytes, List.append_assoc]

end EthernetFrame

namespace LoopGuard

/-- The probe of the switch `probeId` as it may come back: with a tag put in or none,
and with bytes added at the end. -/
def returned (probeId : UInt64) (tag : Option Dot1qTag) (tail : List UInt8) : List UInt8 :=
  EthernetFrame.insertTag tag (buildProbe probeId) ++ tail

/-- What a probe that came back reads as. -/
def returnedFrame (probeId : UInt64) (tag : Option Dot1qTag) (tail : List UInt8) :
    EthernetFrame :=
  { probeFrame probeId with
    tag := tag.map Dot1qTag.masked, payload := probePayload probeId ++ tail }

theorem buildProbe_eq (probeId : UInt64) : buildProbe probeId = (probeFrame probeId).wireBytes := by
  have henc : (probeFrame probeId).Encodable := fun _ =>
    (by decide : probeEthertype ≠ tpid8021q)
  rw [buildProbe, EthernetFrame.writeInto_of_encodable henc, List.nil_append]

/-- **A probe that comes back is read back**, with the tag and the tail it got. -/
theorem parse_returned (probeId : UInt64) (tag : Option Dot1qTag) (tail : List UInt8) :
    EthernetFrame.parse (returned probeId tag tail) = .ok (returnedFrame probeId tag tail) := by
  have henc : ({ probeFrame probeId with tag, payload := probePayload probeId ++ tail } :
      EthernetFrame).Encodable := fun _ => (by decide : probeEthertype ≠ tpid8021q)
  rw [returned, buildProbe_eq, EthernetFrame.insertTag_wireBytes tag rfl,
    EthernetFrame.wireBytes_append]
  exact EthernetFrame.parse_wireBytes henc

/-- **The strict recognizer knows whose probe it is**, whatever the tail. -/
theorem payloadProbeId_append (probeId : UInt64) (tail : List UInt8) :
    payloadProbeId (probePayload probeId ++ tail) = some probeId := by
  refine payloadProbeId_eq_some.mpr ⟨List.replicate (probePayloadLen - 12) 0 ++ tail, ?_⟩
  simp only [probePayload, List.append_assoc]

/-- A probe that came back is the own one of the switch that sent it, and of no other. -/
theorem isOwnProbe_returnedFrame {probeId id : UInt64} {tag : Option Dot1qTag}
    {tail : List UInt8} : isOwnProbe (returnedFrame probeId tag tail) id ↔ probeId = id := by
  have hpayload : payloadProbeId (returnedFrame probeId tag tail).payload = some probeId :=
    payloadProbeId_append probeId tail
  rw [isOwnProbe, hpayload, Option.some.injEq]
  exact and_iff_right rfl

end LoopGuard

namespace Switch

/-- **Only its own probe makes a call of `forward` block a port**, the one it came in
on. -/
theorem isOwnProbe_of_isBlocked_forward {s : Switch} {ingress p : PortId} {frame : EthernetFrame}
    {now : Instant} (h : (s.forward ingress frame now).2.isBlocked p ≠ s.isBlocked p) :
    LoopGuard.isOwnProbe frame s.probeId ∧ p = ingress := by
  have hports := s.ports_forward ingress frame now
  split at hports
  · next hv =>
    refine ⟨(verdict_eq_ownProbe.mp hv).2, ?_⟩
    by_contra hne
    refine h ?_
    rw [isBlocked, isBlocked, hports, lookup_ports_blockPort, if_neg hne]
  · refine absurd ?_ h
    rw [isBlocked, isBlocked, hports]

end Switch

open Switch

/-- **The loop guard fires exactly on the switch's own probe.** The probe of the switch
`a`, with a tag put in or none and bytes added at the end, is read back; a switch `b`
rejects it on a port that is not registered, blocks the port and forgets what it
learned there if `a = b`, and does nothing at all otherwise. Conversely, in a run, a
frame that changes a blocked flag has the probe EtherType and spells the magic and the
switch's own identity, and the flag is that of the port it came in on. -/
theorem probe_fires_exactly (a b : UInt64) (tag : Option Dot1qTag) (tail : List UInt8)
    (ops : List Op) {s : Switch} (hs : s = machine.run (withProbeId b) ops) :
    (∃ frame, EthernetFrame.parse
        (EthernetFrame.insertTag tag (withProbeId a).buildLoopProbe ++ tail) = .ok frame ∧
      ∀ p now,
        (p ∉ s.ports → s.forward p frame now = (.error (.unknownPort p), s)) ∧
        (p ∈ s.ports → a = b → ∃ t, s.forward p frame now = (.ok [], t) ∧
          (∀ q, t.ports.lookup q =
            if q = p then (s.ports.lookup p).map fun e => { e with blocked := true }
            else s.ports.lookup q) ∧
          (∀ key, t.macTable.entries.lookup key =
            (s.macTable.entries.lookup key).filter fun e => e.port ≠ p) ∧
          t.portCounters = s.portCounters ∧ t.vlanCounters = s.vlanCounters ∧
          t.probeId = s.probeId) ∧
        (p ∈ s.ports → a ≠ b → s.forward p frame now = (.ok [], s))) ∧
    ∀ p ingress frame now, (s.forward ingress frame now).2.isBlocked p ≠ s.isBlocked p →
      frame.ethertype = 0x88B7 ∧
        (∃ post, frame.payload = [0x56, 0x4C, 0x50, 0x42] ++ (b.toBeBytes ++ post)) ∧
        p = ingress := by
  have hid : s.probeId = b := hs ▸ probeId_run (withProbeId b) ops
  refine ⟨⟨LoopGuard.returnedFrame a tag tail, LoopGuard.parse_returned a tag tail, ?_⟩, ?_⟩
  · intro p now
    refine ⟨?_, ?_, ?_⟩
    · intro hp
      rw [forward_eq, verdict_eq_unknown.mpr hp]
    · intro hp hab
      have hown : LoopGuard.isOwnProbe (LoopGuard.returnedFrame a tag tail) s.probeId :=
        LoopGuard.isOwnProbe_returnedFrame.mpr (hab.trans hid.symm)
      refine ⟨s.blockPort p, ?_, s.lookup_ports_blockPort p,
        fun key => MacTable.lookup_entries_removePort s.macTable p key, rfl, rfl, rfl⟩
      rw [forward_eq, verdict_eq_ownProbe.mpr ⟨hp, hown⟩]
    · -- the loose recognizer takes the probe of another switch out of the data plane
      intro hp hab
      have hany : LoopGuard.isAnyProbe (LoopGuard.returnedFrame a tag tail) :=
        (LoopGuard.isOwnProbe_returnedFrame.mpr (rfl : a = a)).isAnyProbe
      have hown : ¬LoopGuard.isOwnProbe (LoopGuard.returnedFrame a tag tail) s.probeId := fun h =>
        hab ((LoopGuard.isOwnProbe_returnedFrame.mp h).trans hid)
      rw [forward_eq, verdict_eq_foreignProbe.mpr ⟨hp, hany, hown⟩]
  · intro p ingress frame now hflag
    obtain ⟨⟨htype, hpayload⟩, hp⟩ := isOwnProbe_of_isBlocked_forward hflag
    rw [hid] at hpayload
    exact ⟨htype, LoopGuard.payloadProbeId_eq_some.mp hpayload, hp⟩

/-- A probe that comes back with a tag and padding blocks the port it comes in on. -/
theorem probe_fires_exactly_retagged :
    ∃ frame, EthernetFrame.parse (EthernetFrame.insertTag (some ⟨5, true, 100⟩)
        (withProbeId 7).buildLoopProbe ++ [0, 0]) = .ok frame ∧
      ((machine.run (withProbeId 7) [.addPort ⟨1⟩ (.access 10)]).forward ⟨1⟩ frame 0).1 =
        .ok [] := by
  obtain ⟨⟨frame, hparse, hforward⟩, -⟩ := probe_fires_exactly 7 7 (some ⟨5, true, 100⟩) [0, 0]
    [.addPort ⟨1⟩ (.access 10)] rfl
  obtain ⟨t, ht, -⟩ := (hforward ⟨1⟩ 0).2.1 (by decide) rfl
  exact ⟨frame, hparse, congrArg Prod.fst ht⟩

end VlanSwitch
