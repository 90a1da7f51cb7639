import VlanSwitch.Lib.LiveWrites
import VlanSwitch.Switch.Run

/-!
# The learned table is the live part of the history

An entry of the learned table is written by one kind of event only, an accepted frame
from a unicast source (`VlanSwitch.Learns`), and killed by two: something that takes
its port away from it (`VlanSwitch.Purges`) and an ageing sweep that finds it stale
(`VlanSwitch.Ages`). One step on one entry is `VlanSwitch.Switch.lookup_next`; the
entries of a VLAN and an address are thereby cells in the sense of `Machine.Cell`,
and `VlanSwitch.macTable_live_history` reads the whole table off the trace of the run.

Since it is an equivalence, it also says what cannot happen: a frame that was turned
away, a foreign probe, a lookup or anything done to another port writes and kills
nothing, and what was purged does not come back, not even when a later entry of the
same address is purged in its turn.
-/

namespace VlanSwitch

/-- An accepted frame of `vlan` from the unicast source `mac`, on `port` at `now`: not a
probe, let in by `forward`, and put in `vlan` by its port. -/
def Learns (s : Switch) (op : Op) (vlan : Vlan) (mac : Mac) (port : PortId) (now : Instant) :
    Prop :=
  ∃ frame, op = .forward port frame now ∧ ¬LoopGuard.isAnyProbe frame ∧
    (∃ ds, (s.forward port frame now).1 = .ok ds) ∧ s.ingressVlan port frame = .ok vlan ∧
    frame.src = mac ∧ ¬isGroupAddress mac

theorem learns_iff {s : Switch} {op : Op} {vlan : Vlan} {mac : Mac} {port : PortId}
    {now : Instant} :
    Learns s op vlan mac port now ↔ ∃ frame, op = .forward port frame now ∧
      s.Resolves port frame vlan ∧ frame.src = mac ∧ ¬isGroupAddress mac := by
  refine exists_congr fun frame => and_congr_right fun _ => ?_
  rw [Switch.resolves_iff_forward now, and_assoc, and_assoc]

/-- Everything learned on `port` is forgotten: it is added, removed or blocked, or the
switch's own probe comes in on it. -/
def Purges (s : Switch) (op : Op) (port : PortId) : Prop :=
  match op with
  | .addPort p _ => p = port
  | .removePort p => p = port
  | .blockPort p => p = port
  | .forward p frame _ => p = port ∧ p ∈ s.ports ∧ LoopGuard.isOwnProbe frame s.probeId
  | _ => False

/-- An ageing sweep that finds an entry last seen at `lastSeen` stale. -/
def Ages (op : Op) (lastSeen : Instant) : Prop :=
  match op with
  | .ageOut maxAge now => maxAge ≤ saturatingDurationSince now lastSeen
  | _ => False

instance (s : Switch) (port : PortId) : (op : Op) → Decidable (Purges s op port)
  | .addPort .. => inferInstanceAs (Decidable (_ = _))
  | .removePort _ => inferInstanceAs (Decidable (_ = _))
  | .blockPort _ => inferInstanceAs (Decidable (_ = _))
  | .forward .. => inferInstanceAs (Decidable (_ ∧ _))
  | .unblockPort _ => inferInstanceAs (Decidable False)
  | .ageOut .. => inferInstanceAs (Decidable False)

instance (lastSeen : Instant) : (op : Op) → Decidable (Ages op lastSeen)
  | .ageOut .. => inferInstanceAs (Decidable (_ ≤ _))
  | .addPort .. => inferInstanceAs (Decidable False)
  | .removePort _ => inferInstanceAs (Decidable False)
  | .blockPort _ => inferInstanceAs (Decidable False)
  | .unblockPort _ => inferInstanceAs (Decidable False)
  | .forward .. => inferInstanceAs (Decidable False)

/-- The entry an operation writes for an address of a VLAN, if it writes one. -/
def learned (s : Switch) (op : Op) (vlan : Vlan) (mac : Mac) : Option Entry :=
  match op with
  | .forward port frame now =>
    if s.Resolves port frame vlan ∧ frame.src = mac ∧ ¬isGroupAddress mac then
      some { port, lastSeen := now }
    else none
  | _ => none

theorem learned_eq_some {s : Switch} {op : Op} {vlan : Vlan} {mac : Mac} {port : PortId}
    {now : Instant} :
    learned s op vlan mac = some ⟨port, now⟩ ↔ Learns s op vlan mac port now := by
  rw [learns_iff]
  cases op with
  | forward p frame t =>
    rw [learned]
    split
    · next h =>
      rw [Option.some.injEq, Entry.mk.injEq]
      constructor
      · rintro ⟨rfl, rfl⟩
        exact ⟨frame, rfl, h⟩
      · rintro ⟨f, hop, -⟩
        obtain ⟨rfl, -, rfl⟩ := Op.forward.inj hop
        exact ⟨rfl, rfl⟩
    · next h =>
      refine ⟨fun hc => absurd hc (by simp), ?_⟩
      rintro ⟨f, hop, hf⟩
      obtain ⟨rfl, rfl, rfl⟩ := Op.forward.inj hop
      exact absurd hf h
  | _ => exact ⟨fun h => absurd h (by simp [learned]), fun ⟨_, h, _⟩ => absurd h (by simp)⟩

theorem learned_eq_none {s : Switch} {op : Op} {vlan : Vlan} {mac : Mac} :
    learned s op vlan mac = none ↔ ∀ port now, ¬Learns s op vlan mac port now := by
  constructor
  · intro h port now hl
    exact absurd (h.symm.trans (learned_eq_some.mpr hl)) (by simp)
  · intro h
    rcases hl : learned s op vlan mac with _ | ⟨port, now⟩
    · rfl
    · exact absurd (learned_eq_some.mp hl) (h port now)

namespace Switch

/-- What is left of an entry after a step that does not write it. -/
def survives (s : Switch) (op : Op) (e : Entry) : Bool := ¬(Purges s op e.port ∨ Ages op e.lastSeen)

theorem filter_survives_of_forall {s : Switch} {op : Op} (o : Option Entry)
    (h : ∀ e : Entry, ¬Purges s op e.port ∧ ¬Ages op e.lastSeen) :
    o.filter (s.survives op) = o := by
  rcases o with _ | e
  · rfl
  · exact Option.filter_eq_some_iff.mpr ⟨rfl, by simp [survives, h e]⟩

/-- A sweep over the entries of a port is what purging it leaves. -/
theorem lookup_removePort_of_purges {s : Switch} {op : Op} {port : PortId}
    (hpurge : ∀ p, Purges s op p ↔ p = port) (hage : ∀ t, ¬Ages op t) (key : Vlan × Mac) :
    (s.macTable.removePort port).entries.lookup key =
      (s.macTable.entries.lookup key).filter (s.survives op) := by
  rw [MacTable.lookup_entries_removePort]
  refine congrArg (Option.filter · _) (funext fun e => ?_)
  simp [survives, hpurge, hage]

/-- An accepted frame overwrites the entry of its source, and no other. -/
theorem lookup_accept {s : Switch} {ingress : PortId} {frame : EthernetFrame} {now : Instant}
    {w : Vlan} (hr : s.Resolves ingress frame w) (vlan : Vlan) (mac : Mac) :
    (s.accept ingress w frame now).macTable.entries.lookup (vlan, mac) =
      match learned s (.forward ingress frame now) vlan mac with
      | some e => some e
      | none => s.macTable.entries.lookup (vlan, mac) := by
  rw [macTable_accept, learned]
  by_cases hl : s.Resolves ingress frame vlan ∧ frame.src = mac ∧ ¬isGroupAddress mac
  · obtain ⟨hr', rfl, hmac⟩ := hl
    obtain rfl := hr.unique hr'
    rw [if_neg hmac, MacTable.lookup_entries_learn, if_pos rfl, if_pos ⟨hr, rfl, hmac⟩]
  · rw [if_neg hl]
    split
    · rfl
    · next hsrc =>
      rw [MacTable.lookup_entries_learn, if_neg]
      rintro hkey
      obtain ⟨rfl, rfl⟩ := Prod.mk.inj hkey
      exact hl ⟨hr, rfl, hsrc⟩

/-- A frame kills entries if it is the switch's own probe, which blocks its port, and
writes one if it is accepted. -/
theorem lookup_next_forward (s : Switch) (ingress : PortId) (frame : EthernetFrame) (now : Instant)
    (vlan : Vlan) (mac : Mac) :
    (s.forward ingress frame now).2.macTable.entries.lookup (vlan, mac) =
      match learned s (.forward ingress frame now) vlan mac with
      | some e => some e
      | none => (s.macTable.entries.lookup (vlan, mac)).filter
          (s.survives (.forward ingress frame now)) := by
  have hnoPurge : s.verdict ingress frame ≠ .ownProbe → ∀ e : Entry,
      ¬Purges s (.forward ingress frame now) e.port ∧
        ¬Ages (.forward ingress frame now) e.lastSeen := fun hv e =>
    ⟨fun hp => hv (verdict_eq_ownProbe.mpr hp.2), id⟩
  have hnoLearn : (∀ w, s.verdict ingress frame ≠ .accepted w) →
      learned s (.forward ingress frame now) vlan mac = none := fun hv =>
    if_neg fun hl => hv vlan (verdict_eq_accepted.mpr hl.1)
  rw [forward_eq]
  rcases hv : s.verdict ingress frame with _ | _ | _ | e | w
  · rw [hnoLearn (by simp [hv])]
    exact (filter_survives_of_forall _ (hnoPurge (by simp [hv]))).symm
  · rw [hnoLearn (by simp [hv])]
    obtain ⟨hport, hown⟩ := verdict_eq_ownProbe.mp hv
    exact lookup_removePort_of_purges (fun p => by simp [Purges, hport, hown, eq_comm])
      (by simp [Ages]) _
  · rw [hnoLearn (by simp [hv])]
    exact (filter_survives_of_forall _ (hnoPurge (by simp [hv]))).symm
  · rw [hnoLearn (by simp [hv])]
    exact (filter_survives_of_forall _ (hnoPurge (by simp [hv]))).symm
  · rw [filter_survives_of_forall _ (hnoPurge (by simp [hv]))]
    exact lookup_accept (verdict_eq_accepted.mp hv) vlan mac

/-- **One step on one entry** of the learned table: it is written, or what there was
is kept if it survives. -/
theorem lookup_next (s : Switch) (op : Op) (vlan : Vlan) (mac : Mac) :
    (machine.next s op).macTable.entries.lookup (vlan, mac) =
      match learned s op vlan mac with
      | some e => some e
      | none => (s.macTable.entries.lookup (vlan, mac)).filter (s.survives op) := by
  cases op with
  | addPort port mode =>
    exact lookup_removePort_of_purges (fun p => by simp [Purges, eq_comm]) (by simp [Ages]) _
  | removePort port =>
    exact lookup_removePort_of_purges (fun p => by simp [Purges, eq_comm]) (by simp [Ages]) _
  | blockPort port =>
    exact lookup_removePort_of_purges (fun p => by simp [Purges, eq_comm]) (by simp [Ages]) _
  | unblockPort port =>
    exact (filter_survives_of_forall _ fun e => by simp [Purges, Ages]).symm
  | ageOut maxAge now =>
    change (s.macTable.evictOlderThan maxAge now).2.entries.lookup (vlan, mac) = _
    rw [MacTable.lookup_entries_evictOlderThan]
    refine congrArg (Option.filter · _) (funext fun e => ?_)
    simp [survives, Purges, Ages]
  | forward ingress frame now => exact lookup_next_forward s ingress frame now vlan mac

/-- **Where an entry comes from**: the operation learned it, or it was there and survives. -/
theorem lookup_of_lookup_next {s : Switch} {op : Op} {vlan : Vlan} {mac : Mac} {e : Entry}
    (h : (machine.next s op).macTable.entries.lookup (vlan, mac) = some e) :
    Learns s op vlan mac e.port e.lastSeen ∨
      s.macTable.entries.lookup (vlan, mac) = some e ∧ s.survives op e = true := by
  rw [lookup_next] at h
  split at h
  · next e' hlearned =>
    obtain rfl := Option.some.inj h
    exact Or.inl (learned_eq_some.mp hlearned)
  · exact Or.inr (Option.filter_eq_some_iff.mp h)

/-- An operation that neither writes an entry nor kills it leaves it as it was; what is
not there does not come into being. -/
theorem lookup_next_of_spares {s : Switch} {op : Op} {vlan : Vlan} {mac : Mac}
    (hlearn : ∀ port now, ¬Learns s op vlan mac port now)
    (hkeep : ∀ e, s.macTable.entries.lookup (vlan, mac) = some e →
      ¬Purges s op e.port ∧ ¬Ages op e.lastSeen) :
    (machine.next s op).macTable.entries.lookup (vlan, mac) =
      s.macTable.entries.lookup (vlan, mac) := by
  rw [lookup_next, learned_eq_none.mpr hlearn]
  rcases he : s.macTable.entries.lookup (vlan, mac) with _ | e
  · rfl
  · exact Option.filter_eq_some_iff.mpr ⟨rfl, by simp [survives, hkeep e he]⟩

/-- **Ageing counts what it deletes.** -/
theorem fst_ageOut (s : Switch) (maxAge : Duration) (now : Instant) :
    (s.ageOut maxAge now).1 =
      (s.macTable.entries.keys \ (s.ageOut maxAge now).2.macTable.entries.keys).card :=
  (Finset.card_sdiff_of_subset (Finmap.keys_retain_subset _ s.macTable.entries)).symm

/-- The entries of a VLAN and an address, as a cell. -/
def entryCell (vlan : Vlan) (mac : Mac) : Machine.Cell machine Entry where
  read s := s.macTable.entries.lookup (vlan, mac)
  writes s op := learned s op vlan mac
  kills s op e := Purges s op e.port ∨ Ages op e.lastSeen
  read_next s op e := by
    rw [lookup_next]
    rcases learned s op vlan mac with _ | e'
    · simp [survives, Option.filter_eq_some_iff]
    · simp

end Switch

open Switch

/-- **The learned table is the live part of the learning history.** After a run from a
fresh switch, an address of a VLAN is in the table, on a port and with an age, exactly
if the run learned it there and then, and since has neither learned it again, nor
purged the port, nor aged the entry out. Hence no other event touches an entry: not a
frame that is looked up, rejected or a foreign probe, not `unblockPort`, nothing done
to another port; an address that moved has no entry once its new port is purged; and
ageing returns the number of entries it deleted. -/
theorem macTable_live_history (probeId : UInt64) (ops : List Op) {s : Switch}
    (hs : s = machine.run (withProbeId probeId) ops) :
    (∀ vlan mac port lastSeen,
      s.macTable.entries.lookup (vlan, mac) = some ⟨port, lastSeen⟩ ↔
        ∃ before t op after, machine.trace (withProbeId probeId) ops = before ++ (t, op) :: after ∧
          Learns t op vlan mac port lastSeen ∧
          ∀ e ∈ after, (∀ p now, ¬Learns e.1 e.2 vlan mac p now) ∧ ¬Purges e.1 e.2 port ∧
            ¬Ages e.2 lastSeen) ∧
    (∀ op vlan mac, (∀ port now, ¬Learns s op vlan mac port now) →
      (∀ e, s.macTable.entries.lookup (vlan, mac) = some e →
        ¬Purges s op e.port ∧ ¬Ages op e.lastSeen) →
      (machine.next s op).macTable.entries.lookup (vlan, mac) =
        s.macTable.entries.lookup (vlan, mac)) ∧
    (∀ vlan mac port lastSeen before t op after,
      machine.trace (withProbeId probeId) ops = before ++ (t, op) :: after →
      Learns t op vlan mac port lastSeen →
      (∀ e ∈ after, ∀ p now, ¬Learns e.1 e.2 vlan mac p now) →
      (∃ e ∈ after, Purges e.1 e.2 port) →
      s.macTable.entries.lookup (vlan, mac) = none) ∧
    ∀ maxAge now, (s.ageOut maxAge now).1 =
      (s.macTable.entries.keys \ (s.ageOut maxAge now).2.macTable.entries.keys).card := by
  subst hs
  refine ⟨?_, ?_, ?_, ?_⟩
  · intro vlan mac port lastSeen
    refine ((entryCell vlan mac).read_run (s := withProbeId probeId) rfl ops
      ⟨port, lastSeen⟩).trans ?_
    simp only [Machine.Cell.Spares, entryCell, learned_eq_some, learned_eq_none, not_or]
  · intro op vlan mac hlearn hkeep
    exact lookup_next_of_spares hlearn hkeep
  · -- the last write is killed, and what it overwrote is gone
    intro vlan mac port lastSeen before t op after htrace hlearn hlast hpurge
    obtain ⟨e, he, hkill⟩ := hpurge
    exact (entryCell vlan mac).read_run_eq_none (s := withProbeId probeId) rfl ops htrace
      (learned_eq_some.mpr hlearn) (fun e he => learned_eq_none.mpr (hlast e he))
      ⟨e, he, Or.inl hkill⟩
  · intro maxAge now
    exact fst_ageOut _ maxAge now

/-- A host that moved from port 1 to port 2 is not sent back to port 1 when port 2 is
blocked. -/
theorem macTable_live_history_moved :
    (machine.run (withProbeId 7) [.addPort ⟨1⟩ (.access 10), .addPort ⟨2⟩ (.access 10),
      .forward ⟨1⟩ (hostFrame 1 9) 0, .forward ⟨2⟩ (hostFrame 1 9) 1,
      .blockPort ⟨2⟩]).macTable.entries.lookup (10, hostMac 1) = none := by
  have hhistory := (macTable_live_history 7 [.addPort ⟨1⟩ (.access 10),
    .addPort ⟨2⟩ (.access 10), .forward ⟨1⟩ (hostFrame 1 9) 0, .forward ⟨2⟩ (hostFrame 1 9) 1,
    .blockPort ⟨2⟩] rfl).2.2.1
  refine hhistory 10 (hostMac 1) ⟨2⟩ 1 (machine.trace (withProbeId 7)
    [.addPort ⟨1⟩ (.access 10), .addPort ⟨2⟩ (.access 10), .forward ⟨1⟩ (hostFrame 1 9) 0])
    _ _ [(_, .blockPort ⟨2⟩)] rfl ?_ ?_ ⟨_, List.mem_singleton_self _, rfl⟩
  · exact learns_iff.mpr ⟨hostFrame 1 9, rfl, by decide, rfl, by decide⟩
  · rintro e he p now ⟨frame, hop, -⟩
    rw [List.mem_singleton.mp he] at hop
    exact absurd hop (by simp)

end VlanSwitch
