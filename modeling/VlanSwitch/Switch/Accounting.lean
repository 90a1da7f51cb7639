import VlanSwitch.Lib.Meter
import VlanSwitch.Switch.Counting
import VlanSwitch.Switch.Egress

/-!
# The counters add up

The counters of a port are a meter (`Machine.Meter`) that removing the port resets:
`VlanSwitch.gain` is what an event adds to it, and so what the meter shows is read off
the events since (`VlanSwitch.portMeter`). The same event adds as much to the counters
of one VLAN as it adds to those of all ports together; only the ports' share is ever
discarded, and `VlanSwitch.Switch.total_next` is the balance one step keeps.
`VlanSwitch.counter_conservation` puts the two together, with what can have a counter
at all.
-/

namespace VlanSwitch

/-! ### Counters add up -/

namespace Counters

instance : Zero Counters := ⟨{}⟩

instance : Add Counters where
  add c d :=
    { framesIn := c.framesIn + d.framesIn
      bytesIn := c.bytesIn + d.bytesIn
      framesOut := c.framesOut + d.framesOut
      bytesOut := c.bytesOut + d.bytesOut
      drops := c.drops + d.drops }

theorem add_def (c d : Counters) :
    c + d = ⟨c.framesIn + d.framesIn, c.bytesIn + d.bytesIn, c.framesOut + d.framesOut,
      c.bytesOut + d.bytesOut, c.drops + d.drops⟩ := rfl

/-- Counters are added field by field. -/
instance : AddCommMonoid Counters where
  add_assoc a b c := by simp only [add_def, Nat.add_assoc]
  zero_add c := by simp only [add_def, show (0 : Counters) = {} from rfl, Nat.zero_add]
  add_zero c := by simp only [add_def, show (0 : Counters) = {} from rfl, Nat.add_zero]
  add_comm a b := by
    simp only [add_def, Nat.add_comm]
  nsmul := nsmulRec

/-- The counters of one frame of `len` bytes in. -/
def inOne (len : ℕ) : Counters := { framesIn := 1, bytesIn := len }

/-- The counters of one delivery of `len` bytes. -/
def outOne (len : ℕ) : Counters := { framesOut := 1, bytesOut := len }

/-- The counters of a list of deliveries. -/
def outs (ds : List Delivery) : Counters :=
  { framesOut := ds.length, bytesOut := totalBytes ds }

/-- The counters of one frame rejected. -/
def dropOne : Counters := { drops := 1 }

theorem addIn_eq (c : Counters) (len : ℕ) : c.addIn len = c + inOne len := rfl

theorem addOut_eq (c : Counters) (len : ℕ) : c.addOut len = c + outOne len := rfl

theorem addOuts_eq (c : Counters) (ds : List Delivery) : c.addOuts ds = c + outs ds := rfl

theorem addDrop_eq (c : Counters) : c.addDrop = c + dropOne := rfl

end Counters

/-! ### What an event adds to the counters of a port -/

/-- What an event adds to the counters of `p`. -/
def gain (p : PortId) : Switch × Op → Counters
  | (t, .forward q frame now) =>
    match t.verdict q frame with
    | .rejected _ => if p = q then Counters.dropOne else 0
    | .accepted vlan =>
      (if p = q then Counters.inOne frame.wireLen else 0) +
        Counters.outs (deliveriesFor p (t.deliveries q vlan frame now))
    | _ => 0
  | _ => 0

/-- An ordinary frame that comes in on `p`, and finds it registered. -/
def OfferedOn (p : PortId) : Switch × Op → Prop
  | (t, .forward q frame _) => q = p ∧ p ∈ t.ports ∧ ¬LoopGuard.isAnyProbe frame
  | _ => False

instance (p : PortId) : (e : Switch × Op) → Decidable (OfferedOn p e)
  | (_, .forward ..) => inferInstanceAs (Decidable (_ ∧ _))
  | (_, .addPort ..) => inferInstanceAs (Decidable False)
  | (_, .removePort ..) => inferInstanceAs (Decidable False)
  | (_, .blockPort ..) => inferInstanceAs (Decidable False)
  | (_, .unblockPort ..) => inferInstanceAs (Decidable False)
  | (_, .ageOut ..) => inferInstanceAs (Decidable False)

/-- The length of an ordinary frame that comes in on `p` and is accepted. -/
def acceptedBytes (p : PortId) : Switch × Op → ℕ
  | (t, .forward q frame now) =>
    if q = p ∧ ¬LoopGuard.isAnyProbe frame ∧ (t.forward q frame now).1.isOk then frame.wireLen
    else 0
  | _ => 0

/-- The deliveries for `p` that an event returns. -/
def sentTo (p : PortId) : Switch × Op → List Delivery
  | (t, .forward q frame now) =>
    match (t.forward q frame now).1 with
    | .ok ds => deliveriesFor p ds
    | .error _ => []
  | _ => []

namespace Switch

/-- **One step on the counters of a port**: removing it resets them, and any other
event adds to them. -/
theorem portCounter_next (s : Switch) (op : Op) (p : PortId) :
    (machine.next s op).portCounter p =
      if op = .removePort p then 0 else s.portCounter p + gain p (s, op) := by
  cases op with
  | removePort q =>
    by_cases hq : q = p
    · rw [if_pos (congrArg Op.removePort hq), ← hq]
      exact Finmap.getOrDefault_erase_self q s.portCounters
    · rw [if_neg fun hc => hq (Op.removePort.inj hc)]
      exact (Finmap.getOrDefault_erase_ne (Ne.symm hq) s.portCounters).trans (add_zero _).symm
  | forward ingress frame now =>
    rw [if_neg fun hc => by cases hc]
    change (s.forward ingress frame now).2.portCounter p = _
    rw [forward_eq, gain]
    rcases hv : s.verdict ingress frame with _ | _ | _ | e | vlan
    · exact (add_zero _).symm
    · exact (add_zero _).symm
    · exact (add_zero _).symm
    · dsimp only
      rw [portCounter_countDrop]
      split
      · exact Counters.addDrop_eq _
      · exact (add_zero _).symm
    · dsimp only
      rw [portCounter_accept, Counters.addOuts_eq, ← add_assoc]
      split
      · rw [Counters.addIn_eq]
      · rw [add_zero]
  | _ => exact (if_neg fun hc => by cases hc).trans (add_zero _).symm |>.symm

end Switch

open Switch

/-- **The counters of a port are a meter** that its removal resets. -/
def portMeter (p : PortId) : Machine.Meter machine Counters where
  read s := s.portCounter p
  resets e := e.2 = .removePort p
  gain := gain p
  read_next s op := by
    rw [portCounter_next]
    simp only [decide_eq_true_eq]

/-- The events since `p` was last removed. -/
def sinceRemoved (p : PortId) (events : List (Switch × Op)) : List (Switch × Op) :=
  events.rtakeWhile fun e => e.2 ≠ .removePort p

/-- Every ordinary frame offered to a registered port is counted once, in or as a drop. -/
theorem offered_gain (p : PortId) (e : Switch × Op) :
    (gain p e).framesIn + (gain p e).drops = if OfferedOn p e then 1 else 0 := by
  obtain ⟨t, op⟩ := e
  cases op with
  | forward q frame now =>
    rw [gain]
    rcases hv : t.verdict q frame with _ | _ | _ | e | vlan
    · refine (if_neg ?_).symm
      rintro ⟨rfl, hport, -⟩
      exact verdict_eq_unknown.mp hv hport
    · exact (if_neg fun h => h.2.2 (verdict_eq_ownProbe.mp hv).2.isAnyProbe).symm
    · exact (if_neg fun h => h.2.2 (verdict_eq_foreignProbe.mp hv).2.1).symm
    · obtain ⟨hport, hprobe⟩ := verdict_eq_rejected hv
      dsimp only
      by_cases hq : p = q
      · have hoffered : OfferedOn p (t, .forward q frame now) := ⟨hq.symm, hq ▸ hport, hprobe⟩
        rw [if_pos hq, if_pos hoffered]
        rfl
      · have hoffered : ¬OfferedOn p (t, .forward q frame now) := fun h => hq h.1.symm
        rw [if_neg hq, if_neg hoffered]
        rfl
    · have hr := verdict_eq_accepted.mp hv
      obtain ⟨entry, hentry, -⟩ := hr.exists_entry
      dsimp only
      by_cases hq : p = q
      · have hoffered : OfferedOn p (t, .forward q frame now) :=
          ⟨hq.symm, hq ▸ Finmap.mem_of_lookup_eq_some hentry, hr.1⟩
        rw [if_pos hq, if_pos hoffered]
        rfl
      · have hoffered : ¬OfferedOn p (t, .forward q frame now) := fun h => hq h.1.symm
        rw [if_neg hq, if_neg hoffered]
        rfl
  | _ => rfl

/-- The bytes counted in are those of the accepted frames. -/
theorem bytesIn_gain (p : PortId) (e : Switch × Op) : (gain p e).bytesIn = acceptedBytes p e := by
  obtain ⟨t, op⟩ := e
  cases op with
  | forward q frame now =>
    rw [gain, acceptedBytes, forward_eq]
    rcases hv : t.verdict q frame with _ | _ | _ | e | vlan
    · exact (if_neg fun h => Bool.false_ne_true h.2.2).symm
    · exact (if_neg fun h => h.2.1 (verdict_eq_ownProbe.mp hv).2.isAnyProbe).symm
    · exact (if_neg fun h => h.2.1 (verdict_eq_foreignProbe.mp hv).2.1).symm
    · have hrejected : ¬(q = p ∧ ¬LoopGuard.isAnyProbe frame ∧
          (Except.error e : ForwardResult).isOk) := fun h => Bool.false_ne_true h.2.2
      dsimp only
      rw [if_neg hrejected]
      split <;> rfl
    · dsimp only
      by_cases hq : p = q
      · rw [if_pos hq, if_pos ⟨hq.symm, (verdict_eq_accepted.mp hv).1, rfl⟩]
        rfl
      · have hother : ¬(q = p ∧ ¬LoopGuard.isAnyProbe frame ∧
            (Except.ok (t.deliveries q vlan frame now) : ForwardResult).isOk) :=
          fun h => hq h.1.symm
        rw [if_neg hq, if_neg hother, Counters.add_def]
        exact Nat.zero_add 0
  | _ => rfl

/-- What is counted out are the deliveries. -/
theorem outs_gain (p : PortId) (e : Switch × Op) :
    (gain p e).framesOut = (sentTo p e).length ∧ (gain p e).bytesOut = totalBytes (sentTo p e) := by
  obtain ⟨t, op⟩ := e
  cases op with
  | forward q frame now =>
    rw [gain, sentTo, forward_eq]
    rcases t.verdict q frame with _ | _ | _ | e | vlan
    · exact ⟨rfl, rfl⟩
    · exact ⟨rfl, rfl⟩
    · exact ⟨rfl, rfl⟩
    · dsimp only
      split <;> exact ⟨rfl, rfl⟩
    · have hin : ∀ c : Counters, c.framesOut = 0 → c.bytesOut = 0 → ∀ ds,
          (c + Counters.outs ds).framesOut = ds.length ∧
            (c + Counters.outs ds).bytesOut = totalBytes ds := fun c hf hb ds => by
        rw [Counters.add_def, hf, hb]
        exact ⟨Nat.zero_add _, Nat.zero_add _⟩
      dsimp only
      split
      · exact hin _ rfl rfl _
      · exact hin _ rfl rfl _
  | _ => exact ⟨rfl, rfl⟩

/-! ### The balance between ports and VLANs -/

/-- A quantity of the counters that adds up, and that drops do not contribute to. -/
structure Counters.Traffic (f : Counters → ℕ) : Prop where
  zero : f 0 = 0
  add : ∀ c d, f (c + d) = f c + f d
  dropOne : f Counters.dropOne = 0

/-- **The four traffic counters.** -/
theorem Counters.traffic_of_mem {f : Counters → ℕ}
    (h : f ∈ [Counters.framesIn, Counters.bytesIn, Counters.framesOut, Counters.bytesOut]) :
    Counters.Traffic f := by
  simp only [List.mem_cons, List.not_mem_nil, or_false] at h
  rcases h with rfl | rfl | rfl | rfl <;> exact ⟨rfl, fun _ _ => rfl, rfl⟩

/-- A traffic counter of a sum is the sum of the traffic counters. -/
theorem Counters.sum_of_add {f : Counters → ℕ} (h0 : f 0 = 0)
    (hadd : ∀ c d, f (c + d) = f c + f d) (l : List Counters) : f l.sum = (l.map f).sum := by
  induction l with
  | nil => exact h0
  | cons c l ih => rw [List.sum_cons, hadd, ih, List.map_cons, List.sum_cons]

/-- What an event discards of the quantity `f`. -/
def discarded (f : Counters → ℕ) : Switch × Op → ℕ
  | (t, .removePort p) => f (t.portCounter p)
  | _ => 0

namespace Switch

section Balance

variable {f : Counters → ℕ} (hf : Counters.Traffic f)

include hf

theorem total_countOut (s : Switch) (vlan : Vlan) (d : Delivery) :
    ∃ k, (s.countOut vlan d).vlanCounters.total f = s.vlanCounters.total f + k ∧
      (s.countOut vlan d).portCounters.total f = s.portCounters.total f + k := by
  have hadd : ∀ c : Counters, f (c.addOut d.bytes.length) =
      f c + f (Counters.outOne d.bytes.length) := fun c => by rw [Counters.addOut_eq, hf.add]
  exact ⟨_, Finmap.total_entryOrDefault hf.zero vlan _ s.vlanCounters (hadd _),
    Finmap.total_entryOrDefault hf.zero d.port _ s.portCounters (hadd _)⟩

theorem total_foldl_countOut (s : Switch) (vlan : Vlan) (ds : List Delivery) :
    ∃ k, (ds.foldl (fun s d => s.countOut vlan d) s).vlanCounters.total f =
        s.vlanCounters.total f + k ∧
      (ds.foldl (fun s d => s.countOut vlan d) s).portCounters.total f =
        s.portCounters.total f + k := by
  induction ds generalizing s with
  | nil => exact ⟨0, rfl, rfl⟩
  | cons d ds ih =>
    obtain ⟨k, hvlan, hport⟩ := total_countOut hf s vlan d
    obtain ⟨k', hvlan', hport'⟩ := ih (s.countOut vlan d)
    refine ⟨k + k', ?_, ?_⟩
    · rw [List.foldl_cons, hvlan', hvlan, Nat.add_assoc]
    · rw [List.foldl_cons, hport', hport, Nat.add_assoc]

/-- **Forwarding adds as much to the VLANs as to the ports.** -/
theorem total_forward (s : Switch) (ingress : PortId) (frame : EthernetFrame) (now : Instant) :
    ∃ k, (s.forward ingress frame now).2.vlanCounters.total f = s.vlanCounters.total f + k ∧
      (s.forward ingress frame now).2.portCounters.total f = s.portCounters.total f + k := by
  rw [forward_eq]
  rcases s.verdict ingress frame with _ | _ | _ | e | vlan
  · exact ⟨0, rfl, rfl⟩
  · exact ⟨0, rfl, rfl⟩
  · exact ⟨0, rfl, rfl⟩
  · have hdrop : f (s.portCounter ingress).addDrop = f (s.portCounter ingress) + 0 := by
      rw [Counters.addDrop_eq, hf.add, hf.dropOne]
    exact ⟨0, rfl, Finmap.total_entryOrDefault hf.zero ingress _ s.portCounters hdrop⟩
  · have hadd : ∀ c : Counters, f (c.addIn frame.wireLen) =
        f c + f (Counters.inOne frame.wireLen) := fun c => by rw [Counters.addIn_eq, hf.add]
    obtain ⟨k, hvlan, hport⟩ := total_foldl_countOut hf (s.letIn ingress vlan frame now) vlan
      (s.deliveries ingress vlan frame now)
    refine ⟨f (Counters.inOne frame.wireLen) + k, ?_, ?_⟩
    · refine hvlan.trans ?_
      rw [vlanCounters_letIn, ← Nat.add_assoc]
      exact congrArg (· + k) (Finmap.total_entryOrDefault hf.zero vlan _ s.vlanCounters (hadd _))
    · refine hport.trans ?_
      rw [portCounters_letIn, ← Nat.add_assoc]
      exact congrArg (· + k)
        (Finmap.total_entryOrDefault hf.zero ingress _ s.portCounters (hadd _))

/-- **The balance one step keeps**: the ports fall behind the VLANs by what is
discarded. -/
theorem total_next (s : Switch) (op : Op) :
    (machine.next s op).vlanCounters.total f + s.portCounters.total f =
      (machine.next s op).portCounters.total f + discarded f (s, op) +
        s.vlanCounters.total f := by
  cases op with
  | removePort p =>
    -- what the port had counted is discarded, and the VLANs keep their share
    have hsplit : s.portCounters.total f =
        f (s.portCounter p) + (s.portCounters.erase p).total f :=
      Finmap.total_eq_add_erase hf.zero p s.portCounters
    change s.vlanCounters.total f + s.portCounters.total f =
      (s.portCounters.erase p).total f + f (s.portCounter p) + s.vlanCounters.total f
    omega
  | forward ingress frame now =>
    obtain ⟨k, hvlan, hport⟩ := total_forward hf s ingress frame now
    change (s.forward ingress frame now).2.vlanCounters.total f + s.portCounters.total f =
      (s.forward ingress frame now).2.portCounters.total f + 0 + s.vlanCounters.total f
    omega
  | _ => exact Nat.add_comm _ _

/-- The balance over a run. -/
theorem total_run (probeId : UInt64) (ops : List Op) :
    (machine.run (withProbeId probeId) ops).vlanCounters.total f =
      (machine.run (withProbeId probeId) ops).portCounters.total f +
        ((machine.trace (withProbeId probeId) ops).map (discarded f)).sum := by
  induction ops using List.reverseRecOn with
  | nil => rfl
  | append_singleton ops op ih =>
    have hstep := total_next hf (machine.run (withProbeId probeId) ops) op
    rw [Machine.run_concat, Machine.trace_concat, List.map_append, List.sum_append, List.map_cons,
      List.map_nil, List.sum_cons, List.sum_nil]
    omega

end Balance

/-! ### What can have a counter -/

theorem mem_vlanCounters_foldl {s : Switch} {vlan w : Vlan} {ds : List Delivery}
    (h : w ∈ (ds.foldl (fun s d => s.countOut vlan d) s).vlanCounters) :
    w = vlan ∨ w ∈ s.vlanCounters := by
  induction ds generalizing s with
  | nil => exact Or.inr h
  | cons d ds ih =>
    rcases ih h with hw | hw
    · exact Or.inl hw
    · exact Finmap.mem_entryOrDefault.mp hw

theorem mem_portCounters_foldl {s : Switch} {vlan : Vlan} {p : PortId} {ds : List Delivery}
    (h : p ∈ (ds.foldl (fun s d => s.countOut vlan d) s).portCounters) :
    (∃ d ∈ ds, d.port = p) ∨ p ∈ s.portCounters := by
  induction ds generalizing s with
  | nil => exact Or.inr h
  | cons d ds ih =>
    rcases ih h with ⟨d', hd', hp⟩ | hp
    · exact Or.inl ⟨d', List.mem_cons_of_mem d hd', hp⟩
    · rcases Finmap.mem_entryOrDefault.mp hp with hp | hp
      · exact Or.inl ⟨d, List.mem_cons_self, hp.symm⟩
      · exact Or.inr hp

/-- An accepted frame gives counters to its VLAN and to registered ports only. -/
theorem mem_vlanCounters_accept {s : Switch} {ingress : PortId} {vlan w : Vlan}
    {frame : EthernetFrame} {now : Instant}
    (h : w ∈ (s.accept ingress vlan frame now).vlanCounters) : w = vlan ∨ w ∈ s.vlanCounters := by
  rcases mem_vlanCounters_foldl h with hw | hw
  · exact Or.inl hw
  · rw [vlanCounters_letIn] at hw
    exact Finmap.mem_entryOrDefault.mp hw

theorem mem_portCounters_accept {s : Switch} {ingress p : PortId} {vlan : Vlan}
    {frame : EthernetFrame} {now : Instant} (hr : s.Resolves ingress frame vlan)
    (h : p ∈ (s.accept ingress vlan frame now).portCounters) :
    p ∈ s.ports ∨ p ∈ s.portCounters := by
  rcases mem_portCounters_foldl h with ⟨d, hd, rfl⟩ | hp
  · obtain ⟨entry, hentry, -⟩ := encodeForEgress_eq_some.mp (mem_deliveries.mp hd).2
    exact Or.inl (Finmap.mem_of_lookup_eq_some hentry)
  · rw [portCounters_letIn] at hp
    rcases Finmap.mem_entryOrDefault.mp hp with rfl | hp
    · obtain ⟨entry, hentry, -⟩ := hr.exists_entry
      exact Or.inl (Finmap.mem_of_lookup_eq_some hentry)
    · exact Or.inr hp

/-- **Counters are where they belong**: with assignable VLANs, which count no drops,
and with registered ports. -/
structure CountersPlaced (s : Switch) : Prop where
  vlans : ∀ vlan ∈ s.vlanCounters, isAssignable vlan
  drops : ∀ vlan, (s.vlanCounter vlan).drops = 0
  ports : ∀ p ∈ s.portCounters, p ∈ s.ports

theorem countersPlaced_withProbeId (probeId : UInt64) : (withProbeId probeId).CountersPlaced where
  vlans _ h := absurd h Finmap.notMem_empty
  drops vlan := congrArg Counters.drops (Finmap.getOrDefault_empty vlan)
  ports _ h := absurd h Finmap.notMem_empty

/-- Only registered ports get counters, and the others lose theirs. -/
theorem mem_ports_of_mem_portCounters_next {s : Switch} (h : ∀ p ∈ s.portCounters, p ∈ s.ports)
    (op : Op) : ∀ p ∈ (machine.next s op).portCounters, p ∈ (machine.next s op).ports := by
  intro p hp
  cases op with
  | addPort q mode => exact Finmap.mem_insert.mpr (Or.inr (h p hp))
  | removePort q =>
    have hp' : p ≠ q ∧ p ∈ s.portCounters := Finmap.mem_erase.mp hp
    exact Finmap.mem_erase.mpr ⟨hp'.1, h p hp'.2⟩
  | blockPort q => exact Finmap.mem_getMut.mpr (h p hp)
  | unblockPort q => exact Finmap.mem_getMut.mpr (h p hp)
  | ageOut maxAge now => exact h p hp
  | forward ingress frame now =>
    change p ∈ (s.forward ingress frame now).2.portCounters at hp
    refine mem_ports_forward.mpr ?_
    rw [forward_eq] at hp
    rcases hv : s.verdict ingress frame with _ | _ | _ | e | vlan
    · rw [hv] at hp
      exact h p hp
    · rw [hv] at hp
      exact h p hp
    · rw [hv] at hp
      exact h p hp
    · -- even a rejected frame is counted on a registered port only
      rw [hv] at hp
      rcases Finmap.mem_entryOrDefault.mp hp with rfl | hp
      · exact (verdict_eq_rejected hv).1
      · exact h p hp
    · rw [hv] at hp
      exact (mem_portCounters_accept (verdict_eq_accepted.mp hv) hp).elim id (h p)

theorem CountersPlaced.next {s : Switch} (h : s.CountersPlaced)
    (hassignable : ∀ ingress frame vlan, s.Resolves ingress frame vlan → isAssignable vlan)
    (op : Op) : (machine.next s op).CountersPlaced := by
  have hports := mem_ports_of_mem_portCounters_next h.ports op
  cases op with
  | forward ingress frame now =>
    refine ⟨?_, ?_, hports⟩
    · change ∀ vlan ∈ (s.forward ingress frame now).2.vlanCounters, isAssignable vlan
      rw [forward_eq]
      rcases hv : s.verdict ingress frame with _ | _ | _ | e | vlan
      · exact h.vlans
      · exact h.vlans
      · exact h.vlans
      · exact h.vlans
      · intro w hw
        rcases mem_vlanCounters_accept hw with rfl | hw
        · exact hassignable ingress frame w (verdict_eq_accepted.mp hv)
        · exact h.vlans w hw
    · change ∀ vlan, ((s.forward ingress frame now).2.vlanCounter vlan).drops = 0
      rw [forward_eq]
      rcases s.verdict ingress frame with _ | _ | _ | e | vlan
      · exact h.drops
      · exact h.drops
      · exact h.drops
      · exact h.drops
      · intro w
        dsimp only
        rw [vlanCounter_accept]
        split
        · exact h.drops w
        · exact h.drops w
  | _ => exact ⟨h.vlans, h.drops, hports⟩

theorem countersPlaced_of_builtReachable {s : Switch} (h : BuiltReachable s) :
    s.CountersPlaced := by
  obtain ⟨probeId, ops, hops, rfl⟩ := h
  have hrun := machine.run_invariant (I := fun t => BuiltReachable t ∧ t.CountersPlaced)
    (fun t op hop ht => ⟨ht.1.next hop, ht.2.next (fun _ _ _ hr => ht.1.isAssignable hr) op⟩)
    hops ⟨⟨probeId, [], fun op hop => absurd hop List.not_mem_nil, rfl⟩,
      countersPlaced_withProbeId probeId⟩
  exact hrun.2

end Switch

/-- **A port that has counters is registered.** -/
theorem Reachable.mem_ports_of_mem_portCounters {s : Switch} (h : Reachable s) :
    ∀ p ∈ s.portCounters, p ∈ s.ports :=
  h.induct (I := fun s => ∀ p ∈ s.portCounters, p ∈ s.ports)
    (fun _ _ hp => absurd hp Finmap.notMem_empty)
    fun _ op ih => mem_ports_of_mem_portCounters_next ih op

/-! ### Conservation -/

/-- Adding ones up is counting. -/
theorem sum_map_ite_one {α : Type*} (p : α → Prop) [DecidablePred p] (l : List α) :
    (l.map fun a => if p a then 1 else 0).sum = l.countP fun a => p a := by
  induction l with
  | nil => rfl
  | cons a l ih =>
    rw [List.map_cons, List.sum_cons, ih, List.countP_cons, Nat.add_comm]
    simp only [decide_eq_true_eq]

theorem totalBytes_flatMap {α : Type*} (f : α → List Delivery) (l : List α) :
    totalBytes (l.flatMap f) = (l.map fun a => totalBytes (f a)).sum := by
  induction l with
  | nil => rfl
  | cons a l ih =>
    rw [List.flatMap_cons, List.map_cons, List.sum_cons, ← ih]
    simp only [totalBytes, List.map_append, List.sum_append]

/-- **Counter conservation.** In a run from a fresh switch, each traffic counter adds up
over the VLANs to what it adds up to over the ports, and what was discarded with
removed ports. Since a port was last removed, every ordinary frame offered to it while
it was registered was counted once, as let in or as a drop, the bytes let in are those
of the accepted frames, and the frames and bytes sent are those of the deliveries. No
VLAN counts drops, the VLANs with a counter are assignable, and the ports with a
counter are registered. -/
theorem counter_conservation (probeId : UInt64) {ops : List Op} (hops : ∀ op ∈ ops, op.Built)
    {s : Switch} (hs : s = machine.run (withProbeId probeId) ops) {events : List (Switch × Op)}
    (hevents : events = machine.trace (withProbeId probeId) ops) :
    (∀ f ∈ [Counters.framesIn, Counters.bytesIn, Counters.framesOut, Counters.bytesOut],
      s.vlanCounters.total f = s.portCounters.total f + (events.map (discarded f)).sum) ∧
    (∀ p,
      (s.portCounter p).framesIn + (s.portCounter p).drops =
        (sinceRemoved p events).countP (fun e => OfferedOn p e) ∧
      (s.portCounter p).bytesIn = ((sinceRemoved p events).map (acceptedBytes p)).sum ∧
      (s.portCounter p).framesOut = ((sinceRemoved p events).flatMap (sentTo p)).length ∧
      (s.portCounter p).bytesOut = totalBytes ((sinceRemoved p events).flatMap (sentTo p))) ∧
    (∀ vlan, (s.vlanCounter vlan).drops = 0) ∧
    (∀ vlan ∈ s.vlanCounters, 1 ≤ vlan ∧ vlan ≤ 4094) ∧
    ∀ p ∈ s.portCounters, p ∈ s.ports := by
  have hplaced : s.CountersPlaced := countersPlaced_of_builtReachable ⟨probeId, ops, hops, hs⟩
  refine ⟨?_, ?_, hplaced.drops, hplaced.vlans, hplaced.ports⟩
  · intro f hf
    rw [hs, hevents]
    exact total_run (Counters.traffic_of_mem hf) probeId ops
  · intro p
    have hmeter : s.portCounter p = ((sinceRemoved p events).map (gain p)).sum := by
      have hsince : (portMeter p).since events = sinceRemoved p events :=
        congrArg (List.rtakeWhile · events) (funext fun e => (decide_not).symm)
      rw [← hsince, hs, hevents]
      have hstart : (withProbeId probeId).portCounter p = 0 := Finmap.getOrDefault_empty p
      exact (portMeter p).read_run (s := withProbeId probeId) hstart ops
    have hfield : ∀ f : Counters → ℕ, f 0 = 0 → (∀ c d, f (c + d) = f c + f d) →
        f (s.portCounter p) = ((sinceRemoved p events).map fun e => f (gain p e)).sum :=
      fun f h0 hadd => by
        rw [hmeter, Counters.sum_of_add h0 hadd, List.map_map]
        rfl
    refine ⟨?_, ?_, ?_, ?_⟩
    · refine (hfield (fun c => c.framesIn + c.drops) rfl fun c d => ?_).trans ?_
      · exact Nat.add_add_add_comm ..
      · simp only [offered_gain]
        exact sum_map_ite_one (OfferedOn p) _
    · refine (hfield Counters.bytesIn rfl fun _ _ => rfl).trans ?_
      simp only [bytesIn_gain]
    · refine (hfield Counters.framesOut rfl fun _ _ => rfl).trans ?_
      simp only [(outs_gain p _).1, List.length_flatMap]
    · refine (hfield Counters.bytesOut rfl fun _ _ => rfl).trans ?_
      simp only [(outs_gain p _).2, totalBytes_flatMap]

/-- A port that is removed takes its counters with it; the VLAN keeps its own. -/
theorem counter_conservation_removed :
    (machine.run (withProbeId 7) [.addPort ⟨1⟩ (.access 10), .addPort ⟨2⟩ (.access 10),
      .forward ⟨1⟩ (hostFrame 1 2) 0, .removePort ⟨1⟩]).vlanCounters.total Counters.bytesIn =
    (machine.run (withProbeId 7) [.addPort ⟨1⟩ (.access 10), .addPort ⟨2⟩ (.access 10),
      .forward ⟨1⟩ (hostFrame 1 2) 0, .removePort ⟨1⟩]).portCounters.total Counters.bytesIn +
        15 := by
  have hbuilt : ∀ op ∈ [Op.addPort ⟨1⟩ (.access 10), .addPort ⟨2⟩ (.access 10),
      .forward ⟨1⟩ (hostFrame 1 2) 0, .removePort ⟨1⟩], op.Built := by
    simp only [List.mem_cons, List.not_mem_nil, or_false, forall_eq_or_imp, forall_eq]
    exact ⟨Or.inl ⟨10, rfl⟩, Or.inl ⟨10, rfl⟩, trivial, trivial⟩
  exact (counter_conservation 7 hbuilt rfl rfl).1 Counters.bytesIn (by simp)

end VlanSwitch
