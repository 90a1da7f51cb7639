import VlanSwitch.Lib.Machine
import VlanSwitch.Switch.Verdict

/-!
# Runs of a switch

The operations a caller has (`VlanSwitch.Op`), the switch as a machine that takes one
after another (`VlanSwitch.machine`), and what a run of it can reach. Nothing is
assumed of the order of the operations, of the ports they name or of the clock values
they carry.
-/

namespace VlanSwitch

/-- An operation on a switch. -/
inductive Op where
  | addPort (port : PortId) (mode : PortMode)
  | removePort (port : PortId)
  | blockPort (port : PortId)
  | unblockPort (port : PortId)
  | ageOut (maxAge : Duration) (now : Instant)
  | forward (ingress : PortId) (frame : EthernetFrame) (now : Instant)
  deriving DecidableEq

/-- What an operation returns. -/
inductive Out where
  /-- Nothing. -/
  | done
  /-- How many entries were aged out. -/
  | evicted (n : ℕ)
  /-- What `forward` returned. -/
  | forwarded (r : ForwardResult)
  deriving DecidableEq

/-- The switch, as a machine. -/
def machine : Machine Switch Op Out where
  step s
    | .addPort port mode => (.done, s.addPort port mode)
    | .removePort port => (.done, s.removePort port)
    | .blockPort port => (.done, s.blockPort port)
    | .unblockPort port => (.done, s.unblockPort port)
    | .ageOut maxAge now => (.evicted (s.ageOut maxAge now).1, (s.ageOut maxAge now).2)
    | .forward ingress frame now =>
      (.forwarded (s.forward ingress frame now).1, (s.forward ingress frame now).2)

/-- An operation whose mode, if it gives one, was built by a smart constructor. -/
def Op.Built : Op → Prop
  | .addPort _ mode => mode.Built
  | _ => True

/-- A state some run reaches from a fresh switch. -/
def Reachable (s : Switch) : Prop :=
  ∃ probeId ops, s = machine.run (Switch.withProbeId probeId) ops

/-- A state some run reaches from a fresh switch, all its modes built. -/
def BuiltReachable (s : Switch) : Prop :=
  ∃ probeId ops, (∀ op ∈ ops, op.Built) ∧ s = machine.run (Switch.withProbeId probeId) ops

theorem BuiltReachable.reachable {s : Switch} (h : BuiltReachable s) : Reachable s := by
  obtain ⟨probeId, ops, -, rfl⟩ := h
  exact ⟨probeId, ops, rfl⟩

theorem Reachable.next {s : Switch} (h : Reachable s) (op : Op) :
    Reachable (machine.next s op) := by
  obtain ⟨probeId, ops, rfl⟩ := h
  exact ⟨probeId, ops ++ [op], (machine.run_concat _ ops op).symm⟩

theorem BuiltReachable.next {s : Switch} (h : BuiltReachable s) {op : Op} (hop : op.Built) :
    BuiltReachable (machine.next s op) := by
  obtain ⟨probeId, ops, hops, rfl⟩ := h
  refine ⟨probeId, ops ++ [op], fun o ho => ?_, (machine.run_concat _ ops op).symm⟩
  rcases List.mem_append.mp ho with ho | ho
  · exact hops o ho
  · exact List.mem_singleton.mp ho ▸ hop

/-- What holds of fresh switches and survives every operation holds of every reachable
state. -/
theorem Reachable.induct {I : Switch → Prop} (init : ∀ probeId, I (Switch.withProbeId probeId))
    (step : ∀ s op, I s → I (machine.next s op)) {s : Switch} (h : Reachable s) : I s := by
  obtain ⟨probeId, ops, rfl⟩ := h
  exact machine.run_invariant (P := fun _ => True) (fun s op _ => step s op)
    (fun _ _ => trivial) (init probeId)

/-- What holds of fresh switches and survives every operation with built modes holds of
every state they reach. -/
theorem BuiltReachable.induct {I : Switch → Prop}
    (init : ∀ probeId, I (Switch.withProbeId probeId))
    (step : ∀ s op, op.Built → I s → I (machine.next s op)) {s : Switch}
    (h : BuiltReachable s) : I s := by
  obtain ⟨probeId, ops, hops, rfl⟩ := h
  exact machine.run_invariant step hops (init probeId)

/-- The address of host `n` of a small network. -/
def hostMac (n : UInt8) : Mac := ⟨[0x02, 0, 0, 0, 0, n], rfl⟩

/-- A frame from one host of a small network to another. -/
def hostFrame (src dst : UInt8) : EthernetFrame where
  dst := hostMac dst
  src := hostMac src
  tag := none
  ethertype := 0x0800
  payload := [0x45]

/-! ### What each operation does to the port table -/

namespace Switch

/-- Forwarding changes the port table only by a probe of the switch's own, which blocks
the port it came in on. -/
theorem ports_forward (s : Switch) (ingress : PortId) (frame : EthernetFrame) (now : Instant) :
    (s.forward ingress frame now).2.ports =
      if s.verdict ingress frame = .ownProbe then (s.blockPort ingress).ports else s.ports := by
  rw [forward_eq]
  cases s.verdict ingress frame <;> simp

/-- Forwarding registers no port and deregisters none. -/
theorem mem_ports_forward {s : Switch} {ingress p : PortId} {frame : EthernetFrame}
    {now : Instant} : p ∈ (s.forward ingress frame now).2.ports ↔ p ∈ s.ports := by
  rw [ports_forward]
  split
  · exact Finmap.mem_getMut
  · exact Iff.rfl

/-- No operation changes the probe id. -/
theorem probeId_next (s : Switch) (op : Op) : (machine.next s op).probeId = s.probeId := by
  cases op with
  | forward ingress frame now =>
    change (s.forward ingress frame now).2.probeId = s.probeId
    rw [forward_eq]
    cases s.verdict ingress frame <;> simp [blockPort]
  | _ => rfl

theorem probeId_run (s : Switch) (ops : List Op) : (machine.run s ops).probeId = s.probeId :=
  machine.run_invariant (I := fun t => t.probeId = s.probeId) (P := fun _ => True)
    (fun t op _ h => (t.probeId_next op).trans h) (fun _ _ => trivial) rfl

/-- A blocked port stays registered, in its mode. -/
theorem lookup_ports_blockPort (s : Switch) (p q : PortId) :
    (s.blockPort p).ports.lookup q =
      if q = p then (s.ports.lookup p).map fun e => { e with blocked := true }
      else s.ports.lookup q :=
  Finmap.lookup_getMut p q _ s.ports

theorem lookup_ports_unblockPort (s : Switch) (p q : PortId) :
    (s.unblockPort p).ports.lookup q =
      if q = p then (s.ports.lookup p).map fun e => { e with blocked := false }
      else s.ports.lookup q :=
  Finmap.lookup_getMut p q _ s.ports

theorem lookup_ports_addPort (s : Switch) (p q : PortId) (mode : PortMode) :
    (s.addPort p mode).ports.lookup q =
      if q = p then some { mode, blocked := false } else s.ports.lookup q :=
  Finmap.lookup_insert_eq_ite p q _ s.ports

theorem lookup_ports_removePort (s : Switch) (p q : PortId) :
    (s.removePort p).ports.lookup q = if q = p then none else s.ports.lookup q := by
  by_cases h : q = p
  · rw [if_pos h, h]
    exact Finmap.lookup_erase p s.ports
  · rw [if_neg h]
    exact Finmap.lookup_erase_ne h

theorem isBlocked_eq_true {s : Switch} {p : PortId} :
    s.isBlocked p = true ↔ ∃ entry, s.ports.lookup p = some entry ∧ entry.blocked = true := by
  rw [isBlocked]
  rcases s.ports.lookup p with _ | entry <;> simp

/-- Whether a port is blocked is a matter of its entry. -/
theorem isBlocked_congr {s t : Switch} {p : PortId} (h : s.ports.lookup p = t.ports.lookup p) :
    s.isBlocked p = t.isBlocked p := by
  rw [isBlocked, isBlocked, h]

theorem isBlocked_blockPort {s : Switch} {p : PortId} (q : PortId)
    (h : s.isBlocked p = true ∨ p = q ∧ p ∈ s.ports) : (s.blockPort q).isBlocked p = true := by
  rw [isBlocked_eq_true, lookup_ports_blockPort]
  by_cases hq : p = q
  · have hport : p ∈ s.ports := by
      rcases h with h | ⟨-, hport⟩
      · obtain ⟨entry, hentry, -⟩ := isBlocked_eq_true.mp h
        exact Finmap.mem_of_lookup_eq_some hentry
      · exact hport
    obtain ⟨entry, hentry⟩ := Finmap.mem_iff.mp hport
    rw [if_pos hq, ← hq, hentry]
    exact ⟨_, rfl, rfl⟩
  · rw [if_neg hq]
    exact isBlocked_eq_true.mp (h.resolve_right fun hc => hq hc.1)

/-- **No frame unblocks a port.** -/
theorem isBlocked_forward {s : Switch} {p : PortId} (h : s.isBlocked p = true) (ingress : PortId)
    (frame : EthernetFrame) (now : Instant) :
    (s.forward ingress frame now).2.isBlocked p = true := by
  have hports := s.ports_forward ingress frame now
  split at hports
  · have hblock := isBlocked_blockPort ingress (Or.inl h)
    exact (isBlocked_congr (congrArg _ hports)).trans hblock
  · exact (isBlocked_congr (congrArg _ hports)).trans h

/-- A port that is up: it is registered, and not blocked. -/
def Up (s : Switch) (p : PortId) : Prop :=
  ∃ entry, s.ports.lookup p = some entry ∧ entry.blocked = false

/-- Whether a port is up is a matter of its entry. -/
theorem up_congr {s t : Switch} {p : PortId} (h : s.ports.lookup p = t.ports.lookup p) :
    s.Up p ↔ t.Up p := by
  rw [Up, Up, h]

theorem not_up_of_isBlocked {s : Switch} {p : PortId} (h : s.isBlocked p = true) : ¬s.Up p := by
  rintro ⟨entry, hentry, hup⟩
  obtain ⟨entry', hentry', hblocked⟩ := isBlocked_eq_true.mp h
  obtain rfl : entry = entry' := Option.some.inj (hentry.symm.trans hentry')
  rw [hup] at hblocked
  cases hblocked

theorem up_of_up_blockPort {s : Switch} {p q : PortId} (h : (s.blockPort q).Up p) : s.Up p := by
  by_cases hq : p = q
  · -- the port that is blocked is not up
    obtain ⟨entry, hentry, hup⟩ := h
    rw [lookup_ports_blockPort, if_pos hq] at hentry
    obtain ⟨entry', -, rfl⟩ := Option.map_eq_some_iff.mp hentry
    cases hup
  · exact (up_congr ((s.lookup_ports_blockPort q p).trans (if_neg hq))).mp h

theorem up_of_up_removePort {s : Switch} {p q : PortId} (h : (s.removePort q).Up p) : s.Up p := by
  by_cases hq : p = q
  · obtain ⟨entry, hentry, -⟩ := h
    rw [lookup_ports_removePort, if_pos hq] at hentry
    cases hentry
  · exact (up_congr ((s.lookup_ports_removePort q p).trans (if_neg hq))).mp h

/-- **No frame brings a port up.** -/
theorem up_of_up_forward {s : Switch} {ingress p : PortId} {frame : EthernetFrame} {now : Instant}
    (h : (s.forward ingress frame now).2.Up p) : s.Up p := by
  have hports := s.ports_forward ingress frame now
  split at hports
  · exact up_of_up_blockPort ((up_congr (congrArg _ hports)).mp h)
  · exact (up_congr (congrArg _ hports)).mp h

/-- **Where a registered port comes from**: it was registered before, in the same mode,
or it is being added. -/
theorem lookup_ports_next {s : Switch} {op : Op} {q : PortId} {entry : PortEntry}
    (h : (machine.next s op).ports.lookup q = some entry) :
    (∃ entry', s.ports.lookup q = some entry' ∧ entry'.mode = entry.mode) ∨
      op = .addPort q entry.mode := by
  -- blocking happens in two ways, on purpose and by a probe
  have hblock : ∀ p, (s.blockPort p).ports.lookup q = some entry →
      ∃ entry', s.ports.lookup q = some entry' ∧ entry'.mode = entry.mode := fun p hp => by
    rw [lookup_ports_blockPort] at hp
    split at hp
    · next hq =>
      obtain ⟨entry', hentry', rfl⟩ := Option.map_eq_some_iff.mp hp
      exact ⟨entry', hq ▸ hentry', rfl⟩
    · exact ⟨entry, hp, rfl⟩
  cases op with
  | addPort p mode =>
    have hp := (s.lookup_ports_addPort p q mode).symm.trans h
    split at hp
    · next hq =>
      obtain rfl := Option.some.inj hp
      exact Or.inr (hq ▸ rfl)
    · exact Or.inl ⟨entry, hp, rfl⟩
  | removePort p =>
    have hp := (s.lookup_ports_removePort p q).symm.trans h
    split at hp
    · cases hp
    · exact Or.inl ⟨entry, hp, rfl⟩
  | blockPort p => exact Or.inl (hblock p h)
  | unblockPort p =>
    have hp := (s.lookup_ports_unblockPort p q).symm.trans h
    split at hp
    · next hq =>
      obtain ⟨entry', hentry', rfl⟩ := Option.map_eq_some_iff.mp hp
      exact Or.inl ⟨entry', hq ▸ hentry', rfl⟩
    · exact Or.inl ⟨entry, hp, rfl⟩
  | ageOut maxAge now => exact Or.inl ⟨entry, h, rfl⟩
  | forward ingress frame now =>
    have hp : (s.forward ingress frame now).2.ports.lookup q = some entry := h
    rw [ports_forward] at hp
    split at hp
    · exact Or.inl (hblock ingress hp)
    · exact Or.inl ⟨entry, hp, rfl⟩

end Switch

/-- **The modes of a switch are those it was given**: built ones, if all were. -/
theorem BuiltReachable.mode_built {s : Switch} (h : BuiltReachable s) :
    ∀ p entry, s.ports.lookup p = some entry → entry.mode.Built := by
  refine h.induct (I := fun s => ∀ p entry, s.ports.lookup p = some entry → entry.mode.Built)
    (fun probeId p entry hp => ?_) fun s op hop ih p entry hp => ?_
  · exact absurd hp (by simp [Switch.withProbeId])
  · rcases Switch.lookup_ports_next hp with ⟨entry', hentry', hmode⟩ | rfl
    · exact hmode ▸ ih p entry' hentry'
    · exact hop

/-- A frame resolves to an assignable VLAN if the modes were built. -/
theorem BuiltReachable.isAssignable {s : Switch} (h : BuiltReachable s) {ingress : PortId}
    {frame : EthernetFrame} {vlan : Vlan} (hr : s.Resolves ingress frame vlan) :
    isAssignable vlan := by
  obtain ⟨entry, hentry, -, hcarries⟩ := hr.exists_entry
  exact (h.mode_built ingress entry hentry).isAssignable hcarries

end VlanSwitch
