import VlanSwitch.Switch.Forwarding

/-!
# What forwarding does, case by case

`VlanSwitch.Switch.forward` branches on the frame, on the port and on its mode before
it touches anything. `VlanSwitch.Switch.verdict` is that branching alone: it reads the
port table and the probe id, and nothing else
(`VlanSwitch.Switch.verdict_congr`). What is done in each case is
`VlanSwitch.Switch.forward_eq`, and every later statement about forwarding is an
analysis of its five cases:

| verdict | result | state afterwards |
|---|---|---|
| `unknown` | `UnknownPort` | unchanged |
| `ownProbe` | nothing to send | the ingress port blocked |
| `foreignProbe` | nothing to send | unchanged |
| `rejected e` | `e` | one more drop on the ingress port |
| `accepted v` | the deliveries | `VlanSwitch.Switch.accept` |
-/

namespace VlanSwitch

/-- What `forward` makes of a frame, before it does anything about it. -/
inductive Verdict where
  /-- The ingress port is not registered. -/
  | unknown
  /-- A probe of this very switch. -/
  | ownProbe
  /-- A probe of another switch. -/
  | foreignProbe
  /-- An ordinary frame that is not let in. -/
  | rejected (e : SwitchError)
  /-- An ordinary frame of a VLAN. -/
  | accepted (vlan : Vlan)
  deriving DecidableEq

namespace Switch

/-- The branch `forward` takes. -/
def verdict (s : Switch) (ingress : PortId) (frame : EthernetFrame) : Verdict :=
  match s.ports.lookup ingress with
  | none => .unknown
  | some entry =>
    if LoopGuard.isAnyProbe frame then
      if LoopGuard.isOwnProbe frame s.probeId then .ownProbe else .foreignProbe
    else if entry.blocked then .rejected (.portBlocked ingress)
    else
      match s.ingressVlan ingress frame with
      | .error e => .rejected e
      | .ok vlan => .accepted vlan

/-- The switch after it let a frame of `vlan` in and learned its source. -/
def letIn (s : Switch) (ingress : PortId) (vlan : Vlan) (frame : EthernetFrame)
    (now : Instant) : Switch :=
  (s.countIn ingress vlan frame.wireLen).learnSource vlan frame ingress now

/-- What an accepted frame of `vlan` is sent out as. -/
def deliveries (s : Switch) (ingress : PortId) (vlan : Vlan) (frame : EthernetFrame)
    (now : Instant) : List Delivery :=
  ((s.letIn ingress vlan frame now).egressPorts ingress vlan frame).filterMap fun port =>
    s.encodeForEgress port vlan frame

/-- The switch after a frame of `vlan` was let in, learned from and sent on. -/
def accept (s : Switch) (ingress : PortId) (vlan : Vlan) (frame : EthernetFrame)
    (now : Instant) : Switch :=
  (s.deliveries ingress vlan frame now).foldl (fun s d => s.countOut vlan d)
    (s.letIn ingress vlan frame now)

/-! ### What the steps of forwarding leave alone -/

theorem eq_of_fields {s t : Switch} (hports : s.ports = t.ports) (htable : s.macTable = t.macTable)
    (hport : s.portCounters = t.portCounters) (hvlan : s.vlanCounters = t.vlanCounters)
    (hid : s.probeId = t.probeId) : s = t := by
  obtain ⟨ports, macTable, portCounters, vlanCounters, probeId⟩ := s
  subst hports htable hport hvlan hid
  rfl

@[simp] theorem ports_countDrop (s : Switch) (p : PortId) : (s.countDrop p).ports = s.ports := rfl

@[simp] theorem probeId_countDrop (s : Switch) (p : PortId) :
    (s.countDrop p).probeId = s.probeId := rfl

@[simp] theorem ports_letIn (s : Switch) (ingress : PortId) (vlan : Vlan) (frame : EthernetFrame)
    (now : Instant) : (s.letIn ingress vlan frame now).ports = s.ports := by
  unfold letIn learnSource
  split <;> rfl

@[simp] theorem probeId_letIn (s : Switch) (ingress : PortId) (vlan : Vlan)
    (frame : EthernetFrame) (now : Instant) :
    (s.letIn ingress vlan frame now).probeId = s.probeId := by
  unfold letIn learnSource
  split <;> rfl

theorem macTable_letIn (s : Switch) (ingress : PortId) (vlan : Vlan) (frame : EthernetFrame)
    (now : Instant) :
    (s.letIn ingress vlan frame now).macTable =
      if isGroupAddress frame.src then s.macTable
      else s.macTable.learn vlan frame.src ingress now := by
  unfold letIn learnSource
  split <;> rfl

@[simp] theorem portCounters_letIn (s : Switch) (ingress : PortId) (vlan : Vlan)
    (frame : EthernetFrame) (now : Instant) :
    (s.letIn ingress vlan frame now).portCounters =
      (s.countIn ingress vlan frame.wireLen).portCounters := by
  unfold letIn learnSource
  split <;> rfl

@[simp] theorem vlanCounters_letIn (s : Switch) (ingress : PortId) (vlan : Vlan)
    (frame : EthernetFrame) (now : Instant) :
    (s.letIn ingress vlan frame now).vlanCounters =
      (s.countIn ingress vlan frame.wireLen).vlanCounters := by
  unfold letIn learnSource
  split <;> rfl

/-- Counting deliveries touches counters only. -/
theorem foldl_countOut_eq (s : Switch) (vlan : Vlan) (ds : List Delivery) :
    (ds.foldl (fun s d => s.countOut vlan d) s).ports = s.ports ∧
      (ds.foldl (fun s d => s.countOut vlan d) s).macTable = s.macTable ∧
      (ds.foldl (fun s d => s.countOut vlan d) s).probeId = s.probeId := by
  induction ds generalizing s with
  | nil => exact ⟨rfl, rfl, rfl⟩
  | cons d ds ih => exact ih (s.countOut vlan d)

section Accept

variable (s : Switch) (ingress : PortId) (vlan : Vlan) (frame : EthernetFrame) (now : Instant)

@[simp] theorem ports_accept : (s.accept ingress vlan frame now).ports = s.ports :=
  (foldl_countOut_eq _ vlan _).1.trans (s.ports_letIn ingress vlan frame now)

@[simp] theorem probeId_accept : (s.accept ingress vlan frame now).probeId = s.probeId :=
  (foldl_countOut_eq _ vlan _).2.2.trans (s.probeId_letIn ingress vlan frame now)

theorem macTable_accept :
    (s.accept ingress vlan frame now).macTable =
      if isGroupAddress frame.src then s.macTable
      else s.macTable.learn vlan frame.src ingress now :=
  (foldl_countOut_eq _ vlan _).2.1.trans (s.macTable_letIn ingress vlan frame now)

end Accept

/-! ### The cases -/

/-- Encoding for egress reads the port table only. -/
theorem encodeForEgress_congr {s t : Switch} (h : s.ports = t.ports) (port : PortId)
    (vlan : Vlan) (frame : EthernetFrame) :
    s.encodeForEgress port vlan frame = t.encodeForEgress port vlan frame := by
  rw [encodeForEgress, encodeForEgress, h]

/-- Flooding reads the port table only. -/
theorem floodTargets_congr {s t : Switch} (h : s.ports = t.ports) (vlan : Vlan)
    (exclude : PortId) : s.floodTargets vlan exclude = t.floodTargets vlan exclude := by
  rw [floodTargets, floodTargets, h]

/-- Resolving a VLAN reads the port table only. -/
theorem ingressVlan_congr {s t : Switch} (h : s.ports = t.ports) (port : PortId)
    (frame : EthernetFrame) : s.ingressVlan port frame = t.ingressVlan port frame := by
  rw [ingressVlan, ingressVlan, h]

/-- **The verdict reads the port table and the probe id only.** -/
theorem verdict_congr {s t : Switch} (hports : s.ports = t.ports) (hid : s.probeId = t.probeId)
    (ingress : PortId) (frame : EthernetFrame) :
    s.verdict ingress frame = t.verdict ingress frame := by
  rw [verdict, verdict, hports, hid, ingressVlan_congr hports]

/-- **What forwarding does**, by verdict. -/
theorem forward_eq (s : Switch) (ingress : PortId) (frame : EthernetFrame) (now : Instant) :
    s.forward ingress frame now = match s.verdict ingress frame with
      | .unknown => (.error (.unknownPort ingress), s)
      | .ownProbe => (.ok [], s.blockPort ingress)
      | .foreignProbe => (.ok [], s)
      | .rejected e => (.error e, s.countDrop ingress)
      | .accepted vlan =>
        (.ok (s.deliveries ingress vlan frame now), s.accept ingress vlan frame now) := by
  unfold forward verdict
  by_cases hprobe : LoopGuard.isAnyProbe frame
  · rw [if_pos hprobe, handleLoopProbe]
    cases hport : s.ports.lookup ingress with
    | none =>
      rw [if_pos (Finmap.lookup_eq_none.mp hport)]
    | some entry =>
      rw [if_neg (not_not.mpr (Finmap.mem_of_lookup_eq_some hport))]
      dsimp only
      rw [if_pos hprobe]
      by_cases hown : LoopGuard.isOwnProbe frame s.probeId
      · rw [if_pos hown, if_pos hown]
      · rw [if_neg hown, if_neg hown]
  · rw [if_neg hprobe]
    cases hport : s.ports.lookup ingress with
    | none => rfl
    | some entry =>
      dsimp only
      rw [if_neg hprobe]
      by_cases hblocked : entry.blocked = true
      · rw [if_pos hblocked, if_pos hblocked]
      · rw [if_neg hblocked, if_neg hblocked]
        cases s.ingressVlan ingress frame with
        | error e => rfl
        | ok vlan =>
          -- encoding reads the ports, which letting the frame in does not touch
          have hencode : ∀ port, (s.letIn ingress vlan frame now).encodeForEgress port vlan frame =
              s.encodeForEgress port vlan frame := fun port =>
            encodeForEgress_congr (s.ports_letIn ingress vlan frame now) port vlan frame
          simp only [accept, deliveries, ← hencode]
          rfl

/-- A frame resolves to `vlan` on `ingress`: it is not a probe, the port is registered
and not blocked, and its mode puts the frame there. -/
def Resolves (s : Switch) (ingress : PortId) (frame : EthernetFrame) (vlan : Vlan) : Prop :=
  ¬LoopGuard.isAnyProbe frame ∧ s.isBlocked ingress = false ∧
    s.ingressVlan ingress frame = .ok vlan

instance (s : Switch) (ingress : PortId) (frame : EthernetFrame) (vlan : Vlan) :
    Decidable (s.Resolves ingress frame vlan) :=
  decidable_of_iff (¬LoopGuard.isAnyProbe frame ∧ s.isBlocked ingress = false ∧
    (match s.ingressVlan ingress frame with
      | .ok v => decide (v = vlan)
      | .error _ => false) = true) (by
    unfold Resolves
    cases s.ingressVlan ingress frame <;> simp)

/-- **A frame is accepted exactly when it resolves.** -/
theorem verdict_eq_accepted {s : Switch} {ingress : PortId} {frame : EthernetFrame}
    {vlan : Vlan} : s.verdict ingress frame = .accepted vlan ↔ s.Resolves ingress frame vlan := by
  unfold verdict Resolves isBlocked
  cases hport : s.ports.lookup ingress with
  | none => simp [ingressVlan, hport]
  | some entry =>
    by_cases hprobe : LoopGuard.isAnyProbe frame
    · by_cases hown : LoopGuard.isOwnProbe frame s.probeId <;> simp [hprobe, hown]
    · cases hblocked : entry.blocked with
      | true => simp [hprobe, hblocked]
      | false => cases s.ingressVlan ingress frame <;> simp [hprobe, hblocked]

/-- The verdict on a registered port. -/
theorem verdict_of_mem {s : Switch} {ingress : PortId} (h : ingress ∈ s.ports)
    (frame : EthernetFrame) :
    s.verdict ingress frame =
      if LoopGuard.isAnyProbe frame then
        if LoopGuard.isOwnProbe frame s.probeId then .ownProbe else .foreignProbe
      else if s.isBlocked ingress then .rejected (.portBlocked ingress)
      else
        match s.ingressVlan ingress frame with
        | .error e => .rejected e
        | .ok vlan => .accepted vlan := by
  obtain ⟨entry, hentry⟩ := Finmap.mem_iff.mp h
  rw [verdict, isBlocked, hentry]

/-- Only a port that is not registered is unknown. -/
theorem verdict_eq_unknown {s : Switch} {ingress : PortId} {frame : EthernetFrame} :
    s.verdict ingress frame = .unknown ↔ ingress ∉ s.ports := by
  by_cases hport : ingress ∈ s.ports
  · rw [verdict_of_mem hport]
    refine ⟨fun h => ?_, fun h => absurd hport h⟩
    split_ifs at h
    rcases hvlan : s.ingressVlan ingress frame with e | vlan <;> simp [hvlan] at h
  · refine ⟨fun _ => hport, fun _ => ?_⟩
    rw [verdict, Finmap.lookup_eq_none.mpr hport]

/-- A verdict that is not about a missing port comes from a registered one. -/
theorem mem_of_verdict_ne {s : Switch} {ingress : PortId} {frame : EthernetFrame}
    (h : s.verdict ingress frame ≠ .unknown) : ingress ∈ s.ports := by
  by_contra hport
  exact h (verdict_eq_unknown.mpr hport)

/-- **A probe blocks exactly on the ports of its own switch.** -/
theorem verdict_eq_ownProbe {s : Switch} {ingress : PortId} {frame : EthernetFrame} :
    s.verdict ingress frame = .ownProbe ↔
      ingress ∈ s.ports ∧ LoopGuard.isOwnProbe frame s.probeId := by
  constructor
  · intro h
    have hport := mem_of_verdict_ne (h.trans_ne (by simp))
    rw [verdict_of_mem hport] at h
    split_ifs at h with hprobe hown
    · exact ⟨hport, hown⟩
    · rcases hvlan : s.ingressVlan ingress frame with e | vlan <;> simp [hvlan] at h
  · rintro ⟨hport, hown⟩
    rw [verdict_of_mem hport, if_pos hown.isAnyProbe, if_pos hown]

/-- A probe of another switch does nothing. -/
theorem verdict_eq_foreignProbe {s : Switch} {ingress : PortId} {frame : EthernetFrame} :
    s.verdict ingress frame = .foreignProbe ↔
      ingress ∈ s.ports ∧ LoopGuard.isAnyProbe frame ∧
        ¬LoopGuard.isOwnProbe frame s.probeId := by
  constructor
  · intro h
    have hport := mem_of_verdict_ne (h.trans_ne (by simp))
    rw [verdict_of_mem hport] at h
    split_ifs at h with hprobe hown
    · exact ⟨hport, hprobe, hown⟩
    · rcases hvlan : s.ingressVlan ingress frame with e | vlan <;> simp [hvlan] at h
  · rintro ⟨hport, hprobe, hown⟩
    rw [verdict_of_mem hport, if_pos hprobe, if_neg hown]

/-- A rejected frame is an ordinary one, on a registered port. -/
theorem verdict_eq_rejected {s : Switch} {ingress : PortId} {frame : EthernetFrame}
    {e : SwitchError} (h : s.verdict ingress frame = .rejected e) :
    ingress ∈ s.ports ∧ ¬LoopGuard.isAnyProbe frame := by
  have hport := mem_of_verdict_ne (h.trans_ne (by simp))
  refine ⟨hport, ?_⟩
  intro hprobe
  rw [verdict_of_mem hport, if_pos hprobe] at h
  split at h <;> cases h

/-- An ordinary frame on a blocked port is rejected. -/
theorem verdict_of_blocked {s : Switch} {ingress : PortId} {frame : EthernetFrame}
    (hprobe : ¬LoopGuard.isAnyProbe frame) (hport : ingress ∈ s.ports)
    (hblocked : s.isBlocked ingress = true) :
    s.verdict ingress frame = .rejected (.portBlocked ingress) := by
  rw [verdict_of_mem hport, if_neg hprobe, if_pos hblocked]

theorem forward_of_resolves {s : Switch} {ingress : PortId} {frame : EthernetFrame}
    {vlan : Vlan} (h : s.Resolves ingress frame vlan) (now : Instant) :
    s.forward ingress frame now =
      (.ok (s.deliveries ingress vlan frame now), s.accept ingress vlan frame now) := by
  rw [forward_eq, verdict_eq_accepted.mpr h]

/-- **A frame resolves to a VLAN** exactly when it is no probe, `forward` lets it in and
the port puts it there. -/
theorem resolves_iff_forward {s : Switch} {ingress : PortId} {frame : EthernetFrame}
    {vlan : Vlan} (now : Instant) :
    s.Resolves ingress frame vlan ↔
      ¬LoopGuard.isAnyProbe frame ∧ (∃ ds, (s.forward ingress frame now).1 = .ok ds) ∧
        s.ingressVlan ingress frame = .ok vlan := by
  constructor
  · intro h
    exact ⟨h.1, ⟨_, congrArg Prod.fst (forward_of_resolves h now)⟩, h.2.2⟩
  · rintro ⟨hprobe, ⟨ds, hds⟩, hvlan⟩
    rw [forward_eq] at hds
    rcases hv : s.verdict ingress frame with _ | _ | _ | e | w
    · simp [hv] at hds
    · exact absurd (verdict_eq_ownProbe.mp hv).2.isAnyProbe hprobe
    · exact absurd (verdict_eq_foreignProbe.mp hv).2.1 hprobe
    · simp [hv] at hds
    · have hr := verdict_eq_accepted.mp hv
      exact ⟨hprobe, hr.2.1, hvlan⟩

/-- A frame resolves to one VLAN. -/
theorem Resolves.unique {s : Switch} {ingress : PortId} {frame : EthernetFrame} {v w : Vlan}
    (hv : s.Resolves ingress frame v) (hw : s.Resolves ingress frame w) : v = w :=
  Except.ok.inj (hv.2.2.symm.trans hw.2.2)

/-- The port a frame resolves on is registered, unblocked, and carries the VLAN. -/
theorem Resolves.exists_entry {s : Switch} {ingress : PortId} {frame : EthernetFrame}
    {vlan : Vlan} (h : s.Resolves ingress frame vlan) :
    ∃ entry, s.ports.lookup ingress = some entry ∧ entry.blocked = false ∧
      entry.mode.carries vlan := by
  obtain ⟨-, hblocked, hvlan⟩ := h
  rw [ingressVlan] at hvlan
  rw [isBlocked] at hblocked
  cases hport : s.ports.lookup ingress with
  | none => simp [hport] at hvlan
  | some entry =>
    rw [hport] at hvlan hblocked
    refine ⟨entry, rfl, hblocked, ?_⟩
    dsimp only at hvlan
    split at hvlan
    · cases hvlan
    · next hmode _ =>
      split at hvlan
      · next hallowed =>
        obtain rfl := Except.ok.inj hvlan
        rw [hmode]
        exact hallowed
      · cases hvlan
    · next hmode _ =>
      rw [hmode]
      exact Except.ok.inj hvlan
    · next hmode _ =>
      rw [hmode]
      exact Or.inr (congrArg some (Except.ok.inj hvlan))
    · cases hvlan

end Switch

end VlanSwitch
