import VlanSwitch.Lib.Renaming
import VlanSwitch.Switch.Egress

/-!
# Port numbers do not matter

A port number is a handle: nothing of what a switch does depends on which numbers its ports
have, as long as they come in the same order, which is the order it floods in. Two switches
that hold the same under other port numbers (`VlanSwitch.Renaming.Relates`) do the same
with a frame: they return the same deliveries or the same error under the other numbers,
and hold the same afterwards (`VlanSwitch.Renaming.Relates.forward`).
-/

namespace VlanSwitch

open Switch

/-- **Other numbers for some ports**, in the same order. -/
structure Renaming where
  number : PortId → PortId
  domain : Set PortId
  mono : StrictMonoOn number domain

/-- A delivery, on the port of the other number. -/
def Delivery.rename (r : Renaming) (d : Delivery) : Delivery := { d with port := r.number d.port }

/-- An error, about the port of the other number. -/
def SwitchError.rename (r : Renaming) : SwitchError → SwitchError
  | .unknownPort port => .unknownPort (r.number port)
  | .vlanNotAllowedOnTrunk port vlan => .vlanNotAllowedOnTrunk (r.number port) vlan
  | .untaggedFrameOnTrunkWithoutNative port => .untaggedFrameOnTrunkWithoutNative (r.number port)
  | .taggedFrameOnAccessPort port => .taggedFrameOnAccessPort (r.number port)
  | .portBlocked port => .portBlocked (r.number port)

/-- A verdict, about the port of the other number. -/
def Verdict.rename (r : Renaming) : Verdict → Verdict
  | .rejected e => .rejected (e.rename r)
  | v => v

/-- What `forward` returns, under the other numbers. -/
def ForwardResult.rename (r : Renaming) : ForwardResult → ForwardResult
  | .ok ds => .ok (ds.map (Delivery.rename r))
  | .error e => .error (e.rename r)

namespace Renaming

variable (r : Renaming)

theorem injOn : Set.InjOn r.number r.domain := r.mono.injOn

/-- An entry of the learned table, on the port of the other number. -/
def entry (e : Entry) : Entry := { e with port := r.number e.port }

/-- **The same switch under other port numbers.** -/
structure Relates (s t : Switch) : Prop where
  ports : Finmap.Renamed r.number r.domain s.ports t.ports
  table : ∀ key, t.macTable.entries.lookup key = (s.macTable.entries.lookup key).map r.entry
  learned : ∀ key e, s.macTable.entries.lookup key = some e → e.port ∈ r.domain
  portCounters : Finmap.Renamed r.number r.domain s.portCounters t.portCounters
  vlanCounters : t.vlanCounters = s.vlanCounters
  probeId : t.probeId = s.probeId

theorem relates_withProbeId (probeId : UInt64) :
    r.Relates (Switch.withProbeId probeId) (Switch.withProbeId probeId) where
  ports := Finmap.Renamed.empty
  table _ := by simp [Switch.withProbeId, MacTable.empty]
  learned _ _ h := by simp [Switch.withProbeId, MacTable.empty] at h
  portCounters := Finmap.Renamed.empty
  vlanCounters := rfl
  probeId := rfl

namespace Relates

variable {r} {s t : Switch} {p : PortId}

/-! ### The learned table -/

/-- Forgetting what was learned on a port. -/
theorem table_removePort (h : r.Relates s t) (hp : p ∈ r.domain) (key : Vlan × Mac) :
    (t.macTable.removePort (r.number p)).entries.lookup key =
      ((s.macTable.removePort p).entries.lookup key).map r.entry := by
  rw [MacTable.lookup_entries_removePort, MacTable.lookup_entries_removePort, h.table]
  rcases he : s.macTable.entries.lookup key with _ | e
  · rfl
  · have hiff : r.number e.port = r.number p ↔ e.port = p := r.injOn.eq_iff (h.learned key e he) hp
    by_cases hport : e.port = p
    · simp [Option.filter, entry, hport]
    · simp [Option.filter, entry, hport, hiff]

theorem learned_removePort (h : r.Relates s t) {q : PortId} {key : Vlan × Mac} {e : Entry}
    (he : (s.macTable.removePort q).entries.lookup key = some e) : e.port ∈ r.domain := by
  rw [MacTable.lookup_entries_removePort] at he
  exact h.learned key e (Option.filter_eq_some_iff.mp he).1

/-- The route to an address. -/
theorem route (h : r.Relates s t) (vlan : Vlan) (mac : Mac) :
    t.macTable.lookup vlan mac = (s.macTable.lookup vlan mac).map r.number := by
  rw [MacTable.lookup, MacTable.lookup, h.table, Option.map_map, Option.map_map]
  rfl

theorem route_mem (h : r.Relates s t) {vlan : Vlan} {mac : Mac} {q : PortId}
    (hq : s.macTable.lookup vlan mac = some q) : q ∈ r.domain := by
  obtain ⟨e, he, rfl⟩ := MacTable.lookup_eq_some.mp hq
  exact h.learned _ e he

/-! ### The operations on ports -/

theorem addPort (h : r.Relates s t) (hp : p ∈ r.domain) (mode : PortMode) :
    r.Relates (s.addPort p mode) (t.addPort (r.number p) mode) :=
  ⟨h.ports.insert r.injOn hp _, h.table_removePort hp, fun _ _ he => h.learned_removePort he,
    h.portCounters, h.vlanCounters, h.probeId⟩

theorem removePort (h : r.Relates s t) (hp : p ∈ r.domain) :
    r.Relates (s.removePort p) (t.removePort (r.number p)) :=
  ⟨h.ports.erase r.injOn hp, h.table_removePort hp, fun _ _ he => h.learned_removePort he,
    h.portCounters.erase r.injOn hp, h.vlanCounters, h.probeId⟩

theorem blockPort (h : r.Relates s t) (hp : p ∈ r.domain) :
    r.Relates (s.blockPort p) (t.blockPort (r.number p)) :=
  ⟨h.ports.getMut r.injOn hp _, h.table_removePort hp, fun _ _ he => h.learned_removePort he,
    h.portCounters, h.vlanCounters, h.probeId⟩

theorem ageOut (h : r.Relates s t) (maxAge : Duration) (now : Instant) :
    r.Relates (s.ageOut maxAge now).2 (t.ageOut maxAge now).2 := by
  refine ⟨h.ports, fun key => ?_, fun key e he => ?_, h.portCounters, h.vlanCounters, h.probeId⟩
  · change (t.macTable.evictOlderThan maxAge now).2.entries.lookup key =
      ((s.macTable.evictOlderThan maxAge now).2.entries.lookup key).map r.entry
    rw [MacTable.lookup_entries_evictOlderThan, MacTable.lookup_entries_evictOlderThan, h.table]
    rcases s.macTable.entries.lookup key with _ | e
    · rfl
    · by_cases hage : saturatingDurationSince now e.lastSeen < maxAge
      · simp [Option.filter, entry, hage]
      · simp [Option.filter, entry, hage]
  · change (s.macTable.evictOlderThan maxAge now).2.entries.lookup key = some e at he
    rw [MacTable.lookup_entries_evictOlderThan] at he
    exact h.learned key e (Option.filter_eq_some_iff.mp he).1

/-! ### What forwarding reads -/

theorem ingressVlan (h : r.Relates s t) (hp : p ∈ r.domain) (frame : EthernetFrame) :
    t.ingressVlan (r.number p) frame = match s.ingressVlan p frame with
      | .ok vlan => .ok vlan
      | .error e => .error (e.rename r) := by
  rw [Switch.ingressVlan, Switch.ingressVlan, h.ports.lookup p hp]
  rcases s.ports.lookup p with _ | ⟨mode, blocked⟩
  · rfl
  · rcases mode with vlan | ⟨native, allowed⟩
    · rcases frame.tag with _ | tag <;> rfl
    · rcases frame.tag with _ | tag
      · rcases native with _ | vlan <;> rfl
      · dsimp only
        split <;> rfl

/-- **The verdict on a frame is the same**, about the other port. -/
theorem verdict (h : r.Relates s t) (hp : p ∈ r.domain) (frame : EthernetFrame) :
    t.verdict (r.number p) frame = (s.verdict p frame).rename r := by
  rw [Switch.verdict, Switch.verdict, h.ports.lookup p hp, h.ingressVlan hp, h.probeId]
  rcases s.ports.lookup p with _ | entry
  · rfl
  · dsimp only
    split
    · split <;> rfl
    · split
      · rfl
      · rcases s.ingressVlan p frame with e | vlan <;> rfl

/-- **Flooding goes to the same ports in the same order.** -/
theorem floodTargets (h : r.Relates s t) (hp : p ∈ r.domain) (vlan : Vlan) :
    t.floodTargets vlan (r.number p) = (s.floodTargets vlan p).map r.number := by
  rw [Switch.floodTargets, Switch.floodTargets, h.ports.keys_eq]
  rw [← Finset.sortedList_image]
  · congr 1
    ext q
    simp only [Finset.mem_filter, Finset.mem_image]
    constructor
    · rintro ⟨⟨a, ha, rfl⟩, hne, hany⟩
      have hon : a ∈ r.domain := h.ports.mem a (Finmap.mem_keys.mp ha)
      rw [h.ports.lookup a hon] at hany
      exact ⟨a, ⟨ha, fun heq => hne (congrArg r.number heq), hany⟩, rfl⟩
    · rintro ⟨a, ⟨ha, hne, hany⟩, rfl⟩
      have hon : a ∈ r.domain := h.ports.mem a (Finmap.mem_keys.mp ha)
      refine ⟨⟨a, ha, rfl⟩, fun heq => hne (r.injOn hon hp heq), ?_⟩
      rwa [h.ports.lookup a hon]
  · have hon : ∀ a ∈ s.ports.keys.filter fun q => q ≠ p ∧ (s.ports.lookup q).any fun entry =>
        ¬entry.blocked ∧ entry.mode.carries vlan, a ∈ r.domain := fun a ha =>
      h.ports.mem a (Finmap.mem_keys.mp (Finset.mem_filter.mp ha).1)
    exact fun a ha b hb hlt => r.mono (hon a ha) (hon b hb) hlt

/-- A frame is written for a port alike. -/
theorem encodeForEgress (h : r.Relates s t) (hp : p ∈ r.domain) (vlan : Vlan)
    (frame : EthernetFrame) :
    t.encodeForEgress (r.number p) vlan frame =
      (s.encodeForEgress p vlan frame).map (Delivery.rename r) := by
  rw [Switch.encodeForEgress, Switch.encodeForEgress, h.ports.lookup p hp]
  rcases s.ports.lookup p with _ | egress
  · rfl
  · dsimp only
    split
    · rfl
    · split <;> rfl

/-! ### Forwarding -/

/-- Counting a frame in. -/
theorem countIn (h : r.Relates s t) (hp : p ∈ r.domain) (vlan : Vlan) (len : ℕ) :
    r.Relates (s.countIn p vlan len) (t.countIn (r.number p) vlan len) :=
  ⟨h.ports, h.table, h.learned,
    h.portCounters.entryOrDefault r.injOn hp fun c => c.addIn len,
    congrArg (Finmap.entryOrDefault vlan fun c : Counters => c.addIn len) h.vlanCounters, h.probeId⟩

/-- Counting a delivery out. -/
theorem countOut (h : r.Relates s t) (vlan : Vlan) {d : Delivery} (hd : d.port ∈ r.domain) :
    r.Relates (s.countOut vlan d) (t.countOut vlan (d.rename r)) :=
  ⟨h.ports, h.table, h.learned,
    h.portCounters.entryOrDefault r.injOn hd fun c => c.addOut d.bytes.length,
    congrArg (Finmap.entryOrDefault vlan fun c : Counters => c.addOut d.bytes.length)
      h.vlanCounters,
    h.probeId⟩

/-- Letting a frame in. -/
theorem letIn (h : r.Relates s t) (hp : p ∈ r.domain) (vlan : Vlan) (frame : EthernetFrame)
    (now : Instant) :
    r.Relates (s.letIn p vlan frame now) (t.letIn (r.number p) vlan frame now) := by
  refine ⟨?_, fun key => ?_, fun key e he => ?_, ?_, ?_, ?_⟩
  · rw [ports_letIn, ports_letIn]
    exact h.ports
  · rw [macTable_letIn, macTable_letIn]
    split
    · exact h.table key
    · rw [MacTable.lookup_entries_learn, MacTable.lookup_entries_learn]
      split
      · rfl
      · exact h.table key
  · rw [macTable_letIn] at he
    split at he
    · exact h.learned key e he
    · rw [MacTable.lookup_entries_learn] at he
      split at he
      · obtain rfl := Option.some.inj he
        exact hp
      · exact h.learned key e he
  · rw [portCounters_letIn, portCounters_letIn]
    exact (h.countIn hp vlan frame.wireLen).portCounters
  · rw [vlanCounters_letIn, vlanCounters_letIn]
    exact (h.countIn hp vlan frame.wireLen).vlanCounters
  · rw [probeId_letIn, probeId_letIn]
    exact h.probeId

/-- **The egress ports correspond.** -/
theorem egressPorts (h : r.Relates s t) (hp : p ∈ r.domain) (vlan : Vlan) (frame : EthernetFrame) :
    t.egressPorts (r.number p) vlan frame = (s.egressPorts p vlan frame).map r.number := by
  rw [Switch.egressPorts, Switch.egressPorts, h.floodTargets hp, h.route]
  split
  · rfl
  · rcases hroute : s.macTable.lookup vlan frame.dst with _ | q
    · rfl
    · have hiff : r.number q = r.number p ↔ q = p := r.injOn.eq_iff (h.route_mem hroute) hp
      dsimp only [Option.map_some]
      rw [if_congr hiff rfl rfl]
      split <;> rfl

/-- A frame goes out of ports there are numbers for. -/
theorem mem_egressPorts (h : r.Relates s t) {vlan : Vlan} {frame : EthernetFrame} {q : PortId}
    (hq : q ∈ s.egressPorts p vlan frame) : q ∈ r.domain := by
  have hflood : q ∈ s.floodTargets vlan p → q ∈ r.domain := by
    intro hq
    rw [Switch.floodTargets, Finset.mem_sortedList, Finset.mem_filter, Finmap.mem_keys] at hq
    exact h.ports.mem q hq.1
  rw [Switch.egressPorts] at hq
  split at hq
  · exact hflood hq
  · split at hq
    · next egress hroute =>
      split at hq
      · cases hq
      · rw [List.mem_singleton.mp hq]
        exact h.route_mem hroute
    · exact hflood hq

/-- **The deliveries correspond.** -/
theorem deliveries (h : r.Relates s t) (hp : p ∈ r.domain) (vlan : Vlan) (frame : EthernetFrame)
    (now : Instant) :
    t.deliveries (r.number p) vlan frame now =
      (s.deliveries p vlan frame now).map (Delivery.rename r) := by
  have hin := h.letIn hp vlan frame now
  rw [Switch.deliveries, Switch.deliveries, hin.egressPorts hp, List.filterMap_map,
    List.map_filterMap]
  refine List.filterMap_congr fun q hq => ?_
  exact h.encodeForEgress (hin.mem_egressPorts hq) vlan frame

theorem mem_deliveries (h : r.Relates s t) (hp : p ∈ r.domain) {vlan : Vlan}
    {frame : EthernetFrame} {now : Instant} {d : Delivery}
    (hd : d ∈ s.deliveries p vlan frame now) : d.port ∈ r.domain :=
  (h.letIn hp vlan frame now).mem_egressPorts (Switch.mem_deliveries.mp hd).1

/-- Counting deliveries. -/
theorem foldl_countOut (h : r.Relates s t) (vlan : Vlan) {ds : List Delivery}
    (hds : ∀ d ∈ ds, d.port ∈ r.domain) :
    r.Relates (ds.foldl (fun s d => s.countOut vlan d) s)
      ((ds.map (Delivery.rename r)).foldl (fun s d => s.countOut vlan d) t) := by
  induction ds generalizing s t with
  | nil => exact h
  | cons d ds ih =>
    rw [List.forall_mem_cons] at hds
    exact ih (h.countOut vlan hds.1) hds.2

/-- **Forwarding does the same under other port numbers**: it returns the same, about the
other ports, and leaves switches that hold the same. -/
theorem forward (h : r.Relates s t) (hp : p ∈ r.domain) (frame : EthernetFrame) (now : Instant) :
    (t.forward (r.number p) frame now).1 = (s.forward p frame now).1.rename r ∧
      r.Relates (s.forward p frame now).2 (t.forward (r.number p) frame now).2 := by
  rw [forward_eq, forward_eq, h.verdict hp]
  rcases s.verdict p frame with _ | _ | _ | e | vlan
  · exact ⟨rfl, h⟩
  · exact ⟨rfl, h.blockPort hp⟩
  · exact ⟨rfl, h⟩
  · exact ⟨rfl, h.ports, h.table, h.learned, h.portCounters.entryOrDefault r.injOn hp _,
      h.vlanCounters, h.probeId⟩
  · refine ⟨congrArg Except.ok (h.deliveries hp vlan frame now), ?_⟩
    change r.Relates (s.accept p vlan frame now) (t.accept (r.number p) vlan frame now)
    rw [accept, accept, h.deliveries hp]
    exact (h.letIn hp vlan frame now).foldl_countOut vlan fun d hd => h.mem_deliveries hp hd

end Relates

end Renaming

end VlanSwitch
