import VlanSwitch.Lib.Json
import VlanSwitch.Switch.Accounting

/-!
# The counters as JSON

The dashboard shows the state of a switch as JSON (`VlanSwitch.renderCountersJson`), and
a signal prints the counters as lines of text (`VlanSwitch.dumpCounters`). The JSON is
put together by hand, bracket by bracket and comma by comma. What it has to be is the text
of a tree, `VlanSwitch.countersJson`, and that it is
(`VlanSwitch.renderCountersJson_eq`) is a matter of each of the functions that write a
part of it: whatever has been written so far, they append the text of their part. A
parser reads the tree back then (`Json.parse_print`), and with it everything the tree is
made of (`VlanSwitch.dashboard_faithful`).

The two lists differ in what they enumerate: the dashboard goes by the registered ports,
the signal by the ports with a counter. In a reachable switch the latter are among the
former.
-/

namespace VlanSwitch

/-! ### What is read of the switch -/

namespace Switch

/-- Every registered port. -/
def portIds (s : Switch) : Finset PortId := s.ports.keys

/-- The counters of a port, whether it is blocked, and its mode. -/
def portSnapshot (s : Switch) (port : PortId) : Option (Counters × Bool × PortMode) :=
  (s.ports.lookup port).map fun entry => (s.portCounter port, entry.blocked, entry.mode)

/-- The counters of the ports that have any, in the order both callers sort them in. -/
def allPortCounters (s : Switch) : List (PortId × Counters) :=
  s.portCounters.keys.sortedList.map fun port => (port, s.portCounter port)

/-- The counters of the VLANs that have any, in the order both callers sort them in. -/
def allVlanCounters (s : Switch) : List (Vlan × Counters) :=
  s.vlanCounters.keys.sortedList.map fun vlan => (vlan, s.vlanCounter vlan)

end Switch

/-! ### The text -/

/-- Writes a mode. -/
def writeMode (out : String) : PortMode → String
  | .access vlan => out ++ "\x7b\"kind\":\"access\",\"vlan\":" ++ vlan.toNat.repr ++ "\x7d"
  | .trunk native allowed =>
    let out := out ++ "\x7b\"kind\":\"trunk\",\"native\":"
    let out := match native with
      | some v => out ++ v.toNat.repr
      | none => out ++ "null"
    let out := out ++ ",\"allowed\":["
    let out := Text.writeList (fun out v => out ++ v.toNat.repr) out allowed.sortedList
    out ++ "]\x7d"

/-- Writes a port. -/
def writePort (out : String) (port : PortId) (blocked : Bool) (mode : PortMode)
    (c : Counters) : String :=
  let out := out ++ "\x7b\"port\":" ++ port.id.toNat.repr ++ ",\"blocked\":" ++
    toString blocked ++ ",\"mode\":"
  let out := writeMode out mode
  out ++ ",\"frames_in\":\"" ++ c.framesIn.repr ++ "\",\"bytes_in\":\"" ++ c.bytesIn.repr ++
    "\",\"frames_out\":\"" ++ c.framesOut.repr ++ "\",\"bytes_out\":\"" ++ c.bytesOut.repr ++
    "\",\"drops\":\"" ++ c.drops.repr ++ "\"\x7d"

/-- Writes a VLAN. -/
def writeVlan (out : String) (vlan : Vlan) (c : Counters) : String :=
  out ++ "\x7b\"vlan\":" ++ vlan.toNat.repr ++ ",\"frames_in\":\"" ++ c.framesIn.repr ++
    "\",\"bytes_in\":\"" ++ c.bytesIn.repr ++ "\",\"frames_out\":\"" ++ c.framesOut.repr ++
    "\",\"bytes_out\":\"" ++ c.bytesOut.repr ++ "\"\x7d"

/-- The registered ports, each with what is read of it, in ascending order: their numbers
are distinct, so it does not matter whether they are sorted before or after. -/
def Switch.portSnapshots (s : Switch) : List (PortId × Counters × Bool × PortMode) :=
  s.portIds.sortedList.filterMap fun port =>
    (s.portSnapshot port).map fun (c, blocked, mode) => (port, c, blocked, mode)

/-- Renders the counters of every registered port and of every VLAN that has any. -/
def renderCountersJson (s : Switch) : String :=
  let out := "\x7b\"ports\":["
  let out := Text.writeList (fun out (port, c, blocked, mode) => writePort out port blocked mode c)
    out s.portSnapshots
  let out := out ++ "],\"vlans\":["
  let out := Text.writeList (fun out (vlan, c) => writeVlan out vlan c) out s.allVlanCounters
  out ++ "]\x7d"

/-- A line of the dump about a port. -/
def dumpPortLine (port : PortId) (c : Counters) : String :=
  "PortId(" ++ port.id.toNat.repr ++ "): in=" ++ c.framesIn.repr ++ " (" ++ c.bytesIn.repr ++
    "B) out=" ++ c.framesOut.repr ++ " (" ++ c.bytesOut.repr ++ "B) drops=" ++ c.drops.repr

/-- A line of the dump about a VLAN. -/
def dumpVlanLine (vlan : Vlan) (c : Counters) : String :=
  "vlan " ++ vlan.toNat.repr ++ ": in=" ++ c.framesIn.repr ++ " (" ++ c.bytesIn.repr ++
    "B) out=" ++ c.framesOut.repr ++ " (" ++ c.bytesOut.repr ++ "B)"

/-- The lines printed on a signal. -/
def dumpCounters (s : Switch) : List String :=
  "=== vlan-rs counters ===" :: s.allPortCounters.map (fun (port, c) => dumpPortLine port c) ++
    s.allVlanCounters.map fun (vlan, c) => dumpVlanLine vlan c

/-! ### The tree -/

/-- A VLAN, as a number. -/
def vlanNumber (vlan : Vlan) : Json := .nat vlan.toNat

/-- A counter, as a string of digits. -/
def counterJson (n : ℕ) : Json := .str n.repr

/-- The tree of a native VLAN. -/
def nativeJson : Option Vlan → Json
  | some v => vlanNumber v
  | none => .null

/-- The tree of a mode. -/
def modeJson : PortMode → Json
  | .access vlan => .obj [("kind", .str "access"), ("vlan", vlanNumber vlan)]
  | .trunk native allowed => .obj [("kind", .str "trunk"), ("native", nativeJson native),
      ("allowed", .arr (allowed.sortedList.map vlanNumber))]

/-- The tree of a port. -/
def portJson : PortId × Counters × Bool × PortMode → Json
  | (port, c, blocked, mode) => .obj [("port", .nat port.id.toNat), ("blocked", .bool blocked),
      ("mode", modeJson mode), ("frames_in", counterJson c.framesIn),
      ("bytes_in", counterJson c.bytesIn), ("frames_out", counterJson c.framesOut),
      ("bytes_out", counterJson c.bytesOut), ("drops", counterJson c.drops)]

/-- The tree of a VLAN. -/
def vlanJson : Vlan × Counters → Json
  | (vlan, c) => .obj [("vlan", vlanNumber vlan), ("frames_in", counterJson c.framesIn),
      ("bytes_in", counterJson c.bytesIn), ("frames_out", counterJson c.framesOut),
      ("bytes_out", counterJson c.bytesOut)]

/-- **The tree of a switch.** -/
def countersJson (s : Switch) : Json :=
  .obj [("ports", .arr (s.portSnapshots.map portJson)),
    ("vlans", .arr (s.allVlanCounters.map vlanJson))]

/-! ### The text is that of the tree -/

/-- The text of a tree, as a string. -/
def jsonText (v : Json) : String := String.ofList v.print

theorem print_vlanNumber (vlan : Vlan) : (vlanNumber vlan).print = vlan.toNat.repr.toList :=
  Json.print_nat vlan.toNat

theorem print_counterJson (n : ℕ) : (counterJson n).print = '"' :: n.repr.toList ++ ['"'] :=
  Json.print_str_repr n

/-- The text of a list is what the loops of the source write. -/
theorem toList_intercalate_jsonText {α : Type} (f : α → Json) (l : List α) :
    (",".intercalate (l.map fun a => jsonText (f a))).toList = Json.printElems (l.map f) := by
  rw [String.toList_intercalate, Json.printElems_eq, List.map_map, List.map_map]
  refine congrArg _ (List.map_congr_left fun a _ => ?_)
  exact String.toList_ofList

theorem writeMode_eq (out : String) (mode : PortMode) :
    writeMode out mode = out ++ jsonText (modeJson mode) := by
  rw [← String.toList_inj, String.toList_append, jsonText, String.toList_ofList]
  cases mode with
  | access vlan =>
    simp only [writeMode, modeJson, String.toList_append, Json.print_obj,
      Json.printMembers_cons_cons, Json.printMembers_singleton, print_vlanNumber,
      List.append_assoc, List.cons_append]
    rfl
  | trunk native allowed =>
    have hlist : ∀ out, Text.writeList (fun out (v : Vlan) => out ++ v.toNat.repr) out
        allowed.sortedList = out ++ ",".intercalate
          (allowed.sortedList.map fun v => jsonText (vlanNumber v)) :=
      fun out => Text.writeList_eq (fun out v => by rw [jsonText, print_vlanNumber,
        String.ofList_toList]) out _
    rcases native with _ | v
    · simp only [writeMode, modeJson, hlist, toList_intercalate_jsonText, String.toList_append,
        Json.print_obj, Json.print_arr, Json.printMembers_cons_cons, Json.printMembers_singleton,
        List.append_assoc, List.cons_append, List.nil_append]
      rfl
    · simp only [writeMode, modeJson, hlist, toList_intercalate_jsonText, String.toList_append,
        Json.print_obj, Json.print_arr, Json.printMembers_cons_cons, Json.printMembers_singleton,
        nativeJson, print_vlanNumber, List.append_assoc, List.cons_append, List.nil_append]
      rfl

theorem writePort_eq (out : String) (port : PortId) (blocked : Bool) (mode : PortMode)
    (c : Counters) :
    writePort out port blocked mode c = out ++ jsonText (portJson (port, c, blocked, mode)) := by
  have hmode : ∀ out, writeMode out mode = out ++ String.ofList (modeJson mode).print :=
    fun out => writeMode_eq out mode
  rw [← String.toList_inj, String.toList_append, jsonText, String.toList_ofList]
  simp only [writePort, portJson, hmode, String.toList_append, String.toList_ofList,
    Json.print_obj, Json.printMembers_cons_cons, Json.printMembers_singleton, Json.print_nat,
    print_counterJson, List.append_assoc, List.cons_append, List.nil_append]
  rcases blocked with _ | _ <;> rfl

theorem writeVlan_eq (out : String) (vlan : Vlan) (c : Counters) :
    writeVlan out vlan c = out ++ jsonText (vlanJson (vlan, c)) := by
  rw [← String.toList_inj, String.toList_append, jsonText, String.toList_ofList]
  simp only [writeVlan, vlanJson, String.toList_append, Json.print_obj,
    Json.printMembers_cons_cons, Json.printMembers_singleton, print_vlanNumber,
    print_counterJson, List.append_assoc, List.cons_append, List.nil_append]
  rfl

/-- **What is rendered is the text of the tree.** -/
theorem renderCountersJson_eq (s : Switch) : renderCountersJson s = jsonText (countersJson s) := by
  have hports : ∀ out, Text.writeList (fun out (port, c, blocked, mode) =>
      writePort out port blocked mode c) out s.portSnapshots =
        out ++ ",".intercalate (s.portSnapshots.map fun e => jsonText (portJson e)) :=
    fun out => Text.writeList_eq (f := fun e => jsonText (portJson e))
      (fun out e => writePort_eq out e.1 e.2.2.1 e.2.2.2 e.2.1) out s.portSnapshots
  have hvlans : ∀ out, Text.writeList (fun out (vlan, c) => writeVlan out vlan c) out
      s.allVlanCounters =
        out ++ ",".intercalate (s.allVlanCounters.map fun e => jsonText (vlanJson e)) :=
    fun out => Text.writeList_eq (f := fun e => jsonText (vlanJson e))
      (fun out e => writeVlan_eq out e.1 e.2) out s.allVlanCounters
  rw [← String.toList_inj, jsonText, String.toList_ofList]
  simp only [renderCountersJson, countersJson, hports, hvlans, toList_intercalate_jsonText,
    String.toList_append, Json.print_obj, Json.print_arr, Json.printMembers_cons_cons,
    Json.printMembers_singleton, List.append_assoc, List.cons_append, List.nil_append]
  rfl

/-- **A parser reads the tree back.** -/
theorem parse_renderCountersJson (s : Switch) :
    Json.parse (renderCountersJson s) = some (countersJson s) := by
  rw [renderCountersJson_eq, jsonText, Json.parse_print]

/-! ### What is read off the tree -/

theorem vlanNumber_injective : Function.Injective vlanNumber := fun _ _ h =>
  UInt16.toNat_inj.mp (Json.nat_injective h)

theorem counterJson_injective {m n : ℕ} (h : counterJson m = counterJson n) : m = n := by
  have hdigits := congrArg String.toList (Json.str.inj h)
  rw [Nat.toList_repr, Nat.toList_repr] at hdigits
  rw [← Nat.ofDigitChars_ten_toDigits (n := m), hdigits, Nat.ofDigitChars_ten_toDigits]

theorem nativeJson_injective : Function.Injective nativeJson := by
  rintro (_ | v) (_ | w) h
  · rfl
  · cases h
  · cases h
  · exact congrArg some (vlanNumber_injective h)

theorem modeJson_injective : Function.Injective modeJson := by
  rintro (v | ⟨native, allowed⟩) (w | ⟨native', allowed'⟩) h
  · simp only [modeJson, Json.obj.injEq, List.cons.injEq, Prod.mk.injEq, true_and, and_true] at h
    exact congrArg PortMode.access (vlanNumber_injective h)
  · simp [modeJson] at h
  · simp [modeJson] at h
  · simp only [modeJson, Json.obj.injEq, Json.arr.injEq, List.cons.injEq, Prod.mk.injEq, true_and,
      and_true] at h
    obtain rfl := nativeJson_injective h.1
    obtain rfl := Finset.sortedList_injective (vlanNumber_injective.list_map h.2)
    rfl

/-- **A port is read off its tree.** -/
theorem portJson_injective : Function.Injective portJson := by
  rintro ⟨⟨id⟩, c, blocked, mode⟩ ⟨⟨id'⟩, c', blocked', mode'⟩ h
  simp only [portJson, Json.obj.injEq, List.cons.injEq, Prod.mk.injEq, true_and, and_true,
    Json.bool.injEq] at h
  obtain ⟨hid, rfl, hmode, hin, hbytesIn, hout, hbytesOut, hdrops⟩ := h
  obtain rfl := UInt32.toNat_inj.mp (Json.nat_injective hid)
  obtain rfl := modeJson_injective hmode
  obtain rfl : c = c' := by
    obtain ⟨framesIn, bytesIn, framesOut, bytesOut, drops⟩ := c
    rw [Counters.mk.injEq]
    exact ⟨counterJson_injective hin, counterJson_injective hbytesIn,
      counterJson_injective hout, counterJson_injective hbytesOut, counterJson_injective hdrops⟩
  rfl

/-- The counters a VLAN has: it counts no drops. -/
def Counters.traffic (c : Counters) : ℕ × ℕ × ℕ × ℕ :=
  (c.framesIn, c.bytesIn, c.framesOut, c.bytesOut)

/-- **A VLAN and its traffic are read off its tree.** -/
theorem vlanJson_eq_iff {v w : Vlan} {c c' : Counters} :
    vlanJson (v, c) = vlanJson (w, c') ↔ v = w ∧ c.traffic = c'.traffic := by
  simp only [vlanJson, Json.obj.injEq, List.cons.injEq, Prod.mk.injEq, true_and, and_true,
    Counters.traffic]
  constructor
  · rintro ⟨hvlan, hin, hbytesIn, hout, hbytesOut⟩
    exact ⟨vlanNumber_injective hvlan, counterJson_injective hin, counterJson_injective hbytesIn,
      counterJson_injective hout, counterJson_injective hbytesOut⟩
  · rintro ⟨rfl, hin, hbytesIn, hout, hbytesOut⟩
    rw [hin, hbytesIn, hout, hbytesOut]
    exact ⟨rfl, rfl, rfl, rfl, rfl⟩

namespace Switch

variable {s : Switch}

theorem mem_portSnapshots {p : PortId} {snapshot : Counters × Bool × PortMode} :
    (p, snapshot) ∈ s.portSnapshots ↔ s.portSnapshot p = some snapshot := by
  simp only [portSnapshots, List.mem_filterMap, Option.map_eq_some_iff, Prod.mk.injEq]
  constructor
  · rintro ⟨q, -, snapshot', hsnapshot, rfl, rfl⟩
    exact hsnapshot
  · intro h
    obtain ⟨entry, hentry, -⟩ := Option.map_eq_some_iff.mp h
    have hmem : p ∈ s.portIds.sortedList := by
      rw [Finset.mem_sortedList, portIds, Finmap.mem_keys]
      exact Finmap.mem_of_lookup_eq_some hentry
    exact ⟨p, hmem, snapshot, h, rfl, rfl⟩

/-- Every registered port is there once. -/
theorem map_fst_portSnapshots : s.portSnapshots.map Prod.fst = s.portIds.sortedList := by
  have hports : ∀ l : List PortId, (∀ p ∈ l, p ∈ s.ports) →
      (l.filterMap fun p => (s.portSnapshot p).map fun (c, blocked, mode) =>
        (p, c, blocked, mode)).map Prod.fst = l := by
    intro l hl
    induction l with
    | nil => rfl
    | cons p l ih =>
      rw [List.forall_mem_cons] at hl
      obtain ⟨entry, hentry⟩ := Finmap.mem_iff.mp hl.1
      have hsnapshot : s.portSnapshot p = some (s.portCounter p, entry.blocked, entry.mode) := by
        rw [portSnapshot, hentry, Option.map_some]
      rw [List.filterMap_cons, hsnapshot]
      exact congrArg (p :: ·) (ih hl.2)
  refine hports _ fun p hp => ?_
  rw [Finset.mem_sortedList, portIds, Finmap.mem_keys] at hp
  exact hp

/-- The bindings of a map, sorted. -/
theorem mem_map_sortedList {α : Type} [LinearOrder α] [DecidableEq α]
    {m : Finmap fun _ : α => Counters} {a : α} {c : Counters} :
    (a, c) ∈ m.keys.sortedList.map (fun a => (a, m.getOrDefault a)) ↔ m.lookup a = some c := by
  simp only [List.mem_map, Finset.mem_sortedList, Finmap.mem_keys, Prod.mk.injEq]
  constructor
  · rintro ⟨b, hb, rfl, rfl⟩
    obtain ⟨c, hc⟩ := Finmap.mem_iff.mp hb
    rw [Finmap.getOrDefault, hc, Option.getD_some]
  · intro h
    exact ⟨a, Finmap.mem_of_lookup_eq_some h, rfl, by rw [Finmap.getOrDefault, h, Option.getD_some]⟩

theorem mem_allPortCounters {p : PortId} {c : Counters} :
    (p, c) ∈ s.allPortCounters ↔ s.portCounters.lookup p = some c :=
  mem_map_sortedList

theorem mem_allVlanCounters {v : Vlan} {c : Counters} :
    (v, c) ∈ s.allVlanCounters ↔ s.vlanCounters.lookup v = some c :=
  mem_map_sortedList

/-- Every VLAN with a counter is there once. -/
theorem map_fst_allVlanCounters :
    s.allVlanCounters.map Prod.fst = s.vlanCounters.keys.sortedList := by
  rw [allVlanCounters, List.map_map]
  exact List.map_id _

/-- What is observed of a port is who is registered, in what mode, whether it is blocked
and what it has counted. -/
theorem portSnapshot_eq_some {p : PortId} {c : Counters} {blocked : Bool} {mode : PortMode} :
    s.portSnapshot p = some (c, blocked, mode) ↔
      s.ports.lookup p = some ⟨mode, blocked⟩ ∧ c = s.portCounter p := by
  rw [portSnapshot, Option.map_eq_some_iff]
  constructor
  · rintro ⟨⟨mode', blocked'⟩, hentry, heq⟩
    simp only [Prod.mk.injEq] at heq
    obtain ⟨rfl, rfl, rfl⟩ := heq
    exact ⟨hentry, rfl⟩
  · rintro ⟨hentry, rfl⟩
    exact ⟨⟨mode, blocked⟩, hentry, rfl⟩

/-- The ports that are registered are those there is something to observe of. -/
theorem mem_portIds {p : PortId} : p ∈ s.portIds ↔ (s.portSnapshot p).isSome := by
  rw [portIds, Finmap.mem_keys, portSnapshot, Option.isSome_map, Finmap.lookup_isSome]

/-- What a VLAN has counted is what is observed of it. -/
def vlanTraffic (s : Switch) (v : Vlan) : Option (ℕ × ℕ × ℕ × ℕ) :=
  (s.vlanCounters.lookup v).map Counters.traffic

end Switch

/-! ### Two switches with the same text -/

section SameText

variable {s t : Switch}

/-- Switches whose text is the same have the same tree. -/
theorem countersJson_eq (h : renderCountersJson s = renderCountersJson t) :
    countersJson s = countersJson t := by
  have hparse := parse_renderCountersJson s
  rw [h, parse_renderCountersJson t] at hparse
  exact (Option.some.inj hparse).symm

/-- What is in the tree of one switch about a VLAN is in that of the other. -/
theorem vlanTraffic_of_map_vlanJson_eq
    (h : s.allVlanCounters.map vlanJson = t.allVlanCounters.map vlanJson) {v : Vlan}
    {traffic : ℕ × ℕ × ℕ × ℕ} (hs : s.vlanTraffic v = some traffic) :
    t.vlanTraffic v = some traffic := by
  obtain ⟨c, hc, rfl⟩ := Option.map_eq_some_iff.mp hs
  have hmem : vlanJson (v, c) ∈ t.allVlanCounters.map vlanJson := by
    rw [← h]
    exact List.mem_map_of_mem (Switch.mem_allVlanCounters.mpr hc)
  obtain ⟨⟨w, c'⟩, hc', heq⟩ := List.mem_map.mp hmem
  obtain ⟨rfl, htraffic⟩ := vlanJson_eq_iff.mp heq
  rw [← htraffic]
  exact Option.map_eq_some_iff.mpr ⟨c', Switch.mem_allVlanCounters.mp hc', rfl⟩

/-- The ports of two switches of which the same is observed. -/
theorem portSnapshots_eq (h : ∀ p, s.portSnapshot p = t.portSnapshot p) :
    s.portSnapshots = t.portSnapshots := by
  have hids : s.portIds = t.portIds := by
    ext p
    rw [Switch.mem_portIds, Switch.mem_portIds, h p]
  rw [Switch.portSnapshots, Switch.portSnapshots, hids]
  exact List.filterMap_congr fun p _ => by rw [h p]

/-- The VLANs of two switches of which the same is observed. -/
theorem map_vlanJson_eq (h : ∀ v, s.vlanTraffic v = t.vlanTraffic v) :
    s.allVlanCounters.map vlanJson = t.allVlanCounters.map vlanJson := by
  have hkeys : s.vlanCounters.keys = t.vlanCounters.keys := by
    ext v
    have hsome := congrArg Option.isSome (h v)
    rw [Switch.vlanTraffic, Switch.vlanTraffic, Option.isSome_map, Option.isSome_map] at hsome
    rw [Finmap.mem_keys, Finmap.mem_keys, ← Finmap.lookup_isSome, ← Finmap.lookup_isSome, hsome]
  rw [Switch.allVlanCounters, Switch.allVlanCounters, hkeys, List.map_map, List.map_map]
  refine List.map_congr_left fun v hv => ?_
  rw [Finset.mem_sortedList, Finmap.mem_keys] at hv
  obtain ⟨c, hc⟩ := Finmap.mem_iff.mp hv
  have htraffic : s.vlanTraffic v = some c.traffic := by
    rw [h v, Switch.vlanTraffic, hc, Option.map_some]
  obtain ⟨c', hc', hcc⟩ := Option.map_eq_some_iff.mp htraffic
  refine vlanJson_eq_iff.mpr ⟨rfl, ?_⟩
  rw [Switch.vlanCounter, Switch.vlanCounter, Finmap.getOrDefault, Finmap.getOrDefault, hc', hc,
    Option.getD_some, Option.getD_some, hcc]

/-- **The text is the same just when the same is observed**, of every port and of every
VLAN. -/
theorem renderCountersJson_eq_iff :
    renderCountersJson s = renderCountersJson t ↔
      (∀ p, s.portSnapshot p = t.portSnapshot p) ∧ ∀ v, s.vlanTraffic v = t.vlanTraffic v := by
  constructor
  · intro h
    have htree := countersJson_eq h
    simp only [countersJson, Json.obj.injEq, Json.arr.injEq, List.cons.injEq, Prod.mk.injEq,
      true_and, and_true] at htree
    have hports : s.portSnapshots = t.portSnapshots := portJson_injective.list_map htree.1
    refine ⟨fun p => Option.ext fun snapshot => ?_, fun v => Option.ext fun traffic => ?_⟩
    · rw [← Switch.mem_portSnapshots, hports, Switch.mem_portSnapshots]
    · exact ⟨vlanTraffic_of_map_vlanJson_eq htree.2, vlanTraffic_of_map_vlanJson_eq htree.2.symm⟩
  · rintro ⟨hports, hvlans⟩
    rw [renderCountersJson_eq, renderCountersJson_eq, countersJson, countersJson,
      portSnapshots_eq hports, map_vlanJson_eq hvlans]

end SameText

/-! ### The dashboard is faithful -/

/-- Two lists that enumerate what there is to observe of a switch: its registered ports,
with what they have counted, and the VLANs that have a counter, each in ascending order. -/
structure Switch.Lists (s : Switch) (ports : List (PortId × Counters × Bool × PortMode))
    (vlans : List (Vlan × Counters)) : Prop where
  /-- The ports are in strictly ascending order. -/
  ports_sorted : (ports.map Prod.fst).Pairwise (· < ·)
  /-- They are the registered ports, each with its counters, its flag and its mode. -/
  mem_ports : ∀ p c blocked mode, (p, c, blocked, mode) ∈ ports ↔
    s.ports.lookup p = some ⟨mode, blocked⟩ ∧ c = s.portCounter p
  /-- The VLANs are in strictly ascending order. -/
  vlans_sorted : (vlans.map Prod.fst).Pairwise (· < ·)
  /-- They are those that have a counter. -/
  mem_vlans : ∀ v c, (v, c) ∈ vlans ↔ s.vlanCounters.lookup v = some c

theorem Switch.lists (s : Switch) : s.Lists s.portSnapshots s.allVlanCounters where
  ports_sorted := by
    rw [map_fst_portSnapshots]
    exact s.portIds.pairwise_lt_sortedList
  mem_ports _ _ _ _ := mem_portSnapshots.trans portSnapshot_eq_some
  vlans_sorted := by
    rw [map_fst_allVlanCounters]
    exact s.vlanCounters.keys.pairwise_lt_sortedList
  mem_vlans _ _ := mem_allVlanCounters

/-- The VLANs of a trunk are in its tree in strictly ascending order. -/
theorem exists_modeJson_trunk (native : Option Vlan) (allowed : Finset Vlan) :
    ∃ vs : List Vlan, vs.Pairwise (· < ·) ∧ (∀ v, v ∈ vs ↔ v ∈ allowed) ∧
      modeJson (.trunk native allowed) = .obj [("kind", .str "trunk"),
        ("native", nativeJson native), ("allowed", .arr (vs.map vlanNumber))] :=
  ⟨allowed.sortedList, allowed.pairwise_lt_sortedList, fun _ => Finset.mem_sortedList, rfl⟩

/-- In a reachable switch, the pairs a dump prints are on the dashboard: a port that has
counted is registered. -/
theorem Reachable.mem_portSnapshots_of_mem_allPortCounters {s : Switch} (h : Reachable s)
    {p : PortId} {c : Counters} (hc : (p, c) ∈ s.allPortCounters) :
    ∃ blocked mode, (p, c, blocked, mode) ∈ s.portSnapshots := by
  rw [Switch.mem_allPortCounters] at hc
  obtain ⟨⟨mode, blocked⟩, hentry⟩ := Finmap.mem_iff.mp
    (h.mem_ports_of_mem_portCounters p (Finmap.mem_of_lookup_eq_some hc))
  have hcounter : c = s.portCounter p := by
    rw [Switch.portCounter, Finmap.getOrDefault, hc, Option.getD_some]
  have hsnapshot := Switch.portSnapshot_eq_some.mpr ⟨hentry, hcounter⟩
  exact ⟨blocked, mode, Switch.mem_portSnapshots.mpr hsnapshot⟩

/-- **What a dump prints is on the dashboard**: after the heading, every line is about a
port or a VLAN that is shown, with the same counters. -/
theorem Reachable.mem_dumpCounters {s : Switch} (h : Reachable s) {line : String}
    (hline : line ∈ dumpCounters s) :
    line = "=== vlan-rs counters ===" ∨
      (∃ p c blocked mode, (p, c, blocked, mode) ∈ s.portSnapshots ∧ line = dumpPortLine p c) ∨
      ∃ v c, (v, c) ∈ s.allVlanCounters ∧ line = dumpVlanLine v c := by
  rw [dumpCounters, List.cons_append, List.mem_cons, List.mem_append, List.mem_map,
    List.mem_map] at hline
  rcases hline with rfl | ⟨⟨p, c⟩, hc, rfl⟩ | ⟨⟨v, c⟩, hc, rfl⟩
  · exact Or.inl rfl
  · obtain ⟨blocked, mode, hmem⟩ := h.mem_portSnapshots_of_mem_allPortCounters hc
    exact Or.inr (Or.inl ⟨p, c, blocked, mode, hmem, rfl⟩)
  · exact Or.inr (Or.inr ⟨v, c, hc, rfl⟩)

/-- **The dashboard is faithful.** A parser reads from the text of a reachable switch one
object per registered port, in ascending order, with its number, its flag, its mode and its
five counters; one per VLAN that has a counter, in ascending order, with its four; and
nothing else. So switches of which anything different is observed have different texts;
and whatever a dump prints about a port is on the dashboard. -/
theorem dashboard_faithful {s : Switch} (h : Reachable s) :
    (∃ ports vlans, s.Lists ports vlans ∧
      Json.parse (renderCountersJson s) = some (.obj [("ports", .arr (ports.map portJson)),
        ("vlans", .arr (vlans.map vlanJson))]) ∧
      ∀ p c, (p, c) ∈ s.allPortCounters → ∃ blocked mode, (p, c, blocked, mode) ∈ ports) ∧
    (∀ native allowed, ∃ vs : List Vlan, vs.Pairwise (· < ·) ∧ (∀ v, v ∈ vs ↔ v ∈ allowed) ∧
      modeJson (.trunk native allowed) = .obj [("kind", .str "trunk"),
        ("native", nativeJson native), ("allowed", .arr (vs.map vlanNumber))]) ∧
    ∀ t, renderCountersJson s = renderCountersJson t ↔
      (∀ p, s.portSnapshot p = t.portSnapshot p) ∧ ∀ v, s.vlanTraffic v = t.vlanTraffic v :=
  ⟨⟨s.portSnapshots, s.allVlanCounters, s.lists, parse_renderCountersJson s,
      fun _ _ hc => h.mem_portSnapshots_of_mem_allPortCounters hc⟩,
    exists_modeJson_trunk, fun _ => renderCountersJson_eq_iff⟩

/-- A port that is blocked shows. -/
theorem dashboard_faithful_blocked :
    renderCountersJson (machine.run (Switch.withProbeId 7) [.addPort ⟨0⟩ (.access 10)]) ≠
      renderCountersJson (machine.run (Switch.withProbeId 7)
        [.addPort ⟨0⟩ (.access 10), .blockPort ⟨0⟩]) := by
  intro h
  have hsame := ((dashboard_faithful
    (s := machine.run (Switch.withProbeId 7) [.addPort ⟨0⟩ (.access 10)])
    ⟨7, _, rfl⟩).2.2 _).mp h
  exact absurd (hsame.1 ⟨0⟩) (by decide)

end VlanSwitch
