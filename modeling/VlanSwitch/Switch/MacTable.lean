import Mathlib.Data.Vector.Basic
import VlanSwitch.Frame.Ethernet
import VlanSwitch.Switch.Port

/-!
# The learned table

What the switch has learned: for a VLAN and an address, the port the address was last
seen on and when. The table only ever grows by `VlanSwitch.MacTable.learn`, which
overwrites, and shrinks by two sweeps, one over the entries of a port and one over
the entries of an age.
-/

namespace VlanSwitch

/-- A point of the monotonic clock, in nanoseconds since some origin. -/
abbrev Instant := ℕ

/-- A span of time, in nanoseconds. -/
abbrev Duration := ℕ

/-- `Instant::saturating_duration_since`: the time from `earlier` to `now`, none if
`earlier` is later. -/
def saturatingDurationSince (now earlier : Instant) : Duration := now - earlier

/-- Where an address was learned, and when it was last the source of a frame. -/
structure Entry where
  port : PortId
  lastSeen : Instant
  deriving DecidableEq, Repr

/-- The learned addresses, each in its VLAN. -/
structure MacTable where
  entries : Finmap fun _ : Vlan × Mac => Entry
  deriving DecidableEq

namespace MacTable

/-- The empty table. -/
def empty : MacTable := ⟨∅⟩

/-- Remember that `mac` was seen on `port`. -/
def learn (t : MacTable) (vlan : Vlan) (mac : Mac) (port : PortId) (now : Instant) : MacTable :=
  ⟨t.entries.insert (vlan, mac) { port, lastSeen := now }⟩

/-- The port `mac` was learned on. -/
def lookup (t : MacTable) (vlan : Vlan) (mac : Mac) : Option PortId :=
  (t.entries.lookup (vlan, mac)).map fun e => e.port

/-- Forget everything learned on `port`. -/
def removePort (t : MacTable) (port : PortId) : MacTable :=
  ⟨t.entries.retain fun _ e => e.port ≠ port⟩

/-- Forget everything not relearned within `maxAge` of `now`: how many entries that
was, and what is left. -/
def evictOlderThan (t : MacTable) (maxAge : Duration) (now : Instant) : ℕ × MacTable :=
  let before := t.entries.keys.card
  let entries := t.entries.retain fun _ e => saturatingDurationSince now e.lastSeen < maxAge
  (before - entries.keys.card, ⟨entries⟩)

/-! ### What an operation leaves in the table -/

theorem lookup_entries_learn (t : MacTable) (vlan : Vlan) (mac : Mac) (port : PortId)
    (now : Instant) (key : Vlan × Mac) :
    (t.learn vlan mac port now).entries.lookup key =
      if key = (vlan, mac) then some ⟨port, now⟩ else t.entries.lookup key :=
  Finmap.lookup_insert_eq_ite _ _ _ _

@[simp] theorem lookup_entries_removePort (t : MacTable) (port : PortId) (key : Vlan × Mac) :
    (t.removePort port).entries.lookup key =
      (t.entries.lookup key).filter fun e => e.port ≠ port :=
  Finmap.lookup_retain _ _ _

@[simp] theorem lookup_entries_evictOlderThan (t : MacTable) (maxAge : Duration) (now : Instant)
    (key : Vlan × Mac) :
    (t.evictOlderThan maxAge now).2.entries.lookup key =
      (t.entries.lookup key).filter fun e => saturatingDurationSince now e.lastSeen < maxAge :=
  Finmap.lookup_retain _ _ _

theorem lookup_eq_some {t : MacTable} {vlan : Vlan} {mac : Mac} {port : PortId} :
    t.lookup vlan mac = some port ↔
      ∃ e, t.entries.lookup (vlan, mac) = some e ∧ e.port = port := by
  rw [lookup, Option.map_eq_some_iff]

end MacTable

end VlanSwitch
