import VlanSwitch.Daemon.Loop
import VlanSwitch.Lib.Text

/-!
# The configuration file

A configuration is a list of ports, each with a name and a mode as the file writes it
down, and `VlanSwitch.Config.intoSpecs` makes of it what the daemon is asked for. How
the file is read is a matter of the library that reads it, and is not modelled. The
conversion goes port by port, and at each it asks first whether the name is taken and
then whether the mode can be built; `VlanSwitch.Config.intoSpecs_eq_ok` says when all
of it succeeds.
-/

namespace VlanSwitch

/-- The mode of a port, as the file gives it. -/
inductive PortConfigMode where
  | access (vlan : Vlan)
  | trunk (native : Option Vlan) (allowed : List Vlan)
  deriving DecidableEq, Repr

/-- A port, as the file gives it. -/
structure PortConfig where
  name : String
  mode : PortConfigMode
  deriving DecidableEq, Repr

/-- A topology: one entry per port. -/
structure Config where
  ports : List PortConfig
  deriving DecidableEq, Repr

/-- Why a configuration is rejected once it is read. -/
inductive ConfigError where
  | invalidPort (name : String) (source : PortModeError)
  | duplicateName (name : String)
  deriving DecidableEq, Repr

namespace PortConfigMode

/-- The smart constructor's answer, which depends on how hash sets are iterated over only
in what it complains about. -/
def build (order : Finset.Enumeration Vlan) : PortConfigMode → Except PortModeError PortMode
  | .access vlan => (PortMode.mkAccess vlan).mapError fun e => .invalidVlan e.vlan
  | .trunk native allowed => PortMode.mkTrunk order native allowed

/-- The mode that is meant. -/
def mode : PortConfigMode → PortMode
  | .access vlan => .access vlan
  | .trunk native allowed => .trunk native allowed.toFinset

/-- Every VLAN mentioned is assignable, and a trunk mentions one. -/
def Valid : PortConfigMode → Prop
  | .access vlan => isAssignable vlan
  | .trunk native allowed => (∀ v, native = some v → isAssignable v) ∧
      (∀ v ∈ allowed, isAssignable v) ∧ (native ≠ none ∨ allowed ≠ [])

/-- **A valid mode is built as it is meant**, and no other is. -/
theorem build_eq_ok {order : Finset.Enumeration Vlan} {m : PortConfigMode} {mode : PortMode} :
    m.build order = .ok mode ↔ m.Valid ∧ mode = m.mode := by
  rcases m with vlan | ⟨native, allowed⟩
  · exact Except.mapError_eq_ok.trans PortMode.mkAccess_eq_ok
  · refine PortMode.mkTrunk_eq_ok.trans ?_
    rw [Valid, PortConfigMode.mode, and_assoc, and_assoc]

theorem Valid.built {m : PortConfigMode} (h : m.Valid) : m.mode.Built := by
  rcases m with vlan | ⟨native, allowed⟩
  · exact Or.inl ⟨vlan, PortMode.mkAccess_eq_ok.mpr ⟨h, rfl⟩⟩
  · exact Or.inr ⟨.sorted, native, allowed, PortMode.mkTrunk_eq_ok.mpr ⟨h.1, h.2.1, h.2.2, rfl⟩⟩

/-- What can be built is valid in whatever order it is written down, and however
often. -/
theorem valid_of_built {m : PortConfigMode} (h : m.mode.Built) : m.Valid := by
  obtain ⟨hall, v, hv⟩ := PortMode.built_iff.mp h
  rcases m with vlan | ⟨native, allowed⟩
  · exact hall vlan rfl
  · refine ⟨fun w hw => hall w (Or.inr hw),
      fun w hw => hall w (Or.inl (List.mem_toFinset.mpr hw)), ?_⟩
    rcases hv with hv | hv
    · exact Or.inr (List.ne_nil_of_mem (List.mem_toFinset.mp hv))
    · exact Or.inl (hv ▸ Option.some_ne_none v)

end PortConfigMode

/-- What the daemon is asked for, for a port of the file. -/
def PortConfig.spec (port : PortConfig) : Spec := ⟨port.name, port.mode.mode⟩

/-- Names are new once `n` was seen if none of them is `n` and they were new before. -/
theorem forall_notMem_insert {α : Type} {name : α → String} {seen : Finset String} {n : String}
    {l : List α} :
    (∀ a ∈ l, name a ∉ insert n seen) ↔ n ∉ l.map name ∧ ∀ a ∈ l, name a ∉ seen := by
  simp only [Finset.mem_insert, not_or, forall_and, List.mem_map, not_exists, not_and]

namespace Config

/-- The loop of `intoSpecs`: the names seen, and what there is so far. -/
def intoSpecsLoop (order : Finset.Enumeration Vlan) (seen : Finset String) (specs : List Spec) :
    List PortConfig → Except ConfigError (List Spec)
  | [] => .ok specs
  | port :: ports =>
    if port.name ∈ seen then .error (.duplicateName port.name)
    else
      match port.mode.build order with
      | .error source => .error (.invalidPort port.name source)
      | .ok mode =>
        intoSpecsLoop order (insert port.name seen) (specs ++ [⟨port.name, mode⟩]) ports

/-- Converts a configuration to what the daemon is asked for. -/
def intoSpecs (order : Finset.Enumeration Vlan) (c : Config) : Except ConfigError (List Spec) :=
  intoSpecsLoop order ∅ [] c.ports

variable {order : Finset.Enumeration Vlan}

theorem intoSpecsLoop_eq_ok {seen : Finset String} {specs specs' : List Spec}
    {ports : List PortConfig} :
    intoSpecsLoop order seen specs ports = .ok specs' ↔
      ((ports.map PortConfig.name).Nodup ∧ ∀ port ∈ ports, port.name ∉ seen) ∧
        (∀ port ∈ ports, port.mode.Valid) ∧ specs' = specs ++ ports.map PortConfig.spec := by
  induction ports generalizing seen specs with
  | nil =>
    simp only [intoSpecsLoop, List.map_nil, List.append_nil, List.nodup_nil, List.not_mem_nil,
      false_implies, implies_true, true_and, Except.ok.injEq, eq_comm]
  | cons port ports ih =>
    rw [intoSpecsLoop, List.map_cons, List.nodup_cons, List.forall_mem_cons, List.forall_mem_cons]
    split
    · next hseen => exact ⟨fun h => (by cases h), fun h => absurd hseen h.1.2.1⟩
    · next hseen =>
      rcases hbuild : port.mode.build order with e | mode
      · refine ⟨fun h => (by cases h), fun h => ?_⟩
        have hok := (@PortConfigMode.build_eq_ok order _ _).mpr ⟨h.2.1.1, rfl⟩
        rw [hbuild] at hok
        cases hok
      · obtain ⟨hvalid, rfl⟩ := PortConfigMode.build_eq_ok.mp hbuild
        have hlist : (specs ++ [(⟨port.name, port.mode.mode⟩ : Spec)]) ++
            ports.map PortConfig.spec = specs ++ (port :: ports).map PortConfig.spec := by
          rw [List.append_assoc]
          rfl
        dsimp only
        rw [ih, forall_notMem_insert, hlist]
        exact ⟨fun h => ⟨⟨⟨h.1.2.1, h.1.1⟩, hseen, h.1.2.2⟩, ⟨hvalid, h.2.1⟩, h.2.2⟩,
          fun h => ⟨⟨h.1.1.2, h.1.1.1, h.1.2.2⟩, h.2.1.2, h.2.2⟩⟩

/-- **When a configuration is accepted**: its names are distinct and its modes valid; and
what becomes of it is the same ports in the same order. -/
theorem intoSpecs_eq_ok {c : Config} {specs : List Spec} :
    c.intoSpecs order = .ok specs ↔ (c.ports.map PortConfig.name).Nodup ∧
      (∀ port ∈ c.ports, port.mode.Valid) ∧ specs = c.ports.map PortConfig.spec := by
  rw [intoSpecs, intoSpecsLoop_eq_ok, List.nil_append]
  simp only [Finset.notMem_empty, not_false_eq_true, implies_true, and_true]

end Config

end VlanSwitch
