import VlanSwitch.Daemon.PortSpec

/-!
# Two front ends

The daemon takes its ports from the command line (`VlanSwitch.parsePortSpecs`) or from a
configuration file (`VlanSwitch.Config.intoSpecs`). The two were written separately and
check in different orders: the command line reads all arguments first and looks for a
name given twice afterwards, the file is checked port by port. They report different
errors, then, but they accept the same ports (`VlanSwitch.front_ends_agree`): each
accepts a list exactly if the names are distinct and every mode is valid.
-/

namespace VlanSwitch

/-- The loop of `rejectDuplicateNames`: the names seen so far. -/
def rejectDuplicateNamesLoop (seen : Finset String) : List Spec → Except SpecError Unit
  | [] => .ok ()
  | spec :: specs =>
    if spec.name ∈ seen then .error (.duplicateName spec.name)
    else rejectDuplicateNamesLoop (insert spec.name seen) specs

/-- Two ports must not share a device. -/
def rejectDuplicateNames (specs : List Spec) : Except SpecError Unit :=
  rejectDuplicateNamesLoop ∅ specs

/-- Parses one port spec per argument. -/
def parsePortSpecs (order : Finset.Enumeration Vlan) (args : List String) :
    Except SpecError (List Spec) := do
  let specs ← args.mapM (parseSpec order)
  rejectDuplicateNames specs
  pure specs

variable {order : Finset.Enumeration Vlan}

theorem rejectDuplicateNamesLoop_eq_ok {seen : Finset String} {specs : List Spec} :
    rejectDuplicateNamesLoop seen specs = .ok () ↔
      (specs.map Spec.name).Nodup ∧ ∀ spec ∈ specs, spec.name ∉ seen := by
  induction specs generalizing seen with
  | nil => simp [rejectDuplicateNamesLoop]
  | cons spec specs ih =>
    rw [rejectDuplicateNamesLoop, List.map_cons, List.nodup_cons, List.forall_mem_cons]
    split
    · next hseen => exact ⟨fun h => (by cases h), fun h => absurd hseen h.2.1⟩
    · next hseen =>
      rw [ih, forall_notMem_insert]
      exact ⟨fun h => ⟨⟨h.2.1, h.1⟩, hseen, h.2.2⟩, fun h => ⟨h.1.2, h.1.1, h.2.2⟩⟩

theorem rejectDuplicateNames_eq_ok {specs : List Spec} {u : Unit} :
    rejectDuplicateNames specs = .ok u ↔ (specs.map Spec.name).Nodup := by
  rw [rejectDuplicateNames, rejectDuplicateNamesLoop_eq_ok]
  exact and_iff_left fun spec _ => Finset.notMem_empty spec.name

/-- **When the arguments are accepted**: each is, and the names are distinct. -/
theorem parsePortSpecs_eq_ok {args : List String} {specs : List Spec} :
    parsePortSpecs order args = .ok specs ↔
      List.Forall₂ (fun arg spec => parseSpec order arg = .ok spec) args specs ∧
        (specs.map Spec.name).Nodup := by
  simp only [parsePortSpecs, Except.bind_eq_ok, Except.mapM_eq_ok, rejectDuplicateNames_eq_ok]
  constructor
  · rintro ⟨specs', hall, -, hnodup, h⟩
    obtain rfl := Except.ok.inj h
    exact ⟨hall, hnodup⟩
  · rintro ⟨hall, hnodup⟩
    exact ⟨specs, hall, (), hnodup, rfl⟩

/-- Only modes that can be built are accepted. -/
theorem built_of_parseSpec {arg : String} {spec : Spec} (h : parseSpec order arg = .ok spec) :
    spec.mode.Built := by
  obtain ⟨-, rest, -, hmode⟩ := parseSpec_eq_ok.mp h
  generalize spec.mode = mode at hmode
  cases parseMode_eq_ok.mp hmode with
  | access hs hv => exact Or.inl ⟨_, PortMode.mkAccess_eq_ok.mpr ⟨hv, rfl⟩⟩
  | trunk hN hL hnative hallowed hne =>
    exact Or.inr ⟨order, _, _, PortMode.mkTrunk_eq_ok.mpr ⟨hnative, hallowed, hne, rfl⟩⟩

/-- **What a front end accepts is sound.** -/
theorem sound_of_parsePortSpecs {args : List String} {specs : List Spec}
    (h : parsePortSpecs order args = .ok specs) :
    (specs.map Spec.name).Nodup ∧ ∀ spec ∈ specs, spec.mode.Built := by
  obtain ⟨hall, hnodup⟩ := parsePortSpecs_eq_ok.mp h
  have hbuilt : List.Forall₂ (fun spec (_ : String) => spec.mode.Built ∧ True) specs args :=
    (hall.imp fun arg spec hspec => ⟨built_of_parseSpec hspec, trivial⟩).flip
  exact ⟨hnodup, ((List.forall₂_and_left specs args).mp hbuilt).1⟩

theorem sound_of_intoSpecs {c : Config} {specs : List Spec} (h : c.intoSpecs order = .ok specs) :
    (specs.map Spec.name).Nodup ∧ ∀ spec ∈ specs, spec.mode.Built := by
  obtain ⟨hnodup, hvalid, rfl⟩ := Config.intoSpecs_eq_ok.mp h
  refine ⟨?_, fun spec hspec => ?_⟩
  · rwa [List.map_map]
  · obtain ⟨port, hport, rfl⟩ := List.mem_map.mp hspec
    exact (hvalid port hport).built

/-- Argument by argument, the spec is that of the port. -/
theorem forall₂_parseSpec_render {ports : List PortConfig}
    (hnames : ∀ port ∈ ports, ':' ∉ port.name.toList) {specs : List Spec} :
    List.Forall₂ (fun port spec => parseSpec order (PortConfig.render port) = .ok spec)
        ports specs ↔
      (∀ port ∈ ports, port.mode.Valid) ∧ specs = ports.map PortConfig.spec := by
  induction ports generalizing specs with
  | nil => simp
  | cons port ports ih =>
    rw [List.forall_mem_cons] at hnames
    rw [List.forall₂_cons_left_iff, List.forall_mem_cons, List.map_cons]
    constructor
    · rintro ⟨spec, specs, hspec, hrest, rfl⟩
      obtain ⟨hvalid, rfl⟩ := (parseSpec_render hnames.1).mp hspec
      obtain ⟨hvalids, rfl⟩ := (ih hnames.2).mp hrest
      exact ⟨⟨hvalid, hvalids⟩, rfl⟩
    · rintro ⟨⟨hvalid, hvalids⟩, rfl⟩
      exact ⟨_, _, (parseSpec_render hnames.1).mpr ⟨hvalid, rfl⟩,
        (ih hnames.2).mpr ⟨hvalids, rfl⟩, rfl⟩

/-- **The command line accepts what is written on it as the file would.** -/
theorem parsePortSpecs_render {c : Config} (hnames : ∀ port ∈ c.ports, ':' ∉ port.name.toList)
    {specs : List Spec} :
    parsePortSpecs order (c.ports.map PortConfig.render) = .ok specs ↔
      (c.ports.map PortConfig.name).Nodup ∧ (∀ port ∈ c.ports, port.mode.Valid) ∧
        specs = c.ports.map PortConfig.spec := by
  rw [parsePortSpecs_eq_ok, List.forall₂_map_left_iff, forall₂_parseSpec_render hnames]
  constructor
  · rintro ⟨⟨hvalid, rfl⟩, hnodup⟩
    rw [List.map_map] at hnodup
    exact ⟨hnodup, hvalid, rfl⟩
  · rintro ⟨hnodup, hvalid, rfl⟩
    rw [List.map_map]
    exact ⟨⟨hvalid, rfl⟩, hnodup⟩

/-- **The command line and the file agree.** Ports whose names hold no colon are accepted
from the command line exactly if they are accepted from a configuration, as the same
specs in the same order; and both are accepted exactly if the names are distinct, every
VLAN mentioned is in range and every trunk has a native VLAN or an allowed one. What
either front end accepts, of any arguments and any configuration, has distinct names and
modes that can be built. The order in which hash sets are iterated over may differ
between the two. -/
theorem front_ends_agree (order order' : Finset.Enumeration Vlan) {c : Config}
    (hnames : ∀ port ∈ c.ports, ':' ∉ port.name.toList) :
    (∀ specs, parsePortSpecs order (c.ports.map PortConfig.render) = .ok specs ↔
      c.intoSpecs order' = .ok specs) ∧
    ((∃ specs, parsePortSpecs order (c.ports.map PortConfig.render) = .ok specs) ↔
      (c.ports.map PortConfig.name).Nodup ∧ ∀ port ∈ c.ports, port.mode.Valid) ∧
    ((∃ specs, c.intoSpecs order' = .ok specs) ↔
      (c.ports.map PortConfig.name).Nodup ∧ ∀ port ∈ c.ports, port.mode.Valid) ∧
    (∀ args specs, parsePortSpecs order args = .ok specs →
      (specs.map Spec.name).Nodup ∧ ∀ spec ∈ specs, spec.mode.Built) ∧
    ∀ (c' : Config) specs, c'.intoSpecs order' = .ok specs →
      (specs.map Spec.name).Nodup ∧ ∀ spec ∈ specs, spec.mode.Built := by
  refine ⟨fun specs => ?_, ?_, ?_, fun _ _ => sound_of_parsePortSpecs,
    fun _ _ => sound_of_intoSpecs⟩
  · rw [parsePortSpecs_render hnames, Config.intoSpecs_eq_ok]
  · simp only [parsePortSpecs_render hnames, exists_and_left, exists_eq, and_true]
  · simp only [Config.intoSpecs_eq_ok, exists_and_left, exists_eq, and_true]

/-- An access port and a trunk with its VLANs out of order. -/
theorem front_ends_agree_pair :
    parsePortSpecs .sorted ["tap0:10", "tap1:trunk:-:20,10,20"] =
      .ok [⟨"tap0", .access 10⟩, ⟨"tap1", .trunk none {10, 20}⟩] := by
  have h := @front_ends_agree .sorted .sorted
    ⟨[⟨"tap0", .access 10⟩, ⟨"tap1", .trunk none [20, 10, 20]⟩]⟩ (by decide)
  exact (h.1 _).mpr (by decide)

end VlanSwitch
