import VlanSwitch.Daemon.FrontEnds

/-!
# The command line

The process is started with port specs, or with the path of a configuration after
`--config`, and in either case `--dashboard` with an address may stand anywhere among the
arguments. It is taken out first, wherever it is (`VlanSwitch.takeDashboardAddr`), so that
the rest is read as if it had never been there; hence it does not matter where it stands,
for what the process is started with and for what it complains about
(`VlanSwitch.command_line`). Reading an address and reading and parsing the file are left
to the standard library and to what reads the file, and are arbitrary here; so is the order
in which hash sets are iterated over.
-/

namespace VlanSwitch

/-- What the daemon is run with. -/
structure Launch (α : Type) where
  specs : List Spec
  /-- What a reload reads again. -/
  reloadPath : Option String
  dashboard : Option α
  deriving DecidableEq

/-- Why the process ends before the daemon is run. -/
inductive Exit (ε : Type) where
  /-- `--dashboard` is the last argument. -/
  | missingAddress
  /-- What follows `--dashboard` is not an address. -/
  | invalidAddress (addr : String)
  /-- The configuration cannot be read, or is not one. -/
  | load (e : ε)
  /-- The configuration is not valid. -/
  | config (e : ConfigError)
  /-- A port spec is not one, or two ports share a device. -/
  | spec (e : SpecError)
  /-- `--config` is not followed by exactly one path. -/
  | configUsage
  /-- There are no ports. -/
  | usage
  deriving DecidableEq

variable {α ε : Type} (order : Finset.Enumeration Vlan) (parseAddr : String → Option α)
  (load : String → Except ε Config)

/-- Takes `--dashboard` and the address after it out of the arguments. -/
def takeDashboardAddr (args : List String) : Except (Exit ε) (Option α × List String) :=
  match args.findIdx? (· == "--dashboard") with
  | none => .ok (none, args)
  | some i =>
    match args[i + 1]? with
    | none => .error .missingAddress
    | some addr =>
      match parseAddr addr with
      | none => .error (.invalidAddress addr)
      | some a => .ok (some a, (args.eraseIdx (i + 1)).eraseIdx i)

/-- The daemon is run with a configuration. -/
def runFromConfig (path : String) (dashboard : Option α) : Except (Exit ε) (Launch α) :=
  match load path with
  | .error e => .error (.load e)
  | .ok config =>
    match config.intoSpecs order with
    | .error e => .error (.config e)
    | .ok specs => .ok ⟨specs, some path, dashboard⟩

/-- What becomes of the arguments. -/
def tryMain (args : List String) : Except (Exit ε) (Launch α) :=
  match takeDashboardAddr parseAddr args with
  | .error e => .error e
  | .ok (dashboard, args) =>
    if args.head? = some "--config" then
      match args with
      | [_, path] => runFromConfig order load path dashboard
      | _ => .error .configUsage
    else
      match parsePortSpecs order args with
      | .error e => .error (.spec e)
      | .ok specs => if specs.isEmpty then .error .usage else .ok ⟨specs, none, dashboard⟩

/-! ### Taking the address out -/

theorem takeDashboardAddr_of_notMem {args : List String} (h : "--dashboard" ∉ args) :
    takeDashboardAddr (ε := ε) parseAddr args = .ok (none, args) := by
  have hnone : args.findIdx? (· == "--dashboard") = none := by
    rw [List.findIdx?_eq_none_iff]
    intro arg harg
    exact beq_eq_false_iff_ne.mpr fun heq => h (heq ▸ harg)
  rw [takeDashboardAddr, hnone]

/-- The first `--dashboard` is the one that counts. -/
theorem findIdx_append {pre : List String} (h : "--dashboard" ∉ pre) (post : List String) :
    (pre ++ "--dashboard" :: post).findIdx? (· == "--dashboard") = some pre.length := by
  have hnone : pre.findIdx? (· == "--dashboard") = none := by
    rw [List.findIdx?_eq_none_iff]
    intro arg harg
    exact beq_eq_false_iff_ne.mpr fun heq => h (heq ▸ harg)
  rw [List.findIdx?_append, hnone, List.findIdx?_cons]
  simp

theorem takeDashboardAddr_last {pre : List String} (h : "--dashboard" ∉ pre) :
    takeDashboardAddr (ε := ε) parseAddr (pre ++ ["--dashboard"]) = .error .missingAddress := by
  have hnone : (pre ++ ["--dashboard"])[pre.length + 1]? = none := by simp
  rw [takeDashboardAddr, findIdx_append h]
  dsimp only
  rw [hnone]

theorem takeDashboardAddr_append {pre : List String} (h : "--dashboard" ∉ pre) (addr : String)
    (post : List String) :
    takeDashboardAddr (ε := ε) parseAddr (pre ++ "--dashboard" :: addr :: post) =
      match parseAddr addr with
      | none => .error (.invalidAddress addr)
      | some a => .ok (some a, pre ++ post) := by
  have hsome : (pre ++ "--dashboard" :: addr :: post)[pre.length + 1]? = some addr := by simp
  have herase : ((pre ++ "--dashboard" :: addr :: post).eraseIdx (pre.length + 1)).eraseIdx
      pre.length = pre ++ post := by
    rw [List.eraseIdx_append_of_length_le (Nat.le_add_right _ _), Nat.add_sub_cancel_left,
      List.eraseIdx_append_of_length_le (Nat.le_refl _), Nat.sub_self]
    rfl
  rw [takeDashboardAddr, findIdx_append h]
  dsimp only
  rw [hsome, herase]

/-- **The arguments without the dashboard's address**, and the address: the first
`--dashboard` and what follows it are left out, if there is one. -/
inductive Flagged : List String → List String → Option α → Prop
  | without {args : List String} (h : "--dashboard" ∉ args) : Flagged args args none
  | flagged {pre post : List String} {addr : String} {a : α} (h : "--dashboard" ∉ pre)
      (haddr : parseAddr addr = some a) :
      Flagged (pre ++ "--dashboard" :: addr :: post) (pre ++ post) (some a)

theorem takeDashboardAddr_eq_ok {args rest : List String} {dashboard : Option α} :
    takeDashboardAddr (ε := ε) parseAddr args = .ok (dashboard, rest) ↔
      Flagged parseAddr args rest dashboard := by
  constructor
  · intro h
    by_cases hmem : "--dashboard" ∈ args
    · obtain ⟨pre, post, rfl, hpre⟩ := List.eq_append_cons_of_mem hmem
      rcases post with _ | ⟨addr, post⟩
      · rw [takeDashboardAddr_last parseAddr hpre] at h
        cases h
      · rw [takeDashboardAddr_append parseAddr hpre] at h
        rcases haddr : parseAddr addr with _ | a
        · rw [haddr] at h
          cases h
        · rw [haddr] at h
          obtain ⟨rfl, rfl⟩ := Prod.mk.inj (Except.ok.inj h)
          exact .flagged hpre haddr
    · rw [takeDashboardAddr_of_notMem parseAddr hmem] at h
      obtain ⟨rfl, rfl⟩ := Prod.mk.inj (Except.ok.inj h)
      exact .without hmem
  · rintro (hnot | ⟨hpre, haddr⟩)
    · exact takeDashboardAddr_of_notMem parseAddr hnot
    · rw [takeDashboardAddr_append parseAddr hpre, haddr]

/-! ### What the process is started with -/

/-- A port spec as it may be written: a name without a colon, a colon, and a text of the
mode. -/
def SpecText (arg : String) (spec : Spec) : Prop :=
  ':' ∉ spec.name.toList ∧ ∃ rest, arg = spec.name ++ ":" ++ rest ∧ ModeText rest spec.mode

theorem parseSpec_eq_ok_iff {arg : String} {spec : Spec} :
    parseSpec order arg = .ok spec ↔ SpecText arg spec := by
  rw [parseSpec_eq_ok, SpecText]
  simp only [parseMode_eq_ok]

/-- **The process runs on a configuration** exactly if it can be read and is valid. -/
theorem runFromConfig_eq_ok {path : String} {dashboard : Option α} {l : Launch α} :
    runFromConfig order load path dashboard = .ok l ↔
      ∃ c, load path = .ok c ∧ (c.ports.map PortConfig.name).Nodup ∧
        (∀ port ∈ c.ports, port.mode.Valid) ∧
        l = ⟨c.ports.map PortConfig.spec, some path, dashboard⟩ := by
  rw [runFromConfig]
  rcases load path with e | c
  · exact ⟨fun h => (by cases h), fun ⟨c, h, _⟩ => (by cases h)⟩
  · dsimp only
    constructor
    · intro h
      rcases hspecs : c.intoSpecs order with e | specs
      · rw [hspecs] at h
        cases h
      · rw [hspecs] at h
        obtain ⟨hnodup, hvalid, rfl⟩ := Config.intoSpecs_eq_ok.mp hspecs
        exact ⟨c, rfl, hnodup, hvalid, (Except.ok.inj h).symm⟩
    · rintro ⟨c', hc, hnodup, hvalid, rfl⟩
      obtain rfl := Except.ok.inj hc
      rw [Config.intoSpecs_eq_ok.mpr ⟨hnodup, hvalid, rfl⟩]

section Rest

variable {args rest : List String} {dashboard : Option α} {l : Launch α}

/-- With `--config`, the configuration decides. -/
theorem tryMain_of_config (h : Flagged parseAddr args rest dashboard)
    (hconfig : rest.head? = some "--config") :
    tryMain order parseAddr load args = .ok l ↔ ∃ path c, rest = ["--config", path] ∧
      load path = .ok c ∧ (c.ports.map PortConfig.name).Nodup ∧
      (∀ port ∈ c.ports, port.mode.Valid) ∧
      l = ⟨c.ports.map PortConfig.spec, some path, dashboard⟩ := by
  have htake := (takeDashboardAddr_eq_ok (ε := ε) parseAddr).mpr h
  rw [tryMain, htake]
  dsimp only
  rw [if_pos hconfig]
  constructor
  · intro hok
    split at hok
    · next first path =>
      obtain rfl := Option.some.inj hconfig
      obtain ⟨c, hc⟩ := (runFromConfig_eq_ok order load).mp hok
      exact ⟨path, c, rfl, hc⟩
    · cases hok
  · rintro ⟨path, c, rfl, hc⟩
    exact (runFromConfig_eq_ok order load).mpr ⟨c, hc⟩

/-- Without it, the port specs do, and there has to be one. -/
theorem tryMain_of_specs (h : Flagged parseAddr args rest dashboard)
    (hconfig : rest.head? ≠ some "--config") :
    tryMain order parseAddr load args = .ok l ↔ rest ≠ [] ∧ List.Forall₂ SpecText rest l.specs ∧
      (l.specs.map Spec.name).Nodup ∧ l.reloadPath = none ∧ l.dashboard = dashboard := by
  have htake := (takeDashboardAddr_eq_ok (ε := ε) parseAddr).mpr h
  have hparse : ∀ specs, parsePortSpecs order rest = .ok specs ↔
      List.Forall₂ SpecText rest specs ∧ (specs.map Spec.name).Nodup := fun specs => by
    simp only [parsePortSpecs_eq_ok, parseSpec_eq_ok_iff order]
  rw [tryMain, htake]
  dsimp only
  rw [if_neg hconfig]
  constructor
  · intro hok
    rcases hspecs : parsePortSpecs order rest with e | specs
    · rw [hspecs] at hok
      cases hok
    · rw [hspecs] at hok
      obtain ⟨hall, hnodup⟩ := (hparse specs).mp hspecs
      dsimp only at hok
      split at hok
      · cases hok
      · next hsome =>
        obtain rfl := Except.ok.inj hok
        refine ⟨?_, hall, hnodup, rfl, rfl⟩
        rintro rfl
        cases hall
        exact hsome rfl
  · rintro ⟨hne, hall, hnodup, hpath, rfl⟩
    have hspecs : ¬l.specs.isEmpty = true := by
      rw [List.isEmpty_iff]
      intro hnil
      rw [hnil] at hall
      cases hall
      exact hne rfl
    rw [(hparse l.specs).mpr ⟨hall, hnodup⟩]
    dsimp only
    rw [if_neg hspecs, ← hpath]

end Rest

/-- **What the process is started with, and that it does not matter where the dashboard's
address stands.** The daemon is run exactly if what is left of the arguments without
`--dashboard` and its address is either `--config` and the path of a configuration that can
be read, has distinct names and valid modes, or one port spec or more, written by the
grammar and with distinct names, the first of which is not `--config`; and it is run with
just those ports. Moving `--dashboard` and the address to the front changes nothing, not
even what is complained about. -/
theorem command_line :
    (∀ args l, tryMain order parseAddr load args = .ok l ↔
      ∃ rest, Flagged parseAddr args rest l.dashboard ∧
        ((∃ path c, rest = ["--config", path] ∧ load path = .ok c ∧
            (c.ports.map PortConfig.name).Nodup ∧ (∀ port ∈ c.ports, port.mode.Valid) ∧
            l.specs = c.ports.map PortConfig.spec ∧ l.reloadPath = some path) ∨
          (rest ≠ [] ∧ rest.head? ≠ some "--config" ∧ List.Forall₂ SpecText rest l.specs ∧
            (l.specs.map Spec.name).Nodup ∧ l.reloadPath = none))) ∧
    ∀ pre addr post, "--dashboard" ∉ pre →
      tryMain order parseAddr load (pre ++ "--dashboard" :: addr :: post) =
        tryMain order parseAddr load ("--dashboard" :: addr :: (pre ++ post)) := by
  refine ⟨fun args l => ⟨fun h => ?_, ?_⟩, fun pre addr post hpre => ?_⟩
  · rcases htake : takeDashboardAddr (ε := ε) parseAddr args with e | ⟨dashboard, rest⟩
    · rw [tryMain, htake] at h
      cases h
    · have hflagged := (takeDashboardAddr_eq_ok parseAddr).mp htake
      by_cases hconfig : rest.head? = some "--config"
      · obtain ⟨path, c, hrest, hload, hnodup, hvalid, rfl⟩ :=
          (tryMain_of_config order parseAddr load hflagged hconfig).mp h
        exact ⟨rest, hflagged, Or.inl ⟨path, c, hrest, hload, hnodup, hvalid, rfl, rfl⟩⟩
      · obtain ⟨hne, hall, hnodup, hpath, rfl⟩ :=
          (tryMain_of_specs order parseAddr load hflagged hconfig).mp h
        exact ⟨rest, hflagged, Or.inr ⟨hne, hconfig, hall, hnodup, hpath⟩⟩
  · rintro ⟨rest, hflagged, ⟨path, c, rfl, hload, hnodup, hvalid, hspecs, hpath⟩ |
      ⟨hne, hconfig, hall, hnodup, hpath⟩⟩
    · refine (tryMain_of_config order parseAddr load hflagged rfl).mpr
        ⟨path, c, rfl, hload, hnodup, hvalid, ?_⟩
      rw [← hspecs, ← hpath]
    · exact (tryMain_of_specs order parseAddr load hflagged hconfig).mpr
        ⟨hne, hall, hnodup, hpath, rfl⟩
  · have hfront := takeDashboardAddr_append (ε := ε) parseAddr
      (List.not_mem_nil : "--dashboard" ∉ []) addr (pre ++ post)
    rw [tryMain, tryMain, takeDashboardAddr_append parseAddr hpre]
    rw [List.nil_append, List.nil_append] at hfront
    rw [hfront]

/-- An address of the loopback interface, as its port. -/
def parseLoopback (addr : String) : Option ℕ :=
  (stripPrefix addr "127.0.0.1:").bind fun port => Text.parseUnsigned 65535 port.toList

/-- Two access ports, with the address between them or in front. -/
theorem command_line_between_ports :
    tryMain .sorted parseLoopback (fun _ => Except.error ())
        ["tap0:10", "--dashboard", "127.0.0.1:8080", "tap1:20"] =
      .ok ⟨[⟨"tap0", .access 10⟩, ⟨"tap1", .access 20⟩], none, some 8080⟩ ∧
    tryMain .sorted parseLoopback (fun _ => Except.error ())
        ["--dashboard", "127.0.0.1:8080", "tap0:10", "tap1:20"] =
      .ok ⟨[⟨"tap0", .access 10⟩, ⟨"tap1", .access 20⟩], none, some 8080⟩ := by
  have h := command_line .sorted parseLoopback fun _ => Except.error ()
  have hflagged : Flagged parseLoopback
      ["tap0:10", "--dashboard", "127.0.0.1:8080", "tap1:20"] ["tap0:10", "tap1:20"] (some 8080) :=
    @Flagged.flagged _ parseLoopback ["tap0:10"] ["tap1:20"] _ _ (by decide) (by decide)
  have htap0 : SpecText "tap0:10" ⟨"tap0", .access 10⟩ :=
    (parseSpec_eq_ok_iff .sorted).mp (by decide)
  have htap1 : SpecText "tap1:20" ⟨"tap1", .access 20⟩ :=
    (parseSpec_eq_ok_iff .sorted).mp (by decide)
  have htext : List.Forall₂ SpecText ["tap0:10", "tap1:20"]
      [⟨"tap0", .access 10⟩, ⟨"tap1", .access 20⟩] := .cons htap0 (.cons htap1 .nil)
  have hrun := (h.1 _ ⟨_, none, some 8080⟩).mpr
    ⟨_, hflagged, Or.inr ⟨by decide, by decide, htext, by decide, rfl⟩⟩
  have hmove := h.2 ["tap0:10"] "127.0.0.1:8080" ["tap1:20"] (by decide)
  exact ⟨hrun, hmove.symm.trans hrun⟩

end VlanSwitch
