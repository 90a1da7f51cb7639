import VlanSwitch.Daemon.Config

/-!
# Ports on the command line

A port is asked for on the command line as `<tap-name>:<vlan-id>`, or as
`<tap-name>:trunk:<native-or-->:<allowed-csv>`. `VlanSwitch.parseSpec` reads such an
argument the way the source does, by cutting it at colons and commas; what it accepts
is the grammar `VlanSwitch.ModeText` describes, and nothing else
(`VlanSwitch.parseSpec_iff_grammar`). The cuts are at the first colon each, so a name
cannot hold one; and the prefix `trunk:` takes nothing away from access ports, since
no number begins with a letter.
-/

namespace VlanSwitch

/-- Why the arguments are rejected: what is wrong, and in which argument; or a name that
is given twice. -/
inductive SpecError where
  | badSpec (arg msg : String)
  | duplicateName (name : String)
  deriving DecidableEq, Repr

/-! ### The methods of strings that are used -/

/-- `str::split_once`. -/
def splitOnce (s : String) (sep : Char) : Option (String × String) :=
  (Text.splitOnce sep s.toList).map fun (x, y) => (String.ofList x, String.ofList y)

/-- `str::strip_prefix`. -/
def stripPrefix (s pre : String) : Option String :=
  (Text.stripPrefix pre.toList s.toList).map String.ofList

/-- `str::split`. -/
def split (s : String) (sep : Char) : List String := (s.toList.splitOn sep).map String.ofList

/-- `str::parse::<Vlan>`. -/
def parseVlan (s : String) : Option Vlan :=
  (Text.parseUnsigned 65535 s.toList).map UInt16.ofNat

theorem splitOnce_colon {s x y : String} :
    splitOnce s ':' = some (x, y) ↔ ':' ∉ x.toList ∧ s = x ++ ":" ++ y := by
  have htext : s = x ++ ":" ++ y ↔ s.toList = x.toList ++ ':' :: y.toList := by
    rw [← String.toList_inj, String.toList_append, String.toList_append, List.append_assoc]
    rfl
  rw [splitOnce, Option.map_eq_some_iff, htext]
  constructor
  · rintro ⟨⟨x', y'⟩, hsplit, h⟩
    obtain ⟨rfl, rfl⟩ := Prod.mk.inj h
    rw [String.toList_ofList, String.toList_ofList]
    exact Text.splitOnce_eq_some.mp hsplit
  · intro h
    exact ⟨(x.toList, y.toList), Text.splitOnce_eq_some.mpr h, by simp⟩

theorem stripPrefix_eq_some {s pre rest : String} :
    stripPrefix s pre = some rest ↔ s = pre ++ rest := by
  rw [stripPrefix, Option.map_eq_some_iff, ← String.toList_inj, String.toList_append]
  constructor
  · rintro ⟨l, hl, rfl⟩
    rw [String.toList_ofList]
    exact Text.stripPrefix_eq_some.mp hl
  · intro h
    exact ⟨rest.toList, Text.stripPrefix_eq_some.mpr h, String.ofList_toList⟩

/-- A number as `u16::from_str` reads it: an optional `+`, and at least one digit. -/
def Num (s : String) (v : Vlan) : Prop := Text.Numeral s.toList v.toNat

theorem parseVlan_eq_some {s : String} {v : Vlan} : parseVlan s = some v ↔ Num s v := by
  rw [parseVlan, Option.map_eq_some_iff]
  constructor
  · rintro ⟨n, hn, rfl⟩
    obtain ⟨hnum, hle⟩ := Text.parseUnsigned_eq_some.mp hn
    rwa [Num, UInt16.toNat_ofNat_of_lt' (Nat.lt_succ_of_le hle)]
  · intro h
    have hle : v.toNat ≤ 65535 := Nat.le_of_lt_succ v.toNat_lt
    exact ⟨v.toNat, Text.parseUnsigned_eq_some.mpr ⟨h, hle⟩, UInt16.ofNat_toNat⟩

/-- A number is written with digits and a sign. -/
theorem Num.notMem {s : String} {v : Vlan} (h : Num s v) {c : Char}
    (hc : (c.isDigit || c == '+') = false) : c ∉ s.toList :=
  Text.Numeral.notMem h hc

theorem Num.ne_empty {s : String} {v : Vlan} (h : Num s v) : s ≠ "" := by
  rintro rfl
  exact Text.Numeral.ne_nil h rfl

theorem intercalate_split (s : String) : ",".intercalate (split s ',') = s := by
  have hfields : (split s ',').map String.toList = s.toList.splitOn ',' := by
    rw [split, List.map_map]
    exact List.map_id'' (fun l => String.toList_ofList) _
  rw [← String.toList_inj, String.toList_intercalate, hfields]
  exact List.intercalate_splitOn ','

theorem split_intercalate {fields : List String} (hne : fields ≠ [])
    (h : ∀ f ∈ fields, ',' ∉ f.toList) : split (",".intercalate fields) ',' = fields := by
  have hlists : ∀ l ∈ fields.map String.toList, ',' ∉ l := fun l hl => by
    obtain ⟨f, hf, rfl⟩ := List.mem_map.mp hl
    exact h f hf
  have hsplit := List.splitOn_intercalate ',' hlists (mt List.map_eq_nil_iff.mp hne)
  rw [split, String.toList_intercalate]
  refine (congrArg (List.map String.ofList) hsplit).trans ?_
  rw [List.map_map]
  exact List.map_id'' (fun f => String.ofList_toList) _

/-! ### Reading an argument -/

/-- Gives up with a message about `arg`. -/
def orBadSpec {α : Type} (arg msg : String) : Option α → Except SpecError α
  | some a => .ok a
  | none => .error (.badSpec arg msg)

/-- The native field of a trunk: `-` for none. -/
def parseNative (arg nativeStr : String) : Except SpecError (Option Vlan) :=
  if nativeStr = "-" then .ok none
  else some <$> orBadSpec arg "bad native VLAN id" (parseVlan nativeStr)

/-- The allowed field of a trunk: it may be empty, but nothing between its commas. -/
def parseAllowed (arg allowedStr : String) : Except SpecError (List Vlan) :=
  if allowedStr = "" then .ok []
  else
    (split allowedStr ',').mapM fun s =>
      orBadSpec arg "bad VLAN id in allowed list" (parseVlan s)

/-- What comes after the name. -/
def parseMode (order : Finset.Enumeration Vlan) (arg rest : String) : Except SpecError PortMode :=
  match stripPrefix rest "trunk:" with
  | some trunkSpec => do
    let (nativeStr, allowedStr) ←
      orBadSpec arg "expected trunk:<native-or-->:<allowed-csv>" (splitOnce trunkSpec ':')
    let native ← parseNative arg nativeStr
    let allowed ← parseAllowed arg allowedStr
    (PortMode.mkTrunk order native allowed).mapError fun e => .badSpec arg e.message
  | none => do
    let vlan ← orBadSpec arg "bad VLAN id" (parseVlan rest)
    (PortMode.mkAccess vlan).mapError fun e => .badSpec arg e.message

/-- Parses one argument. How hash sets are iterated over matters to the message only. -/
def parseSpec (order : Finset.Enumeration Vlan) (arg : String) : Except SpecError Spec := do
  let (name, rest) ← orBadSpec arg
    "expected <tap-name>:<vlan-id> or <tap-name>:trunk:<native-or-->:<allowed-csv>"
    (splitOnce arg ':')
  let mode ← parseMode order arg rest
  pure ⟨name, mode⟩

variable {order : Finset.Enumeration Vlan}

/-! ### The grammar -/

/-- The native field of a trunk. -/
def NativeText (s : String) (native : Option Vlan) : Prop :=
  (s = "-" ∧ native = none) ∨ ∃ v, Num s v ∧ native = some v

/-- The allowed field of a trunk: empty, or numbers with commas between them. -/
def AllowedText (s : String) (allowed : List Vlan) : Prop :=
  (s = "" ∧ allowed = []) ∨
    ∃ fields, fields ≠ [] ∧ s = ",".intercalate fields ∧ List.Forall₂ Num fields allowed

/-- **The text of a mode.** -/
inductive ModeText : String → PortMode → Prop
  | access {s : String} {v : Vlan} (hs : Num s v) (hv : isAssignable v) : ModeText s (.access v)
  | trunk {N L : String} {native : Option Vlan} {allowed : List Vlan}
      (hN : NativeText N native) (hL : AllowedText L allowed)
      (hnative : ∀ v, native = some v → isAssignable v) (hallowed : ∀ v ∈ allowed, isAssignable v)
      (hne : native ≠ none ∨ allowed ≠ []) :
      ModeText ("trunk:" ++ N ++ ":" ++ L) (.trunk native allowed.toFinset)

theorem orBadSpec_eq_ok {α : Type} {arg msg : String} {o : Option α} {a : α} :
    orBadSpec arg msg o = .ok a ↔ o = some a := by
  rcases o with _ | b
  · exact ⟨fun h => (by cases h), fun h => (by cases h)⟩
  · exact ⟨fun h => congrArg _ (Except.ok.inj h), fun h => congrArg _ (Option.some.inj h)⟩

theorem parseNative_eq_ok {arg s : String} {native : Option Vlan} :
    parseNative arg s = .ok native ↔ NativeText s native := by
  rw [parseNative, NativeText]
  split
  · next hs =>
    -- the dash is not a number
    have hnum : ∀ v, ¬Num s v := fun v hv => by
      subst hs
      exact hv.notMem (c := '-') rfl (List.mem_singleton_self _)
    simp only [hs, true_and, Except.ok.injEq, eq_comm (a := none)]
    refine (or_iff_left ?_).symm
    rintro ⟨v, hv, -⟩
    exact hnum v (hs ▸ hv)
  · next hs =>
    rw [Except.map_eq_ok]
    simp only [orBadSpec_eq_ok, parseVlan_eq_some, hs, false_and, false_or, eq_comm (a := native)]

/-- The native field holds no colon, so the cut is after it. -/
theorem NativeText.notMem_colon {s : String} {native : Option Vlan} (h : NativeText s native) :
    ':' ∉ s.toList := by
  rcases h with ⟨rfl, -⟩ | ⟨v, hv, -⟩
  · decide
  · exact hv.notMem rfl

/-- The fields between the commas are what the commas are put between: there is none in a
number. -/
theorem exists_fields_iff {s : String} {allowed : List Vlan} :
    (∃ fields, fields ≠ [] ∧ s = ",".intercalate fields ∧ List.Forall₂ Num fields allowed) ↔
      List.Forall₂ Num (split s ',') allowed := by
  constructor
  · rintro ⟨fields, hne, rfl, hnums⟩
    have hcomma : ∀ f ∈ fields, ',' ∉ f.toList :=
      ((List.forall₂_and_left fields allowed).mp
        (hnums.imp fun f v hv => ⟨hv.notMem rfl, hv⟩)).1
    rwa [split_intercalate hne hcomma]
  · intro h
    have hne : split s ',' ≠ [] := mt List.map_eq_nil_iff.mp (List.splitOn_ne_nil ',' s.toList)
    exact ⟨split s ',', hne, (intercalate_split s).symm, h⟩

theorem parseAllowed_eq_ok {arg s : String} {allowed : List Vlan} :
    parseAllowed arg s = .ok allowed ↔ AllowedText s allowed := by
  rw [parseAllowed, AllowedText, exists_fields_iff]
  split
  · next hs =>
    -- the empty text is one field, which is not a number
    have hfield : ¬List.Forall₂ Num (split s ',') allowed := by
      subst hs
      intro h
      have hone : List.Forall₂ Num [""] allowed := h
      obtain ⟨v, -, hv, -⟩ := List.forall₂_cons_left_iff.mp hone
      exact hv.ne_empty rfl
    rw [or_iff_left hfield, and_iff_right hs, Except.ok.injEq, eq_comm]
  · next hs =>
    rw [Except.mapM_eq_ok, or_iff_right fun h => hs h.1]
    simp only [orBadSpec_eq_ok, parseVlan_eq_some]

/-- A number does not begin like a trunk. -/
theorem Num.ne_trunk {s rest : String} {v : Vlan} (h : Num s v) : s ≠ "trunk:" ++ rest := by
  rintro rfl
  refine h.notMem (c := 't') rfl ?_
  rw [String.toList_append]
  exact List.mem_append_left _ List.mem_cons_self

/-- **What is accepted after the name.** -/
theorem parseMode_eq_ok {arg rest : String} {mode : PortMode} :
    parseMode order arg rest = .ok mode ↔ ModeText rest mode := by
  rw [parseMode]
  rcases hstrip : stripPrefix rest "trunk:" with _ | trunkSpec
  · have htrunk : ∀ trunkSpec, rest ≠ "trunk:" ++ trunkSpec := fun trunkSpec h => by
      rw [stripPrefix_eq_some.mpr h] at hstrip
      cases hstrip
    simp only [Except.bind_eq_ok, orBadSpec_eq_ok, parseVlan_eq_some, Except.mapError_eq_ok,
      PortMode.mkAccess_eq_ok]
    constructor
    · rintro ⟨v, hnum, hv, rfl⟩
      exact .access hnum hv
    · intro h
      cases h with
      | access hs hv => exact ⟨_, hs, hv, rfl⟩
      | @trunk N L _ _ _ _ _ _ _ =>
        exact absurd (by simp only [String.append_assoc]) (htrunk (N ++ ":" ++ L))
  · obtain rfl := stripPrefix_eq_some.mp hstrip
    simp only [Except.bind_eq_ok, orBadSpec_eq_ok, Prod.exists, splitOnce_colon,
      parseNative_eq_ok, parseAllowed_eq_ok, Except.mapError_eq_ok, PortMode.mkTrunk_eq_ok]
    constructor
    · rintro ⟨N, L, ⟨-, rfl⟩, native, hN, allowed, hL, hnative, hallowed, hne, rfl⟩
      have h := ModeText.trunk hN hL hnative hallowed hne
      simpa only [String.append_assoc] using h
    · intro h
      generalize hrest : "trunk:" ++ trunkSpec = rest at h
      cases h with
      | access hs hv => exact absurd hrest.symm hs.ne_trunk
      | @trunk N L native allowed hN hL hnative hallowed hne =>
        have hspec : trunkSpec = N ++ ":" ++ L := by
          refine (String.append_right_inj "trunk:").mp (hrest.trans ?_)
          simp only [String.append_assoc]
        exact ⟨N, L, ⟨hN.notMem_colon, hspec⟩, native, hN, allowed, hL, hnative, hallowed, hne, rfl⟩

theorem parseSpec_eq_ok {arg : String} {spec : Spec} :
    parseSpec order arg = .ok spec ↔ ':' ∉ spec.name.toList ∧
      ∃ rest, arg = spec.name ++ ":" ++ rest ∧ parseMode order arg rest = .ok spec.mode := by
  simp only [parseSpec, Except.bind_eq_ok, orBadSpec_eq_ok, Prod.exists, splitOnce_colon]
  constructor
  · rintro ⟨name, rest, ⟨hname, harg⟩, mode, hmode, h⟩
    obtain rfl := Except.ok.inj h
    exact ⟨hname, rest, harg, hmode⟩
  · rintro ⟨hname, rest, harg, hmode⟩
    exact ⟨spec.name, rest, ⟨hname, harg⟩, spec.mode, hmode, rfl⟩

/-! ### What an error is about -/

theorem orBadSpec_eq_error {α : Type} {arg msg : String} {o : Option α} {e : SpecError}
    (h : orBadSpec arg msg o = .error e) : e = .badSpec arg msg := by
  rcases o with _ | a
  · exact (Except.error.inj h).symm
  · cases h

theorem parseMode_eq_error {arg rest : String} {e : SpecError}
    (h : parseMode order arg rest = .error e) : ∃ msg, e = .badSpec arg msg := by
  rw [parseMode] at h
  split at h
  · rcases Except.bind_eq_error.mp h with h | ⟨⟨N, L⟩, -, h⟩
    · exact ⟨_, orBadSpec_eq_error h⟩
    · rcases Except.bind_eq_error.mp h with h | ⟨native, -, h⟩
      · rw [parseNative] at h
        split at h
        · cases h
        · rcases hvlan : parseVlan N with _ | v
          · rw [hvlan] at h
            exact ⟨_, (Except.error.inj h).symm⟩
          · rw [hvlan] at h
            cases h
      · rcases Except.bind_eq_error.mp h with h | ⟨allowed, -, h⟩
        · rw [parseAllowed] at h
          split at h
          · cases h
          · obtain ⟨s, -, h⟩ := Except.exists_of_mapM_eq_error h
            exact ⟨_, orBadSpec_eq_error h⟩
        · obtain ⟨e', -, rfl⟩ := Except.mapError_eq_error.mp h
          exact ⟨_, rfl⟩
  · rcases Except.bind_eq_error.mp h with h | ⟨v, -, h⟩
    · exact ⟨_, orBadSpec_eq_error h⟩
    · obtain ⟨e', -, rfl⟩ := Except.mapError_eq_error.mp h
      exact ⟨_, rfl⟩

/-- **An argument that is rejected is named in the error.** -/
theorem parseSpec_eq_error {arg : String} {e : SpecError} (h : parseSpec order arg = .error e) :
    ∃ msg, e = .badSpec arg msg := by
  rcases Except.bind_eq_error.mp h with h | ⟨⟨name, rest⟩, -, h⟩
  · exact ⟨_, orBadSpec_eq_error h⟩
  · rcases Except.bind_eq_error.mp h with h | ⟨mode, -, h⟩
    · exact parseMode_eq_error h
    · cases h

/-! ### Writing an argument -/

/-- A VLAN in decimal. -/
def renderVlan (v : Vlan) : String := v.toNat.repr

/-- The native field of a trunk. -/
def renderNative : Option Vlan → String
  | none => "-"
  | some v => renderVlan v

/-- A mode as it is written on the command line. -/
def PortConfigMode.render : PortConfigMode → String
  | .access vlan => renderVlan vlan
  | .trunk native allowed =>
    "trunk:" ++ renderNative native ++ ":" ++ ",".intercalate (allowed.map renderVlan)

/-- A port as it is written on the command line. -/
def PortConfig.render (port : PortConfig) : String := port.name ++ ":" ++ port.mode.render

theorem num_renderVlan (v : Vlan) : Num (renderVlan v) v := by
  rw [Num, renderVlan, Nat.toList_repr]
  exact Text.numeral_toDigits v.toNat

theorem nativeText_render (native : Option Vlan) : NativeText (renderNative native) native := by
  rcases native with _ | v
  · exact Or.inl ⟨rfl, rfl⟩
  · exact Or.inr ⟨v, num_renderVlan v, rfl⟩

theorem allowedText_render (allowed : List Vlan) :
    AllowedText (",".intercalate (allowed.map renderVlan)) allowed := by
  rcases allowed with _ | ⟨v, allowed⟩
  · exact Or.inl ⟨rfl, rfl⟩
  · have hnums : List.Forall₂ Num ((v :: allowed).map renderVlan) (v :: allowed) :=
      List.forall₂_map_left_iff.mpr (List.forall₂_same.mpr fun w _ => num_renderVlan w)
    exact Or.inr ⟨_, List.cons_ne_nil _ _, rfl, hnums⟩

/-- **A mode is read back from what it is written as**, and then built. -/
theorem parseMode_render (arg : String) (m : PortConfigMode) :
    parseMode order arg m.render = (m.build order).mapError fun e => .badSpec arg e.message := by
  rcases m with v | ⟨native, allowed⟩
  · have htrunk : stripPrefix (renderVlan v) "trunk:" = none := by
      refine Option.eq_none_iff_forall_ne_some.mpr fun rest h => ?_
      exact (num_renderVlan v).ne_trunk (stripPrefix_eq_some.mp h)
    have hvlan : parseVlan (renderVlan v) = some v := parseVlan_eq_some.mpr (num_renderVlan v)
    simp only [PortConfigMode.render, parseMode, htrunk, hvlan, orBadSpec, Except.ok_bind,
      PortConfigMode.build]
    rcases PortMode.mkAccess v <;> rfl
  · have htrunk : stripPrefix (PortConfigMode.trunk native allowed).render "trunk:" =
        some (renderNative native ++ ":" ++ ",".intercalate (allowed.map renderVlan)) := by
      refine stripPrefix_eq_some.mpr ?_
      simp only [PortConfigMode.render, String.append_assoc]
    have hcut := splitOnce_colon.mpr
      ⟨(nativeText_render native).notMem_colon,
        (rfl : _ = renderNative native ++ ":" ++ ",".intercalate (allowed.map renderVlan))⟩
    have hnative : parseNative arg (renderNative native) = .ok native :=
      parseNative_eq_ok.mpr (nativeText_render native)
    have hallowed : parseAllowed arg (",".intercalate (allowed.map renderVlan)) = .ok allowed :=
      parseAllowed_eq_ok.mpr (allowedText_render allowed)
    simp only [parseMode, htrunk, hcut, hnative, hallowed, orBadSpec, Except.ok_bind,
      PortConfigMode.build]

/-- **A port is read back from what it is written as**, if its name holds no colon. -/
theorem parseSpec_render {port : PortConfig} (hname : ':' ∉ port.name.toList) {spec : Spec} :
    parseSpec order port.render = .ok spec ↔ port.mode.Valid ∧ spec = port.spec := by
  have hmode : ∀ mode, parseMode order port.render port.mode.render = .ok mode ↔
      port.mode.Valid ∧ mode = port.mode.mode := fun mode => by
    rw [parseMode_render, Except.mapError_eq_ok, PortConfigMode.build_eq_ok]
  rw [parseSpec_eq_ok]
  constructor
  · rintro ⟨hspec, rest, hrest, hok⟩
    -- the first colon is the one after the name
    have hcut := (splitOnce_colon.mpr ⟨hspec, hrest⟩).symm.trans
      (splitOnce_colon.mpr ⟨hname, rfl⟩)
    obtain ⟨hsame, rfl⟩ := Prod.mk.inj (Option.some.inj hcut)
    obtain ⟨hvalid, hbuilt⟩ := (hmode spec.mode).mp hok
    refine ⟨hvalid, ?_⟩
    rw [PortConfig.spec, ← hsame, ← hbuilt]
  · rintro ⟨hvalid, rfl⟩
    exact ⟨hname, port.mode.render, rfl, (hmode _).mpr ⟨hvalid, rfl⟩⟩

/-- **The parser accepts exactly its grammar.** An argument is accepted as a name and a
mode exactly if it is the name, which holds no colon, a colon, and a text of the mode:
a number for an access port, and for a trunk a native field and an allowed field, every
number in range and not both fields without one. In particular a name without a colon
and a mode that can be built are read back from any way of writing them down, the
allowed VLANs in any order and with repetitions. -/
theorem parseSpec_iff_grammar (order : Finset.Enumeration Vlan) :
    (∀ arg name mode, parseSpec order arg = .ok ⟨name, mode⟩ ↔
      ':' ∉ name.toList ∧ ∃ rest, arg = name ++ ":" ++ rest ∧ ModeText rest mode) ∧
    ∀ name mode, ':' ∉ name.toList → mode.Built → ∀ m : PortConfigMode, m.mode = mode →
      parseSpec order (PortConfig.render ⟨name, m⟩) = .ok ⟨name, mode⟩ := by
  refine ⟨fun arg name mode => ?_, ?_⟩
  · rw [parseSpec_eq_ok]
    simp only [parseMode_eq_ok]
  · rintro name mode hname hbuilt m rfl
    exact (parseSpec_render hname).mpr ⟨PortConfigMode.valid_of_built hbuilt, rfl⟩

example : parseSpec .sorted "tap0:trunk:-:10,,20" =
    .error (.badSpec "tap0:trunk:-:10,,20" "bad VLAN id in allowed list") := by decide

end VlanSwitch
