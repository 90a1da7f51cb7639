import VlanSwitch.Network.Wiring

/-!
# VLANs across a network

One switch keeps its VLANs apart; a network of them does if both ends of every cable are
given one mode (`VlanSwitch.Network.Plan`). The argument follows what is in flight: bytes
that are no probe and head for a cabled port are a frame that some host sent in, written
for the VLAN it entered the network in, by a port of the mode that will read it
(`VlanSwitch.Network.Passing`). A switch that takes them reads the same VLAN
(`VlanSwitch.Network.Passing.resolves`), whatever has been done to the switches since
they were sent, so that what it sends on is passing again, or is handed to a host on a
port that carries the VLAN.
-/

namespace VlanSwitch

open Switch

namespace Network

variable {ν : Type} {w : Wiring ν}

/-- **A plan of the cabled ports**: one mode for both ends of a cable. -/
structure Plan (w : Wiring ν) where
  mode : Socket ν → PortMode
  agrees : ∀ a b, w.mate a = some b → mode a = mode b

/-- What is done to a switch keeps to the plan: modes are valid, and on a cabled port they
are those of the plan. Frames come in as bytes only. -/
def Act.Planned (plan : Plan w) : Act ν → Prop
  | .manage n (.addPort port mode) =>
    mode.Built ∧ ((w.mate (n, port)).isSome → mode = plan.mode (n, port))
  | .manage _ (.forward ..) => False
  | _ => True

variable [DecidableEq ν]

/-- A host sent in a frame, it was in flight, and the first switch took it in a VLAN. -/
def Entered (w : Wiring ν) (ids : ν → UInt64) (acts : List (Act ν)) (vlan : Vlan)
    (frame : EthernetFrame) : Prop :=
  ∃ pre post socket bytes now, acts = pre ++ .arrive socket bytes now :: post ∧
    w.mate socket = none ∧ .inject socket bytes ∈ pre ∧
    (socket, bytes) ∈ ((networkMachine w).run (fresh ids) pre).flight ∧
    EthernetFrame.parse bytes = .ok frame ∧
    (((networkMachine w).run (fresh ids) pre).nodes socket.1).Resolves socket.2 frame vlan

/-- Bytes are passing a cable: they were written, for the VLAN a host's frame entered in, by
a port of the mode of the cable. -/
structure Passing (plan : Plan w) (ids : ν → UInt64) (acts : List (Act ν)) (socket : Socket ν)
    (bytes : List UInt8) (vlan : Vlan) (frame₀ frame : EthernetFrame) : Prop where
  cabled : (w.mate socket).isSome
  entered : Entered w ids acts vlan frame₀
  content : SameContent frame frame₀
  lt : vlan < 4096
  carries : (plan.mode socket).carries vlan
  encodable : (egressFrame (plan.mode socket) vlan frame).Encodable
  written : bytes = (egressFrame (plan.mode socket) vlan frame).wireBytes

/-- What may be in flight: what a host sent in, probes, and what is passing. -/
def Allowed (plan : Plan w) (ids : ν → UInt64) (acts : List (Act ν)) (socket : Socket ν)
    (bytes : List UInt8) : Prop :=
  (w.mate socket = none ∧ .inject socket bytes ∈ acts) ∨
    (∃ frame, EthernetFrame.parse bytes = .ok frame ∧ LoopGuard.isAnyProbe frame) ∨
    ∃ vlan frame₀ frame, Passing plan ids acts socket bytes vlan frame₀ frame

/-- What holds of the switches: built modes only, those of the plan on cabled ports. -/
structure Standing (plan : Plan w) (s : Network ν) : Prop where
  built : ∀ n, BuiltReachable (s.nodes n)
  planned : ∀ n p entry, (s.nodes n).ports.lookup p = some entry → (w.mate (n, p)).isSome →
    entry.mode = plan.mode (n, p)

/-! ### The switches keep to the plan -/

omit [DecidableEq ν] in
theorem standing_fresh (plan : Plan w) (ids : ν → UInt64) : Standing plan (fresh ids) where
  built n := ⟨ids n, [], fun op hop => absurd hop List.not_mem_nil, rfl⟩
  planned n p entry hentry := by
    have hnone : (Switch.withProbeId (ids n)).ports.lookup p = none := by
      simp [Switch.withProbeId]
    exact absurd (hnone.symm.trans hentry) (by simp)

theorem Standing.next {plan : Plan w} {s : Network ν} (h : Standing plan s) {act : Act ν}
    (hact : act.Planned plan) : Standing plan ((networkMachine w).next s act) := by
  refine ⟨fun n => ?_, fun n p entry hentry hcabled => ?_⟩
  · rcases nodes_next s act n with hsame | ⟨op, rfl, hop⟩ | ⟨port, bytes, now, frame, -, -, -, hf⟩ |
      ⟨probeId, -, hnew⟩
    · exact hsame ▸ h.built n
    · have hbuilt : op.Built := by
        rcases op with ⟨q, mode⟩ | _ | _ | _ | _ | _
        · exact hact.1
        all_goals trivial
      exact hop ▸ (h.built n).next hbuilt
    · have hbuilt : (Op.forward port frame now).Built := trivial
      exact hf ▸ (h.built n).next hbuilt
    · exact hnew ▸ ⟨probeId, [], fun op hop => absurd hop List.not_mem_nil, rfl⟩
  · -- a registered port was registered before in its mode, or has just been given it
    have hcome : ∀ op, (machine.next (s.nodes n) op).ports.lookup p = some entry →
        op ≠ .addPort p entry.mode → entry.mode = plan.mode (n, p) := by
      intro op hlookup hne
      rcases lookup_ports_next hlookup with ⟨entry', hentry', hmode⟩ | heq
      · exact hmode.symm.trans (h.planned n p entry' hentry' hcabled)
      · exact absurd heq hne
    rcases nodes_next s act n with hsame | ⟨op, rfl, hop⟩ | ⟨port, bytes, now, frame, -, -, -, hf⟩ |
      ⟨probeId, -, hnew⟩
    · exact h.planned n p entry (hsame ▸ hentry) hcabled
    · by_cases hadd : op = .addPort p entry.mode
      · obtain rfl := hadd
        exact hact.2 hcabled
      · exact hcome op (hop ▸ hentry) hadd
    · rw [hf] at hentry
      exact hcome (.forward port frame now) hentry (by simp)
    · rw [hnew] at hentry
      exact (standing_fresh plan fun _ => probeId).planned n p entry hentry hcabled

/-- **The switches keep to the plan all along a run.** -/
theorem standing_run (plan : Plan w) (ids : ν → UInt64) {acts : List (Act ν)}
    (hacts : ∀ act ∈ acts, act.Planned plan) :
    Standing plan ((networkMachine w).run (fresh ids) acts) :=
  (networkMachine w).run_invariant (fun _ _ hact hs => hs.next hact) hacts
    (standing_fresh plan ids)

/-! ### What is in flight -/

variable {plan : Plan w} {ids : ν → UInt64} {acts : List (Act ν)} {socket : Socket ν}
  {bytes : List UInt8}

theorem Entered.mono {vlan : Vlan} {frame : EthernetFrame} (h : Entered w ids acts vlan frame)
    (act : Act ν) : Entered w ids (acts ++ [act]) vlan frame := by
  obtain ⟨pre, post, src, bytes, now, rfl, h⟩ := h
  exact ⟨pre, post ++ [act], src, bytes, now, by simp, h⟩

theorem Allowed.mono (h : Allowed plan ids acts socket bytes) (act : Act ν) :
    Allowed plan ids (acts ++ [act]) socket bytes := by
  rcases h with ⟨hnone, hmem⟩ | hprobe | ⟨vlan, frame₀, frame, hpassing⟩
  · exact Or.inl ⟨hnone, List.mem_append_left _ hmem⟩
  · exact Or.inr (Or.inl hprobe)
  · exact Or.inr (Or.inr ⟨vlan, frame₀, frame,
      { hpassing with entered := hpassing.entered.mono act }⟩)

/-- **What passes a cable is read as what it was written for**: a switch that takes it in
any VLAN takes it in that one. -/
theorem Passing.resolves {vlan : Vlan} {frame₀ frame : EthernetFrame}
    (h : Passing plan ids acts socket bytes vlan frame₀ frame) {s : Network ν}
    (hs : Standing plan s) {read : EthernetFrame} (hread : EthernetFrame.parse bytes = .ok read)
    {vlan' : Vlan} (hr : (s.nodes socket.1).Resolves socket.2 read vlan') :
    vlan' = vlan ∧ SameContent read frame₀ := by
  rw [h.written, EthernetFrame.parse_wireBytes h.encodable] at hread
  obtain rfl := Except.ok.inj hread
  refine ⟨?_, (sameContent_egressFrame (plan.mode socket) vlan frame).trans h.content⟩
  obtain ⟨entry, hentry, -, -⟩ := hr.exists_entry
  have hmode : entry.mode = plan.mode socket := hs.planned _ _ entry hentry h.cabled
  have hcarries : entry.mode.carries vlan := by
    rw [hmode]
    exact h.carries
  have hin := ingressVlan_egressFrame hentry h.lt hcarries frame
  rw [hmode] at hin
  exact Except.ok.inj (hr.2.2.symm.trans hin)

/-- **And it is taken**, if the port is up and it is no probe. -/
theorem Passing.resolves_of_up {vlan : Vlan} {frame₀ frame : EthernetFrame}
    (h : Passing plan ids acts socket bytes vlan frame₀ frame) {s : Network ν}
    (hs : Standing plan s) (hup : (s.nodes socket.1).Up socket.2) {read : EthernetFrame}
    (hread : EthernetFrame.parse bytes = .ok read) (hprobe : ¬LoopGuard.isAnyProbe read) :
    (s.nodes socket.1).Resolves socket.2 read vlan := by
  rw [h.written, EthernetFrame.parse_wireBytes h.encodable] at hread
  obtain rfl := Except.ok.inj hread
  obtain ⟨entry, hentry, hblocked⟩ := hup
  have hmode : entry.mode = plan.mode socket := hs.planned _ _ entry hentry h.cabled
  have hcarries : entry.mode.carries vlan := by
    rw [hmode]
    exact h.carries
  have hin := ingressVlan_egressFrame hentry h.lt hcarries frame
  rw [hmode] at hin
  refine ⟨hprobe, ?_, hin⟩
  rw [isBlocked, hentry]
  exact hblocked

/-- **Where what a switch sends out entered the network**: bytes it took that it sends
something out for are a frame of the VLAN and the content of one a host sent in. -/
theorem entered_of_takes {s : Network ν} (hs : Standing plan s)
    (hrun : s = (networkMachine w).run (fresh ids) acts)
    (hallowed : Allowed plan ids acts socket bytes) (hflight : (socket, bytes) ∈ s.flight)
    (now : Instant) {frame : EthernetFrame} (hparse : EthernetFrame.parse bytes = .ok frame)
    {vlan : Vlan}
    (hr : (s.nodes socket.1).Resolves socket.2 frame vlan) :
    ∃ frame₀, Entered w ids (acts ++ [.arrive socket bytes now]) vlan frame₀ ∧
      SameContent frame frame₀ := by
  rcases hallowed with ⟨hnone, hmem⟩ | ⟨probe, hprobe, hany⟩ | ⟨vlan', frame₀, frame', hpassing⟩
  · -- this is where it enters
    exact ⟨frame, ⟨acts, [], socket, bytes, now, rfl, hnone, hmem, hrun ▸ hflight, hparse,
      hrun ▸ hr⟩, rfl, rfl, rfl, rfl⟩
  · obtain rfl := Except.ok.inj (hprobe.symm.trans hparse)
    exact absurd hany hr.1
  · obtain ⟨rfl, hcontent⟩ := hpassing.resolves hs hparse hr
    exact ⟨frame₀, hpassing.entered.mono _, hcontent⟩

/-- A probe reads as a probe. -/
theorem exists_isAnyProbe (s : Switch) :
    ∃ frame, EthernetFrame.parse s.buildLoopProbe = .ok frame ∧ LoopGuard.isAnyProbe frame := by
  have hread := LoopGuard.parse_returned s.probeId none []
  have hown : LoopGuard.isOwnProbe (LoopGuard.returnedFrame s.probeId none []) s.probeId :=
    LoopGuard.isOwnProbe_returnedFrame.mpr rfl
  refine ⟨_, ?_, hown.isAnyProbe⟩
  rw [← hread, LoopGuard.returned, EthernetFrame.insertTag, EthernetFrame.tagBytes,
    List.nil_append, List.take_append_drop, List.append_nil]
  rfl

/-- **Nothing else is ever in flight.** -/
theorem allowed_of_mem_flight (hacts : ∀ act ∈ acts, act.Planned plan)
    (h : (socket, bytes) ∈ ((networkMachine w).run (fresh ids) acts).flight) :
    Allowed plan ids acts socket bytes := by
  induction acts using List.reverseRecOn generalizing socket bytes with
  | nil => exact absurd h (Multiset.notMem_zero _)
  | append_singleton acts act ih =>
    rw [List.forall_mem_append] at hacts
    have hs := standing_run plan ids hacts.1
    rw [Machine.run_concat] at h
    rcases mem_flight_next h with hold | ⟨rfl, hmate⟩ |
      ⟨src, bytes', now, d, rfl, hflight, hd, hmate, rfl⟩ | ⟨n, ports, port, rfl, -, hmate, rfl⟩
    · exact (ih hacts.1 hold).mono act
    · exact Or.inl ⟨hmate, by simp⟩
    · -- sent on, by a port of the mode of the cable
      obtain ⟨frame, ds, hparse, hds, hmem⟩ := mem_takes hd
      obtain ⟨vlan, hr, -⟩ := exists_resolves_of_mem hds hmem
      obtain ⟨frame₀, hentered, hcontent⟩ :=
        entered_of_takes hs rfl (ih hacts.1 hflight) hflight now hparse hr
      obtain ⟨entry, hentry, hcarries, henc, hbytes⟩ :=
        (hs.built src.1).exists_of_mem hr hds hmem
      have hmode : entry.mode = plan.mode socket :=
        (hs.planned _ _ entry hentry (by rw [hmate]; rfl)).trans (plan.agrees _ _ hmate)
      rw [hmode] at hcarries henc hbytes
      exact Or.inr (Or.inr ⟨vlan, frame₀, frame, ⟨by rw [w.symm _ _ hmate]; rfl, hentered,
        hcontent, ((hs.built src.1).isAssignable hr).lt, hcarries, henc, hbytes⟩⟩)
    · exact Or.inr (Or.inl (exists_isAnyProbe _))

end Network

/-- **VLANs are kept apart across a network.** Let switches be wired in any way, with one
mode at both ends of every cable, and let anything happen in any order: frames sent in by
hosts, taken by the switches and lost, probes, ports added, removed, blocked and unblocked
within the plan, tables aged, configurations loaded again. What a switch hands to a host
for a frame it took is a frame that some host sent in, with the addresses, EtherType and
payload it had; the port carries the VLAN in which the first switch took that frame, and
writes it as it promises for that VLAN; an access port is one of that VLAN. This is about
what `forward` delivers: the probes that a switch sends out of its own accord reach hosts,
too, and are events of another kind (`VlanSwitch.Network.Event.probed`). -/
theorem network_isolation {ν : Type} [DecidableEq ν] {w : Wiring ν} {plan : Network.Plan w}
    {ids : ν → UInt64} {acts : List (Network.Act ν)} (hacts : ∀ act ∈ acts, act.Planned plan)
    {act : Network.Act ν} {socket : Socket ν} {bytes : List UInt8}
    (h : .handed socket bytes ∈ (Network.networkMachine w).out
      ((Network.networkMachine w).run (Network.fresh ids) acts) act) :
    ∃ vlan frame₀ frame mode, Network.Entered w ids (acts ++ [act]) vlan frame₀ ∧
      (((Network.networkMachine w).run (Network.fresh ids) acts).nodes socket.1).portMode socket.2 =
        some mode ∧ mode.carries vlan ∧
      EthernetFrame.parse bytes = .ok frame ∧ SameContent frame frame₀ ∧
      (frame.tag = none ∧ mode.untags vlan ∨
        ∃ tag, frame.tag = some tag ∧ ¬mode.untags vlan ∧ tag.vid = vlan) ∧
      ∀ v, mode = .access v → v = vlan := by
  have hs := Network.standing_run plan ids hacts
  obtain ⟨port, bytes', now, d, rfl, hflight, hd, -, hport, rfl⟩ := Network.mem_out h
  obtain ⟨frame, ds, hparse, hds, hmem⟩ := Network.mem_takes hd
  obtain ⟨vlan, hr, -⟩ := exists_resolves_of_mem hds hmem
  have hallowed : Network.Allowed plan ids acts (socket.1, port) bytes' :=
    Network.allowed_of_mem_flight hacts hflight
  obtain ⟨frame₀, hentered, hcontent⟩ :=
    Network.entered_of_takes hs rfl hallowed hflight now hparse hr
  obtain ⟨entry, hentry, hcarries, henc, hbytes⟩ := (hs.built socket.1).exists_of_mem hr hds hmem
  have hlt : vlan < 4096 := ((hs.built socket.1).isAssignable hr).lt
  refine ⟨vlan, frame₀, (egressFrame entry.mode vlan frame).masked, entry.mode, hentered, ?_,
    hcarries, ?_, (sameContent_egressFrame entry.mode vlan frame).trans hcontent, ?_, ?_⟩
  · rw [portMode, hport, hentry]
    rfl
  · rw [hbytes]
    exact EthernetFrame.parse_wireBytes henc
  · rcases tag_egressFrame entry.mode hlt frame with h | ⟨tag, htag, huntags, hvid, -⟩
    · exact Or.inl h
    · exact Or.inr ⟨tag, htag, huntags, hvid⟩
  · intro v hv
    rw [hv] at hcarries
    exact hcarries

/-- A frame that goes from an access port over a trunk to an access port of the next switch
entered the network in VLAN 10. -/
theorem network_isolation_pair :
    ∃ vlan frame₀, Network.Entered Wiring.pair (fun n => if n then 8 else 7)
      (Network.pairSetUp ++ [.inject (false, ⟨1⟩) (hostFrame 1 9).wireBytes,
        .arrive (false, ⟨1⟩) (hostFrame 1 9).wireBytes 0] ++
        [.arrive (true, ⟨5⟩) ({ hostFrame 1 9 with tag := some ⟨0, false, 10⟩ } :
          EthernetFrame).wireBytes 0]) vlan frame₀ ∧ vlan = 10 := by
  have htrunk : (PortMode.trunk none {10, 20}).Built := Or.inr ⟨.sorted, none, [10, 20], by decide⟩
  have haccess : (PortMode.access 10).Built := Or.inl ⟨10, rfl⟩
  have hacts : ∀ act ∈ Network.pairSetUp ++ [.inject (false, ⟨1⟩) (hostFrame 1 9).wireBytes,
      .arrive (false, ⟨1⟩) (hostFrame 1 9).wireBytes 0],
      act.Planned (w := Wiring.pair) ⟨fun _ => .trunk none {10, 20}, fun _ _ _ => rfl⟩ := by
    simp only [Network.pairSetUp, List.cons_append, List.nil_append, List.forall_mem_cons]
    exact ⟨⟨haccess, fun h => absurd h (by decide)⟩, ⟨htrunk, fun _ => rfl⟩,
      ⟨htrunk, fun _ => rfl⟩, ⟨haccess, fun h => absurd h (by decide)⟩, trivial, trivial,
      fun _ h => absurd h List.not_mem_nil⟩
  have hout : Network.Event.handed (true, ⟨6⟩) (hostFrame 1 9).wireBytes ∈
      (Network.networkMachine Wiring.pair).out ((Network.networkMachine Wiring.pair).run
        (Network.fresh fun n => if n then 8 else 7) (Network.pairSetUp ++
          [.inject (false, ⟨1⟩) (hostFrame 1 9).wireBytes,
            .arrive (false, ⟨1⟩) (hostFrame 1 9).wireBytes 0]))
        (.arrive (true, ⟨5⟩) ({ hostFrame 1 9 with tag := some ⟨0, false, 10⟩ } :
          EthernetFrame).wireBytes 0) := by decide
  obtain ⟨vlan, frame₀, frame, mode, hentered, hmode, -, -, -, -, haccess⟩ :=
    network_isolation hacts hout
  have hmode' : some (PortMode.access 10) = some mode := Eq.trans (by decide) hmode
  exact ⟨vlan, frame₀, hentered, (haccess 10 (Option.some.inj hmode').symm).symm⟩

end VlanSwitch
