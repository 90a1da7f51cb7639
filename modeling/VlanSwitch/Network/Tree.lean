import VlanSwitch.Network.Isolation

/-!
# A network without loops delivers once

Fix a host and, at every switch, the one port that leads to it, so that every cable leads
to the host from one of its ends only (`VlanSwitch.Wiring.Way`); in a tree of switches
every host has such a way. What is in flight is then *underway* to the host unless it
heads for a switch through the very port that leads there, since no switch sends a frame
back out of the port it came in on. A switch that takes a frame sends out at most one copy
that is underway, or hands one to the host, and only if the frame was underway itself
(`VlanSwitch.Network.countP_sent_le`). So a host is handed no frame more often than other
hosts sent it (`VlanSwitch.at_most_once`), whatever the tables hold, whatever is lost and
whatever is done to the switches. A broadcast is flooded, so while the switches serve its
VLAN nothing of it is missing either (`VlanSwitch.group_exactly_once`).
-/

namespace VlanSwitch

open Switch

/-- Being the same but for the tags goes both ways. -/
theorem SameContent.symm {f g : EthernetFrame} (h : SameContent f g) : SameContent g f :=
  ⟨h.dst.symm, h.src.symm, h.ethertype.symm, h.payload.symm⟩

instance (f g : EthernetFrame) : Decidable (SameContent f g) :=
  decidable_of_iff (f.dst = g.dst ∧ f.src = g.src ∧ f.ethertype = g.ethertype ∧
      f.payload = g.payload)
    ⟨fun h => ⟨h.1, h.2.1, h.2.2.1, h.2.2.2⟩, fun h => ⟨h.dst, h.src, h.ethertype, h.payload⟩⟩

/-- Bytes that read as a given frame, but for the tag. -/
def ofContent (frame₀ : EthernetFrame) (bytes : List UInt8) : Bool :=
  match EthernetFrame.parse bytes with
  | .ok frame => decide (SameContent frame frame₀)
  | .error _ => false

theorem ofContent_of_parse {frame₀ frame : EthernetFrame} {bytes : List UInt8}
    (h : EthernetFrame.parse bytes = .ok frame) :
    ofContent frame₀ bytes = true ↔ SameContent frame frame₀ := by
  rw [ofContent, h, decide_eq_true_iff]

theorem exists_of_ofContent {frame₀ : EthernetFrame} {bytes : List UInt8}
    (h : ofContent frame₀ bytes = true) :
    ∃ frame, EthernetFrame.parse bytes = .ok frame ∧ SameContent frame frame₀ := by
  rcases hparse : EthernetFrame.parse bytes with e | frame
  · simp [ofContent, hparse] at h
  · exact ⟨frame, rfl, (ofContent_of_parse hparse).mp h⟩

namespace Switch

/-- **No frame leaves through the port it came in on.** -/
theorem port_ne_of_mem {s : Switch} {ingress : PortId} {frame : EthernetFrame} {now : Instant}
    {ds : List Delivery} (hds : (s.forward ingress frame now).1 = .ok ds) {d : Delivery}
    (hd : d ∈ ds) : d.port ≠ ingress := by
  obtain ⟨vlan, -, rfl⟩ := exists_resolves_of_mem hds hd
  have hport := (mem_deliveries.mp hd).1
  have hflood : ∀ t : Switch, d.port ∈ t.floodTargets vlan ingress → d.port ≠ ingress :=
    fun t h => (mem_floodTargets.mp h).2
  rw [egressPorts] at hport
  split at hport
  · exact hflood _ hport
  · split at hport
    · next egress _ =>
      split at hport
      · cases hport
      · next hne =>
        rw [List.mem_singleton.mp hport]
        exact hne
    · exact hflood _ hport

end Switch

/-- **The way to a host**: at every switch the port that leads there, such that every cable
leads there from exactly one of its ends. There is one if the network is connected and
without loops; every switch has to have a way, so a network without loops that falls into
parts is not meant. -/
structure Wiring.Way {ν : Type} (w : Wiring ν) (host : Socket ν) where
  port : ν → PortId
  at_host : port host.1 = host.2
  host_free : w.mate host = none
  cabled : ∀ n, n ≠ host.1 → (w.mate (n, port n)).isSome
  one_way : ∀ a b, w.mate a = some b → (a.2 = port a.1 ↔ b.2 ≠ port b.1)

namespace Network

variable {ν : Type} [DecidableEq ν] {w : Wiring ν} {host : Socket ν}

/-- In flight and underway to the host. -/
def underway (way : w.Way host) (frame₀ : EthernetFrame) (item : Socket ν × List UInt8) : Bool :=
  decide (item.1.2 ≠ way.port item.1.1) && ofContent frame₀ item.2

/-- A frame is handed to the host. -/
def handedTo (host : Socket ν) (frame₀ : EthernetFrame) : Event ν → Bool
  | .handed socket bytes => decide (socket = host) && ofContent frame₀ bytes
  | .probed .. => false

/-- Another host sends the frame in. -/
def sentIn (w : Wiring ν) (host : Socket ν) (frame₀ : EthernetFrame) : Act ν → Bool
  | .inject socket bytes =>
    decide (w.mate socket = none) && decide (socket ≠ host) && ofContent frame₀ bytes
  | _ => false

/-- How much is underway. -/
def load (way : w.Way host) (frame₀ : EthernetFrame) (s : Network ν) : ℕ :=
  s.flight.countP fun item => underway way frame₀ item = true

variable (way : w.Way host) (frame₀ : EthernetFrame)

/-! ### What a switch sends out -/

variable {way}

omit [DecidableEq ν] in
/-- A port without a cable leads to the host if the host is there. -/
theorem eq_host_iff {n : ν} {p : PortId} (hmate : w.mate (n, p) = none) :
    (n, p) = host ↔ p = way.port n := by
  constructor
  · rintro rfl
    exact way.at_host.symm
  · rintro rfl
    by_cases hn : n = host.1
    · obtain rfl := hn
      rw [way.at_host]
    · have hcabled := way.cabled n hn
      rw [hmate] at hcabled
      cases hcabled

variable {frame₀}

/-- **Where a copy of a frame goes**: it is handed to the host or underway, exactly if it
left through the port that leads there. -/
theorem countP_sent (way : w.Way host) (frame₀ : EthernetFrame) (n : ν) (ds : List Delivery) :
    (ds.filterMap (leaving w .handed n)).countP (handedTo host frame₀) +
        (ds.filterMap (outgoing w n)).countP (underway way frame₀) =
      ds.countP fun d => decide (d.port = way.port n) && ofContent frame₀ d.bytes := by
  induction ds with
  | nil => rfl
  | cons d ds ih =>
    rw [List.countP_cons, ← ih]
    rcases hmate : w.mate (n, d.port) with _ | b
    · have hleaving : leaving w .handed n d = some (.handed (n, d.port) d.bytes) := if_pos hmate
      have houtgoing : outgoing w n d = none := by rw [outgoing, hmate, Option.map_none]
      have hiff : handedTo host frame₀ (.handed (n, d.port) d.bytes) =
          (decide (d.port = way.port n) && ofContent frame₀ d.bytes) := by
        rw [handedTo, decide_eq_decide.mpr (eq_host_iff hmate)]
      rw [List.filterMap_cons_some hleaving, List.filterMap_cons_none houtgoing,
        List.countP_cons, hiff]
      omega
    · have hleaving : leaving w .handed n d = none := if_neg (by rw [hmate]; simp)
      have houtgoing : outgoing w n d = some (b, d.bytes) := by
        rw [outgoing, hmate, Option.map_some]
      have hiff : underway way frame₀ (b, d.bytes) =
          (decide (d.port = way.port n) && ofContent frame₀ d.bytes) := by
        have hway : b.2 ≠ way.port b.1 ↔ d.port = way.port n := (way.one_way _ _ hmate).symm
        rw [underway, decide_eq_decide.mpr hway]
      rw [List.filterMap_cons_none hleaving, List.filterMap_cons_some houtgoing,
        List.countP_cons, hiff]
      omega

/-- Copies that leave through one port and are of one content are one at most. -/
theorem countP_port_le {ds : List Delivery} (hnodup : (ds.map Delivery.port).Nodup) (p : PortId) :
    (ds.countP fun d => decide (d.port = p) && ofContent frame₀ d.bytes) ≤ 1 := by
  have hle : (ds.countP fun d => decide (d.port = p) && ofContent frame₀ d.bytes) ≤
      (ds.map Delivery.port).count p := by
    rw [List.count, List.countP_map]
    refine List.countP_mono_left fun d _ hd => ?_
    have hport := (Bool.and_eq_true_iff.mp hd).1
    simpa using hport
  exact hle.trans (List.nodup_iff_count_le_one.mp hnodup p)

/-- What is sent on for a frame has its content. -/
theorem ofContent_of_mem {s : Switch} {ingress : PortId} {frame : EthernetFrame} {now : Instant}
    {ds : List Delivery} (hds : (s.forward ingress frame now).1 = .ok ds) {d : Delivery}
    (hd : d ∈ ds) : ofContent frame₀ d.bytes = true ↔ SameContent frame frame₀ := by
  obtain ⟨vlan, -, rfl⟩ := exists_resolves_of_mem hds hd
  obtain ⟨entry, -, -, henc, hbytes⟩ := encodeForEgress_eq_some.mp (mem_deliveries.mp hd).2
  have hparse : EthernetFrame.parse d.bytes = .ok (egressFrame entry.mode vlan frame).masked := by
    rw [hbytes]
    exact EthernetFrame.parse_wireBytes henc
  have hsame := sameContent_egressFrame entry.mode vlan frame
  rw [ofContent_of_parse hparse]
  exact ⟨fun h => hsame.symm.trans h, fun h => hsame.trans h⟩

omit [DecidableEq ν] in
/-- **A switch passes on no more than it took**: a copy that is underway, or handed to the
host, for a frame that was underway. -/
theorem countP_sent_le (way : w.Way host) (frame₀ : EthernetFrame) (s : Switch)
    (socket : Socket ν) (bytes : List UInt8) (now : Instant) :
    ((takes s socket.2 bytes now).1.countP fun d =>
        decide (d.port = way.port socket.1) && ofContent frame₀ d.bytes) ≤
      if underway way frame₀ (socket, bytes) then 1 else 0 := by
  rcases Nat.eq_zero_or_pos ((takes s socket.2 bytes now).1.countP fun d =>
      decide (d.port = way.port socket.1) && ofContent frame₀ d.bytes) with hzero | hpos
  · rw [hzero]
    exact Nat.zero_le _
  · -- one copy at least, so the frame was of the content, and came in elsewhere
    obtain ⟨d, hd, hcond⟩ := List.countP_pos_iff.mp hpos
    obtain ⟨hport, hcontent⟩ := Bool.and_eq_true_iff.mp hcond
    obtain ⟨frame, ds, hparse, hds, hmem⟩ := mem_takes hd
    have htakes : (takes s socket.2 bytes now).1 = ds := by
      rw [takes_of_parse hparse, hds]
      rfl
    have hunder : underway way frame₀ (socket, bytes) = true := by
      refine Bool.and_eq_true_iff.mpr ⟨?_, ?_⟩
      · refine decide_eq_true ?_
        have hne := port_ne_of_mem hds hmem
        rw [of_decide_eq_true hport] at hne
        exact hne.symm
      · exact (ofContent_of_parse hparse).mpr ((ofContent_of_mem hds hmem).mp hcontent)
    rw [if_pos hunder, htakes]
    exact countP_port_le (nodup_port_of_forward hds) _

/-! ### What one act does to what is underway -/

/-- What a host sends in is underway, unless it is the host itself. -/
theorem load_inject (way : w.Way host) (frame₀ : EthernetFrame) (s : Network ν)
    (socket : Socket ν) (bytes : List UInt8) :
    load way frame₀ (inject w s socket bytes) =
      load way frame₀ s + if sentIn w host frame₀ (.inject socket bytes) then 1 else 0 := by
  rw [inject, sentIn]
  split
  · next hmate =>
    have hiff : underway way frame₀ (socket, bytes) =
        (decide (socket ≠ host) && ofContent frame₀ bytes) := by
      have hway : socket.2 ≠ way.port socket.1 ↔ socket ≠ host := (eq_host_iff hmate).not.symm
      rw [underway, decide_eq_decide.mpr hway]
    rw [load, Multiset.countP_cons, hiff, decide_eq_true hmate, Bool.true_and]
    rfl
  · next hmate =>
    rw [decide_eq_false hmate, Bool.false_and, Bool.false_and, if_neg Bool.false_ne_true,
      Nat.add_zero]

/-- What is taken is underway no more, and its copies are instead. -/
theorem load_arrive (way : w.Way host) (frame₀ : EthernetFrame) {s : Network ν} {socket : Socket ν}
    {bytes : List UInt8} (now : Instant) (h : (socket, bytes) ∈ s.flight) :
    (arrive w s socket bytes now).1.countP (handedTo host frame₀) +
          load way frame₀ (arrive w s socket bytes now).2 +
        (if underway way frame₀ (socket, bytes) then 1 else 0) =
      load way frame₀ s + ((takes (s.nodes socket.1) socket.2 bytes now).1.countP fun d =>
        decide (d.port = way.port socket.1) && ofContent frame₀ d.bytes) := by
  have hload : load way frame₀ s =
      (s.flight.erase (socket, bytes)).countP (fun item => underway way frame₀ item = true) +
        if underway way frame₀ (socket, bytes) then 1 else 0 := by
    rw [load, ← Multiset.countP_cons, Multiset.cons_erase h]
  have hnew : ∀ l : List (Socket ν × List UInt8),
      (l : Multiset _).countP (fun item => underway way frame₀ item = true) =
        l.countP (underway way frame₀) := fun l => by
    rw [Multiset.coe_countP]
    exact congrArg (l.countP ·) (funext fun item => Bool.decide_eq_true)
  rw [arrive_of_mem h, hload, ← countP_sent, load, Multiset.countP_add, hnew]
  dsimp only
  omega

omit [DecidableEq ν] in
/-- What a tick puts in flight is of no content but that of probes. -/
theorem isAnyProbe_of_probes {s : Switch} {n : ν} {ports : List PortId}
    {item : Socket ν × List UInt8} (h : item ∈ (probes s ports).filterMap (outgoing w n))
    (hcontent : ofContent frame₀ item.2 = true) : LoopGuard.isAnyProbe frame₀ := by
  obtain ⟨d, hd, -, hbytes⟩ := mem_outgoing.mp h
  obtain ⟨port, -, rfl⟩ := List.mem_map.mp hd
  obtain ⟨probe, hparse, hany⟩ := exists_isAnyProbe s
  obtain ⟨frame, hframe, hsame⟩ := exists_of_ofContent hcontent
  rw [hbytes] at hframe
  obtain rfl := Except.ok.inj (hparse.symm.trans hframe)
  exact hsame.isAnyProbe_iff.mp hany

/-- The probes of a tick are neither handed over nor underway. -/
theorem load_tick (way : w.Way host) (hprobe : ¬LoopGuard.isAnyProbe frame₀) (s : Network ν)
    (n : ν) (ports : List PortId) :
    ((networkMachine w).out s (.tick n ports)).countP (handedTo host frame₀) = 0 ∧
      load way frame₀ ((networkMachine w).next s (.tick n ports)) = load way frame₀ s := by
  constructor
  · refine List.countP_eq_zero.mpr fun event hevent => ?_
    obtain ⟨d, -, -, rfl⟩ := mem_leaving.mp hevent
    exact Bool.false_ne_true
  · change (s.flight + _).countP _ = _
    rw [Multiset.countP_add, load, Nat.add_eq_left]
    refine Multiset.countP_eq_zero.mpr fun item hitem hunder => hprobe ?_
    exact isAnyProbe_of_probes (Multiset.mem_coe.mp hitem) (Bool.and_eq_true_iff.mp hunder).2

/-- **One act hands over no more than was underway**, or has just been sent in. -/
theorem load_next_le (way : w.Way host) (hprobe : ¬LoopGuard.isAnyProbe frame₀) (s : Network ν)
    (act : Act ν) :
    ((networkMachine w).out s act).countP (handedTo host frame₀) +
        load way frame₀ ((networkMachine w).next s act) ≤
      load way frame₀ s + if sentIn w host frame₀ act then 1 else 0 := by
  cases act with
  | inject socket bytes =>
    have hinject := load_inject way frame₀ s socket bytes
    change 0 + load way frame₀ (inject w s socket bytes) ≤ _
    omega
  | arrive socket bytes now =>
    change (arrive w s socket bytes now).1.countP (handedTo host frame₀) +
      load way frame₀ (arrive w s socket bytes now).2 ≤ load way frame₀ s + 0
    by_cases hmem : (socket, bytes) ∈ s.flight
    · have harrive := load_arrive way frame₀ now hmem
      have hsent := countP_sent_le way frame₀ (s.nodes socket.1) socket bytes now
      omega
    · rw [arrive_of_notMem hmem]
      exact (Nat.zero_add _).le
  | lose socket bytes =>
    have hle : load way frame₀ ((networkMachine w).next s (.lose socket bytes)) ≤
        load way frame₀ s := Multiset.countP_le_of_le _ (Multiset.erase_le _ _)
    change 0 + _ ≤ load way frame₀ s + 0
    omega
  | tick n ports =>
    obtain ⟨hout, hload⟩ := load_tick way hprobe s n ports
    rw [hout, hload]
    exact (Nat.zero_add _).le.trans (Nat.le_add_right _ _)
  | manage n op => exact (Nat.zero_add _).le
  | renew n probeId => exact (Nat.zero_add _).le

end Network

/-- **No frame is delivered twice in a connected network without loops.** Let every switch
have one port that leads to a host, so that every cable leads there from one of its ends
only (`VlanSwitch.Wiring.Way`). In any run – frames sent in, taken and lost in any order,
probes, tables in any state, ports and modes changed, blocked and unblocked, configurations
loaded again – the host is handed a frame that is not a probe no more often than the other
hosts sent it in, even if the frames differ in their tags. -/
theorem at_most_once {ν : Type} [DecidableEq ν] {w : Wiring ν} {host : Socket ν}
    (way : w.Way host) {frame₀ : EthernetFrame} (hprobe : ¬LoopGuard.isAnyProbe frame₀)
    (ids : ν → UInt64) (acts : List (Network.Act ν)) :
    ((Network.networkMachine w).history (Network.fresh ids) acts).countP
        (Network.handedTo host frame₀) ≤
      acts.countP (Network.sentIn w host frame₀) := by
  have hcount : ((Network.networkMachine w).history (Network.fresh ids) acts).countP
        (Network.handedTo host frame₀) +
      Network.load way frame₀ ((Network.networkMachine w).run (Network.fresh ids) acts) ≤
        Network.load way frame₀ (Network.fresh ids) + acts.countP (Network.sentIn w host frame₀) :=
    (Network.networkMachine w).countP_history_le (P := fun _ _ => True)
      (fun s act _ => Network.load_next_le way hprobe s act) fun _ _ => trivial
  have hempty : Network.load way frame₀ (Network.fresh ids) = 0 := rfl
  omega

/-- The cable of two switches, seen from one of its ends. -/
theorem Wiring.pair_mate {a b : Socket Bool} (h : Wiring.pair.mate a = some b) :
    a = (false, ⟨2⟩) ∧ b = (true, ⟨5⟩) ∨ a = (true, ⟨5⟩) ∧ b = (false, ⟨2⟩) := by
  have hmate : (if a = (false, ⟨2⟩) then some ((true, ⟨5⟩) : Socket Bool)
    else if a = (true, ⟨5⟩) then some (false, ⟨2⟩) else none) = some b := h
  split at hmate
  · next ha => exact Or.inl ⟨ha, (Option.some.inj hmate).symm⟩
  · split at hmate
    · next ha => exact Or.inr ⟨ha, (Option.some.inj hmate).symm⟩
    · cases hmate

/-- From either of two switches port 6 of the second is reached one way. -/
def Wiring.pairWay : Wiring.pair.Way (true, ⟨6⟩) where
  port n := if n then ⟨6⟩ else ⟨2⟩
  at_host := rfl
  host_free := by decide
  cabled n hn := by
    rcases n with _ | _
    · rfl
    · exact absurd rfl hn
  one_way a b h := by
    rcases Wiring.pair_mate h with ⟨rfl, rfl⟩ | ⟨rfl, rfl⟩
    · decide
    · decide

/-- And so is port 1 of the first. -/
def Wiring.pairWayBack : Wiring.pair.Way (false, ⟨1⟩) where
  port n := if n then ⟨5⟩ else ⟨1⟩
  at_host := rfl
  host_free := by decide
  cabled n hn := by
    rcases n with _ | _
    · exact absurd rfl hn
    · rfl
  one_way a b h := by
    rcases Wiring.pair_mate h with ⟨rfl, rfl⟩ | ⟨rfl, rfl⟩
    · decide
    · decide

/-- A frame sent in once over two switches is handed over once at most, a repetition of the
last step included. -/
theorem at_most_once_pair :
    ((Network.networkMachine Wiring.pair).history (Network.fresh fun n => if n then 8 else 7)
      (Network.pairSetUp ++ [.inject (false, ⟨1⟩) (hostFrame 1 9).wireBytes,
        .arrive (false, ⟨1⟩) (hostFrame 1 9).wireBytes 0,
        .arrive (true, ⟨5⟩) ({ hostFrame 1 9 with tag := some ⟨0, false, 10⟩ } :
          EthernetFrame).wireBytes 0,
        .arrive (true, ⟨5⟩) ({ hostFrame 1 9 with tag := some ⟨0, false, 10⟩ } :
          EthernetFrame).wireBytes 0])).countP
      (Network.handedTo (true, ⟨6⟩) (hostFrame 1 9)) ≤ 1 := by
  refine (at_most_once Wiring.pairWay (by decide) _ _).trans (le_of_eq ?_)
  decide

end VlanSwitch
