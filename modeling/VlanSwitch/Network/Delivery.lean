import VlanSwitch.Network.Homing

/-!
# A frame reaches every host once

What keeps a frame from being delivered twice in a network without loops does not make it
arrive. It does arrive if every switch that takes it either floods it or sends it along
the way to the host: then of a copy underway to the host exactly one copy is underway, or
handed over, after any switch took it (`VlanSwitch.Network.countP_sent_eq`). For that the
cabled ports have to be up and to carry the VLAN whenever a switch takes the frame
(`VlanSwitch.Network.Serves`); what is done at other times does not matter. The count is
then exact at every moment of a run (`VlanSwitch.Network.delivered_exactly`).

A frame for a group address is flooded by every switch, since no address of a group is
ever learned (`VlanSwitch.group_exactly_once`). A frame for a host that alone sends from
its address is flooded or sent along the way, since the routes lead home
(`VlanSwitch.unicast_exactly_once`).
-/

namespace VlanSwitch

open Switch

namespace Network

variable {ν : Type} {w : Wiring ν} {host : Socket ν}

/-- The switches serve a VLAN up to a host: the cabled ports are up, and the host is on a
port that is up and carries it. -/
structure Serves (w : Wiring ν) (host : Socket ν) (vlan : Vlan) (s : Network ν) : Prop where
  cables : ∀ a, (w.mate a).isSome → (s.nodes a.1).Up a.2
  host : ∃ entry, (s.nodes host.1).ports.lookup host.2 = some entry ∧ entry.blocked = false ∧
    entry.mode.carries vlan

variable [DecidableEq ν]

/-- The frame is taken in good order: by a switch of a network that serves the VLAN, and in
that VLAN if it comes from a host. -/
def InOrder (w : Wiring ν) (host : Socket ν) (vlan : Vlan) (frame₀ : EthernetFrame)
    (s : Network ν) : Act ν → Prop
  | .arrive socket bytes _ => ofContent frame₀ bytes = true → Serves w host vlan s ∧
      (w.mate socket = none → ∀ frame, EthernetFrame.parse bytes = .ok frame →
        (s.nodes socket.1).Resolves socket.2 frame vlan)
  | .lose _ bytes => ofContent frame₀ bytes = false
  | _ => True

variable {way : w.Way host} {plan : Plan w} {ids : ν → UInt64} {vlan : Vlan}
  {frame₀ : EthernetFrame}

/-- **A frame is sent out of a port that is up and carries its VLAN**, but the one it came
in on, if the switch knows no other way. -/
theorem exists_mem_takes {s : Switch} {port q : PortId} {bytes : List UInt8}
    (now : Instant) {frame : EthernetFrame} (hparse : EthernetFrame.parse bytes = .ok frame)
    (hr : s.Resolves port frame vlan)
    (hroute : ∀ p, (s.letIn port vlan frame now).macTable.lookup vlan frame.dst = some p → p = q)
    (htype : frame.ethertype ≠ tpid8021q) {entry : PortEntry}
    (hentry : s.ports.lookup q = some entry) (hup : entry.blocked = false)
    (hcarries : entry.mode.carries vlan) (hne : q ≠ port) :
    ∃ d ∈ (takes s port bytes now).1, d.port = q := by
  have henc : (egressFrame entry.mode vlan frame).Encodable := fun _ => htype
  have hd : s.encodeForEgress q vlan frame =
      some ⟨q, (egressFrame entry.mode vlan frame).wireBytes⟩ :=
    encodeForEgress_eq_some.mpr ⟨entry, hentry, hup, henc, rfl⟩
  have hflood : q ∈ (s.letIn port vlan frame now).floodTargets vlan port :=
    mem_floodTargets.mpr ⟨⟨entry, by rwa [ports_letIn], hup, hcarries⟩, hne⟩
  have hegress : q ∈ (s.letIn port vlan frame now).egressPorts port vlan frame := by
    rw [egressPorts]
    split
    · exact hflood
    · split
      · next p hp =>
        obtain rfl := hroute p hp
        rw [if_neg hne]
        exact List.mem_singleton_self p
      · exact hflood
  refine ⟨⟨q, (egressFrame entry.mode vlan frame).wireBytes⟩, ?_, rfl⟩
  rw [takes_of_resolves now hparse hr]
  exact mem_deliveries.mpr ⟨hegress, hd⟩

/-- **A frame taken in order is taken in the VLAN it entered in**: if it comes over a cable,
the port of the cable is up and reads what the other end wrote. -/
theorem resolves_of_inOrder {acts : List (Act ν)} (hacts : ∀ act ∈ acts, act.Planned plan)
    (horder : ∀ e ∈ (networkMachine w).trace (fresh ids) acts, InOrder w host vlan frame₀ e.1 e.2)
    (hprobe : ¬LoopGuard.isAnyProbe frame₀) {s : Network ν}
    (hs : s = (networkMachine w).run (fresh ids) acts) {socket : Socket ν} {bytes : List UInt8}
    {now : Instant} (hflight : (socket, bytes) ∈ s.flight)
    (hnow : InOrder w host vlan frame₀ s (.arrive socket bytes now)) {frame : EthernetFrame}
    (hparse : EthernetFrame.parse bytes = .ok frame) (hcontent : SameContent frame frame₀) :
    (s.nodes socket.1).Resolves socket.2 frame vlan := by
  obtain rfl := hs
  have hstanding := standing_run plan ids hacts
  have hof : ofContent frame₀ bytes = true := (ofContent_of_parse hparse).mpr hcontent
  obtain ⟨hserves, hhost⟩ := hnow hof
  have hnot : ¬LoopGuard.isAnyProbe frame := fun h => hprobe (hcontent.isAnyProbe_iff.mp h)
  rcases allowed_of_mem_flight hacts hflight with ⟨hmate, -⟩ | ⟨probe, hread, hany⟩ |
    ⟨vlan', frame₁, sent, hpassing⟩
  · exact hhost hmate frame hparse
  · obtain rfl := Except.ok.inj (hread.symm.trans hparse)
    exact absurd hany hnot
  · -- it entered the network in order, so in the VLAN
    have hvlan : vlan' = vlan := by
      obtain ⟨pre, post, src, bytes', now', hsplit, hmate, -, -, hparse', hr⟩ := hpassing.entered
      have hread := hparse
      rw [hpassing.written, EthernetFrame.parse_wireBytes hpassing.encodable] at hread
      obtain rfl := Except.ok.inj hread
      have hsame : SameContent frame₁ frame₀ :=
        hpassing.content.symm.trans
          ((sameContent_egressFrame (plan.mode socket) vlan' sent).symm.trans hcontent)
      have hmem : ((networkMachine w).run (fresh ids) pre, Act.arrive src bytes' now') ∈
          (networkMachine w).trace (fresh ids) acts :=
        (networkMachine w).mem_trace.mpr ⟨pre, post, hsplit, rfl⟩
      have hr' := (horder _ hmem ((ofContent_of_parse hparse').mpr hsame)).2 hmate frame₁ hparse'
      exact Except.ok.inj (hr.2.2.symm.trans hr'.2.2)
    rw [← hvlan]
    exact hpassing.resolves_of_up hstanding (hserves.cables socket hpassing.cabled) hparse hnot

/-- **Of a frame underway exactly one copy goes on**, or is handed to the host. -/
theorem countP_sent_eq (way : w.Way host) (hcarries : ∀ a, (w.mate a).isSome →
      (plan.mode a).carries vlan) (htype : frame₀.ethertype ≠ tpid8021q) {s : Network ν}
    (hs : Standing plan s) (hserves : Serves w host vlan s) {socket : Socket ν}
    {bytes : List UInt8} (now : Instant)
    {frame : EthernetFrame} (hparse : EthernetFrame.parse bytes = .ok frame)
    (hcontent : SameContent frame frame₀)
    (hr : (s.nodes socket.1).Resolves socket.2 frame vlan)
    (hroute : ∀ p, ((s.nodes socket.1).letIn socket.2 vlan frame now).macTable.lookup vlan
      frame.dst = some p → p = way.port socket.1) :
    ((takes (s.nodes socket.1) socket.2 bytes now).1.countP fun d =>
        decide (d.port = way.port socket.1) && ofContent frame₀ d.bytes) =
      if underway way frame₀ (socket, bytes) then 1 else 0 := by
  refine le_antisymm (countP_sent_le way frame₀ _ socket bytes now) ?_
  split
  · next hunder =>
    have hne : way.port socket.1 ≠ socket.2 :=
      Ne.symm (of_decide_eq_true (Bool.and_eq_true_iff.mp hunder).1)
    -- the port that leads to the host is up and carries the VLAN
    have hport : ∃ entry, (s.nodes socket.1).ports.lookup (way.port socket.1) = some entry ∧
        entry.blocked = false ∧ entry.mode.carries vlan := by
      by_cases hn : socket.1 = host.1
      · rw [hn, way.at_host]
        exact hserves.host
      · have hcabled := way.cabled socket.1 hn
        obtain ⟨entry, hentry, hup⟩ := hserves.cables _ hcabled
        refine ⟨entry, hentry, hup, ?_⟩
        rw [hs.planned _ _ entry hentry hcabled]
        exact hcarries _ hcabled
    obtain ⟨entry, hentry, hup, hentryCarries⟩ := hport
    obtain ⟨d, hd, hdport⟩ := exists_mem_takes now hparse hr hroute
      (fun h => htype (hcontent.ethertype.symm.trans h)) hentry hup hentryCarries hne
    refine List.countP_pos_iff.mpr ⟨d, hd, Bool.and_eq_true_iff.mpr ⟨decide_eq_true hdport, ?_⟩⟩
    obtain ⟨frame', ds, hparse', hds, hmem⟩ := mem_takes hd
    obtain rfl := Except.ok.inj (hparse'.symm.trans hparse)
    exact (ofContent_of_mem hds hmem).mpr hcontent
  · exact Nat.zero_le _

omit [DecidableEq ν] in
/-- What is not underway is not sent to the host. -/
theorem countP_sent_eq_zero {s : Switch} {socket : Socket ν} {bytes : List UInt8} {now : Instant}
    (h : ofContent frame₀ bytes = false) :
    ((takes s socket.2 bytes now).1.countP fun d =>
        decide (d.port = way.port socket.1) && ofContent frame₀ d.bytes) = 0 := by
  have hle := countP_sent_le way frame₀ s socket bytes now
  rw [underway, h, Bool.and_false, if_neg Bool.false_ne_true] at hle
  exact Nat.le_zero.mp hle

/-- A switch that takes what is in flight knows no way to an address but the one to its host. -/
def Leads (way : w.Way host) (mac : Mac) (s : Network ν) : Prop :=
  ∀ socket bytes frame now v p, (socket, bytes) ∈ s.flight →
    EthernetFrame.parse bytes = .ok frame → (s.nodes socket.1).Resolves socket.2 frame v →
    ((s.nodes socket.1).letIn socket.2 v frame now).macTable.lookup v mac = some p →
      p = way.port socket.1

/-- **One act in order keeps the count**: what was underway, or has just been sent in, is
underway or has been handed over. -/
theorem load_next_eq (way : w.Way host) (hcarries : ∀ a, (w.mate a).isSome →
      (plan.mode a).carries vlan) (hprobe : ¬LoopGuard.isAnyProbe frame₀)
    (htype : frame₀.ethertype ≠ tpid8021q) {acts : List (Act ν)}
    (hacts : ∀ act ∈ acts, act.Planned plan)
    (horder : ∀ e ∈ (networkMachine w).trace (fresh ids) acts, InOrder w host vlan frame₀ e.1 e.2)
    {s : Network ν} (hs : s = (networkMachine w).run (fresh ids) acts)
    (hleads : Leads way frame₀.dst s) {act : Act ν} (hnow : InOrder w host vlan frame₀ s act) :
    ((networkMachine w).out s act).countP (handedTo host frame₀) +
        load way frame₀ ((networkMachine w).next s act) =
      load way frame₀ s + if sentIn w host frame₀ act then 1 else 0 := by
  cases act with
  | inject socket bytes =>
    have hinject := load_inject way frame₀ s socket bytes
    change 0 + load way frame₀ (inject w s socket bytes) = _
    omega
  | arrive socket bytes now =>
    change (arrive w s socket bytes now).1.countP (handedTo host frame₀) +
      load way frame₀ (arrive w s socket bytes now).2 = load way frame₀ s + 0
    by_cases hmem : (socket, bytes) ∈ s.flight
    · have harrive := load_arrive way frame₀ now hmem
      have hsent : ((takes (s.nodes socket.1) socket.2 bytes now).1.countP fun d =>
          decide (d.port = way.port socket.1) && ofContent frame₀ d.bytes) =
          if underway way frame₀ (socket, bytes) then 1 else 0 := by
        rcases hof : ofContent frame₀ bytes with _ | _
        · rw [countP_sent_eq_zero hof, underway, hof, Bool.and_false, if_neg Bool.false_ne_true]
        · obtain ⟨frame, hparse, hcontent⟩ := exists_of_ofContent hof
          have hr := resolves_of_inOrder hacts horder hprobe hs hmem hnow hparse hcontent
          refine countP_sent_eq way hcarries htype (hs ▸ standing_run plan ids hacts)
            (hnow hof).1 now hparse hcontent hr fun p hp => ?_
          rw [hcontent.dst] at hp
          exact hleads socket bytes frame now vlan p hmem hparse hr hp
      omega
    · rw [arrive_of_notMem hmem]
      exact Nat.zero_add _
  | lose socket bytes =>
    -- what is lost is another frame
    have hfalse : ofContent frame₀ bytes = false := hnow
    change 0 + load way frame₀ _ = load way frame₀ s + 0
    rw [Nat.zero_add, Nat.add_zero, load, load]
    by_cases hmem : (socket, bytes) ∈ s.flight
    · have hcons := congrArg (Multiset.countP fun item => underway way frame₀ item = true)
        (Multiset.cons_erase hmem)
      rw [Multiset.countP_cons_of_neg] at hcons
      · exact hcons
      · simp [underway, hfalse]
    · have herase : s.flight.erase (socket, bytes) = s.flight := Multiset.erase_of_notMem hmem
      exact congrArg _ herase
  | tick n ports =>
    obtain ⟨hout, hload⟩ := load_tick way hprobe s n ports
    rw [hout, hload]
    exact Nat.zero_add _
  | manage n op => exact Nat.zero_add _
  | renew n probeId => exact Nat.zero_add _

/-- **The count is exact at every moment.** -/
theorem delivered_exactly (way : w.Way host) (hcarries : ∀ a, (w.mate a).isSome →
      (plan.mode a).carries vlan) (hprobe : ¬LoopGuard.isAnyProbe frame₀)
    (htype : frame₀.ethertype ≠ tpid8021q) {acts : List (Act ν)}
    (hacts : ∀ act ∈ acts, act.Planned plan)
    (horder : ∀ e ∈ (networkMachine w).trace (fresh ids) acts, InOrder w host vlan frame₀ e.1 e.2)
    (hleads : ∀ pre post, acts = pre ++ post →
      Leads way frame₀.dst ((networkMachine w).run (fresh ids) pre)) :
    ((networkMachine w).history (fresh ids) acts).countP (handedTo host frame₀) +
        load way frame₀ ((networkMachine w).run (fresh ids) acts) =
      acts.countP (sentIn w host frame₀) := by
  have hcount : ((networkMachine w).history (fresh ids) acts).countP (handedTo host frame₀) +
      load way frame₀ ((networkMachine w).run (fresh ids) acts) =
        load way frame₀ (fresh ids) + acts.countP (sentIn w host frame₀) := by
    refine (networkMachine w).countP_history_eq
      (P := fun s act => ∃ pre post, acts = pre ++ act :: post ∧
        s = (networkMachine w).run (fresh ids) pre) (fun s act hstep => ?_)
      fun e he => (networkMachine w).mem_trace.mp he
    obtain ⟨pre, post, rfl, hs⟩ := hstep
    have hleadsNow : Leads way frame₀.dst s := hs ▸ hleads pre _ rfl
    rw [Machine.trace_append, List.forall_mem_append] at horder
    rw [List.forall_mem_append] at hacts
    have hnow : InOrder w host vlan frame₀ s act :=
      hs ▸ horder.2 _ (by rw [Machine.trace_cons]; exact List.mem_cons_self)
    exact load_next_eq way hcarries hprobe htype hacts.1 horder.1 hs hleadsNow hnow
  have hempty : load way frame₀ (fresh ids) = 0 := rfl
  omega

omit [DecidableEq ν] in
/-- Nothing is underway when nothing is in flight. -/
theorem load_of_flight_eq_zero {s : Network ν} (h : s.flight = 0) : load way frame₀ s = 0 := by
  rw [load, h]
  rfl

omit [DecidableEq ν] in
/-- No switch knows a way to a group address. -/
theorem leads_of_isGroupAddress (way : w.Way host) {mac : Mac} (hmac : isGroupAddress mac)
    {s : Network ν} (hs : Standing plan s) : Leads way mac s := by
  intro socket bytes frame now v p _ _ hr hp
  have hreach : Reachable ((s.nodes socket.1).accept socket.2 v frame now) :=
    (hs.built socket.1).reachable.accept hr now
  have hnone := hreach.lookup_of_isGroupAddress v hmac
  rw [macTable_accept, ← macTable_letIn] at hnone
  cases hnone.symm.trans hp

omit [DecidableEq ν] in
/-- What keeps to a plan is on the wire. -/
theorem Act.Planned.onWire {act : Act ν} (h : act.Planned plan) : act.OnWire := by
  cases act with
  | manage n op =>
    cases op with
    | forward => exact h
    | _ => trivial
  | _ => trivial

end Network

section

variable {ν : Type} [DecidableEq ν] {w : Wiring ν} {host : Socket ν} (way : w.Way host)
  {plan : Network.Plan w} {vlan : Vlan} {frame₀ : EthernetFrame} {ids : ν → UInt64}
  {acts : List (Network.Act ν)}

/-- **A frame for a group reaches every host exactly once.** In a connected network without
loops, in which every switch has a way to the host (`VlanSwitch.Wiring.Way`), let there be
one mode at both ends of every cable, and let every cable carry a VLAN. Take a frame for a
group address that is no probe and whose EtherType, behind its own tag if it has one, is
not that of a tag, so that every port can write it. Take any run in which no copy of it is
lost, and whenever a switch takes one the cabled ports are up, the host is on a port that
is up and carries the VLAN, and a port with another host on it takes the frame in that
VLAN. Then at any moment the host has been handed the frame as often as the other hosts
have sent it in, but for the copies underway; and when nothing is in flight, exactly as
often. -/
theorem group_exactly_once
    (hcarries : ∀ a, (w.mate a).isSome → (plan.mode a).carries vlan)
    (hprobe : ¬LoopGuard.isAnyProbe frame₀) (hdst : isGroupAddress frame₀.dst)
    (htype : frame₀.ethertype ≠ tpid8021q) (hacts : ∀ act ∈ acts, act.Planned plan)
    (horder : ∀ e ∈ (Network.networkMachine w).trace (Network.fresh ids) acts,
      Network.InOrder w host vlan frame₀ e.1 e.2) :
    ((Network.networkMachine w).history (Network.fresh ids) acts).countP
          (Network.handedTo host frame₀) +
        Network.load way frame₀ ((Network.networkMachine w).run (Network.fresh ids) acts) =
      acts.countP (Network.sentIn w host frame₀) ∧
    (((Network.networkMachine w).run (Network.fresh ids) acts).flight = 0 →
      ((Network.networkMachine w).history (Network.fresh ids) acts).countP
          (Network.handedTo host frame₀) =
        acts.countP (Network.sentIn w host frame₀)) := by
  have hcount := Network.delivered_exactly way hcarries hprobe htype hacts horder
    fun pre post hsplit => Network.leads_of_isGroupAddress way hdst
      (Network.standing_run plan ids (List.forall_mem_append.mp (hsplit ▸ hacts)).1)
  refine ⟨hcount, fun hflight => ?_⟩
  have hload : Network.load way frame₀ _ = 0 := Network.load_of_flight_eq_zero hflight
  omega

/-- **A frame for a host reaches it exactly once.** In a connected network without loops, in
which every switch has a way to the host (`VlanSwitch.Wiring.Way`), let there be one mode at
both ends of every cable, let every cable carry a VLAN, and let no host but that one send
frames from an address, probes apart. Take a frame for that address that is no probe and
whose EtherType, behind its own tag if it has one, is not that of a tag, so that every port
can write it. Take any run in which no copy of it is lost, and whenever a switch takes one
the cabled ports are up, the host is on a port that is up and carries the VLAN, and a port
with another host on it takes the frame in that VLAN. Whatever the switches have learned,
forgotten or not learned yet, in that VLAN and in others, at any moment the host has been
handed the frame as often as the other hosts have sent it in, but for the copies underway;
and when nothing is in flight, exactly as often. -/
theorem unicast_exactly_once
    (hcarries : ∀ a, (w.mate a).isSome → (plan.mode a).carries vlan)
    (hprobe : ¬LoopGuard.isAnyProbe frame₀) (htype : frame₀.ethertype ≠ tpid8021q)
    (hacts : ∀ act ∈ acts, act.Planned plan ∧ act.Homed w host frame₀.dst)
    (horder : ∀ e ∈ (Network.networkMachine w).trace (Network.fresh ids) acts,
      Network.InOrder w host vlan frame₀ e.1 e.2) :
    ((Network.networkMachine w).history (Network.fresh ids) acts).countP
          (Network.handedTo host frame₀) +
        Network.load way frame₀ ((Network.networkMachine w).run (Network.fresh ids) acts) =
      acts.countP (Network.sentIn w host frame₀) ∧
    (((Network.networkMachine w).run (Network.fresh ids) acts).flight = 0 →
      ((Network.networkMachine w).history (Network.fresh ids) acts).countP
          (Network.handedTo host frame₀) =
        acts.countP (Network.sentIn w host frame₀)) := by
  have hcount := Network.delivered_exactly way hcarries hprobe htype
    (fun act hact => (hacts act hact).1) horder (fun pre post hsplit => ?_)
  · refine ⟨hcount, fun hflight => ?_⟩
    have hload : Network.load way frame₀ _ = 0 := Network.load_of_flight_eq_zero hflight
    omega
  · -- the routes lead home at every moment
    have hhome : Network.Home way frame₀.dst
        ((Network.networkMachine w).run (Network.fresh ids) pre) :=
      Network.home_run way fun act hact => by
        have hmem : act ∈ acts := hsplit ▸ List.mem_append_left _ hact
        exact ⟨(hacts act hmem).1.onWire, (hacts act hmem).2⟩
    intro socket bytes frame now v p hmem hparse hr hp
    exact (hhome.lookup_letIn hmem hparse hr hp).1

end

/-- The two switches serve VLAN 10 up to port 6 of the second once they are set up. -/
theorem Network.serves_pair {s : Network Bool}
    (h₂ : (s.nodes false).ports.lookup ⟨2⟩ = some ⟨.trunk none {10, 20}, false⟩)
    (h₅ : (s.nodes true).ports.lookup ⟨5⟩ = some ⟨.trunk none {10, 20}, false⟩)
    (h₆ : (s.nodes true).ports.lookup ⟨6⟩ = some ⟨.access 10, false⟩) :
    Network.Serves Wiring.pair (true, ⟨6⟩) 10 s := by
  refine ⟨fun a ha => ?_, ⟨_, h₆, rfl, rfl⟩⟩
  obtain ⟨b, hmate⟩ := Option.isSome_iff_exists.mp ha
  rcases Wiring.pair_mate hmate with ⟨rfl, -⟩ | ⟨rfl, -⟩
  · exact ⟨_, h₂, rfl⟩
  · exact ⟨_, h₅, rfl⟩

/-- A broadcast of VLAN 10 crosses a trunk and is handed over once. -/
theorem group_exactly_once_pair :
    ((Network.networkMachine Wiring.pair).history (Network.fresh fun n => if n then 8 else 7)
      (Network.pairSetUp ++ [
        .inject (false, ⟨1⟩) ({ hostFrame 1 9 with dst := broadcast } : EthernetFrame).wireBytes,
        .arrive (false, ⟨1⟩) ({ hostFrame 1 9 with dst := broadcast } : EthernetFrame).wireBytes 0,
        .arrive (true, ⟨5⟩) ({ hostFrame 1 9 with
          dst := broadcast, tag := some ⟨0, false, 10⟩ } : EthernetFrame).wireBytes 0])).countP
      (Network.handedTo (true, ⟨6⟩) { hostFrame 1 9 with dst := broadcast }) = 1 := by
  have htrunk : (PortMode.trunk none {10, 20}).Built := Or.inr ⟨.sorted, none, [10, 20], by decide⟩
  have haccess : (PortMode.access 10).Built := Or.inl ⟨10, rfl⟩
  have hcarries : (PortMode.trunk none {10, 20}).carries 10 := by decide
  refine ((@group_exactly_once Bool _ _ _ Wiring.pairWay
    ⟨fun _ => .trunk none {10, 20}, fun _ _ _ => rfl⟩ 10 _ _ _ (fun _ _ => hcarries)
    (by decide) (by decide) (by decide) ?_ ?_).2 (by decide)).trans (by decide)
  · simp only [Network.pairSetUp, List.cons_append, List.nil_append, List.forall_mem_cons]
    exact ⟨⟨haccess, fun h => absurd h (by decide)⟩, ⟨htrunk, fun _ => rfl⟩,
      ⟨htrunk, fun _ => rfl⟩, ⟨haccess, fun h => absurd h (by decide)⟩, trivial, trivial,
      trivial, fun _ h => absurd h List.not_mem_nil⟩
  · simp only [Network.pairSetUp, List.cons_append, List.nil_append, Machine.trace_cons,
      Machine.trace_nil, List.forall_mem_cons]
    refine ⟨trivial, trivial, trivial, trivial, trivial,
      fun _ => ⟨Network.serves_pair rfl rfl rfl, ?_⟩,
      fun _ => ⟨Network.serves_pair rfl rfl rfl, fun h => absurd h (by decide)⟩,
      fun _ h => absurd h List.not_mem_nil⟩
    intro _ frame hparse
    have hread : EthernetFrame.parse
        ({ hostFrame 1 9 with dst := broadcast } : EthernetFrame).wireBytes =
        .ok { hostFrame 1 9 with dst := broadcast } := by decide
    obtain rfl := Except.ok.inj (hread.symm.trans hparse)
    decide

/-- A reply to a host that both switches have learned is handed to it once. -/
theorem unicast_exactly_once_pair :
    ((Network.networkMachine Wiring.pair).history (Network.fresh fun n => if n then 8 else 7)
      (Network.pairSetUp ++ [
        .inject (true, ⟨6⟩) (hostFrame 9 1).wireBytes,
        .arrive (true, ⟨6⟩) (hostFrame 9 1).wireBytes 0,
        .arrive (false, ⟨2⟩) ({ hostFrame 9 1 with tag := some ⟨0, false, 10⟩ } :
          EthernetFrame).wireBytes 0,
        .inject (false, ⟨1⟩) (hostFrame 1 9).wireBytes,
        .arrive (false, ⟨1⟩) (hostFrame 1 9).wireBytes 1,
        .arrive (true, ⟨5⟩) ({ hostFrame 1 9 with tag := some ⟨0, false, 10⟩ } :
          EthernetFrame).wireBytes 1])).countP
      (Network.handedTo (true, ⟨6⟩) (hostFrame 1 9)) = 1 := by
  have htrunk : (PortMode.trunk none {10, 20}).Built := Or.inr ⟨.sorted, none, [10, 20], by decide⟩
  have haccess : (PortMode.access 10).Built := Or.inl ⟨10, rfl⟩
  have hcarries : (PortMode.trunk none {10, 20}).carries 10 := by decide
  have hread : EthernetFrame.parse (hostFrame 1 9).wireBytes = .ok (hostFrame 1 9) := by decide
  refine ((@unicast_exactly_once Bool _ _ _ Wiring.pairWay
    ⟨fun _ => .trunk none {10, 20}, fun _ _ _ => rfl⟩ 10 _ _ _ (fun _ _ => hcarries)
    (by decide) (by decide) ?_ ?_).2 (by decide)).trans (by decide)
  · simp only [Network.pairSetUp, List.cons_append, List.nil_append, List.forall_mem_cons]
    refine ⟨⟨⟨haccess, fun h => absurd h (by decide)⟩, trivial⟩, ⟨⟨htrunk, fun _ => rfl⟩, trivial⟩,
      ⟨⟨htrunk, fun _ => rfl⟩, trivial⟩, ⟨⟨haccess, fun h => absurd h (by decide)⟩, trivial⟩,
      ⟨trivial, fun _ _ _ _ _ => rfl⟩, ⟨trivial, trivial⟩, ⟨trivial, trivial⟩, ⟨trivial, ?_⟩,
      ⟨trivial, trivial⟩, ⟨trivial, trivial⟩, fun _ h => absurd h List.not_mem_nil⟩
    intro _ frame hparse _ hsrc
    obtain rfl := Except.ok.inj (hread.symm.trans hparse)
    exact absurd hsrc (by decide)
  · simp only [Network.pairSetUp, List.cons_append, List.nil_append, Machine.trace_cons,
      Machine.trace_nil, List.forall_mem_cons]
    refine ⟨trivial, trivial, trivial, trivial, trivial, fun h => absurd h (by decide),
      fun h => absurd h (by decide), trivial, fun _ => ⟨Network.serves_pair rfl rfl rfl, ?_⟩,
      fun _ => ⟨Network.serves_pair rfl rfl rfl, fun h => absurd h (by decide)⟩,
      fun _ h => absurd h List.not_mem_nil⟩
    intro _ frame hparse
    obtain rfl := Except.ok.inj (hread.symm.trans hparse)
    decide

end VlanSwitch
