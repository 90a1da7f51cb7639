import VlanSwitch.Network.Alarm
import VlanSwitch.Network.Tree
import VlanSwitch.Switch.Learning

/-!
# What the switches learn leads home

A switch learns where a host is from the frames it takes, whoever sent them and however
old they are. In a network without loops that is enough: if no other host sends frames
under the address of a host, then whatever is in flight from that address heads away from
the host, through the port that leads back to it (`VlanSwitch.Network.Home`), and so every
route that any switch has for the address is the way to the host
(`VlanSwitch.routes_lead_home`). Nothing is assumed of the order in which frames are
taken, of losses, of ports, modes and tables changed, or of what else is sent.
-/

namespace VlanSwitch

open Switch

namespace Network

variable {ν : Type} {w : Wiring ν} {host : Socket ν}

/-- No host but one sends frames under an address, probes apart: the switches learn nothing
from those. -/
def Act.Homed (w : Wiring ν) (host : Socket ν) (mac : Mac) : Act ν → Prop
  | .inject socket bytes => w.mate socket = none → ∀ frame,
      EthernetFrame.parse bytes = .ok frame → ¬LoopGuard.isAnyProbe frame → frame.src = mac →
        socket = host
  | _ => True

/-- **The address is at home**: the routes to it lead to its host, and what is in flight
from it heads away from there. Only the address of a single host has any routes. -/
structure Home (way : w.Way host) (mac : Mac) (s : Network ν) : Prop where
  routes : ∀ n vlan port, (s.nodes n).macTable.lookup vlan mac = some port →
    port = way.port n ∧ ¬isGroupAddress mac
  flight : ∀ socket bytes frame, (socket, bytes) ∈ s.flight →
    EthernetFrame.parse bytes = .ok frame → ¬LoopGuard.isAnyProbe frame → frame.src = mac →
      socket.2 = way.port socket.1

variable {way : w.Way host} {mac : Mac}

theorem home_fresh (way : w.Way host) (mac : Mac) (ids : ν → UInt64) :
    Home way mac (fresh ids) where
  routes n vlan port h := by
    have hnone : (Switch.withProbeId (ids n)).macTable.lookup vlan mac = none := by
      simp [Switch.withProbeId, MacTable.lookup, MacTable.empty]
    exact absurd (hnone.symm.trans h) (by simp)
  flight socket bytes frame h := absurd h (Multiset.notMem_zero _)

variable [DecidableEq ν]

/-- **A switch learns the address on the port that leads home.** -/
theorem Home.routes_next {s : Network ν} (h : Home way mac s) {act : Act ν} (hwire : act.OnWire)
    (n : ν) {vlan : Vlan} {port : PortId}
    (hroute : (((networkMachine w).next s act).nodes n).macTable.lookup vlan mac = some port) :
    port = way.port n ∧ ¬isGroupAddress mac := by
  rcases nodes_next s act n with hsame | ⟨op, rfl, hop⟩ |
    ⟨q, bytes, now, frame, -, hmem, hparse, hf⟩ |
    ⟨probeId, -, hnew⟩
  · exact h.routes n vlan port (hsame ▸ hroute)
  · rw [hop] at hroute
    obtain ⟨e, he, rfl⟩ := MacTable.lookup_eq_some.mp hroute
    rcases lookup_of_lookup_next he with ⟨frame, rfl, -⟩ | ⟨hold, -⟩
    · exact absurd hwire id
    · exact h.routes n vlan _ (MacTable.lookup_eq_some.mpr ⟨e, hold, rfl⟩)
  · rw [hf] at hroute
    obtain ⟨e, he, rfl⟩ := MacTable.lookup_eq_some.mp hroute
    have hcome := @lookup_of_lookup_next _ (.forward q frame now) _ _ _ he
    rcases hcome with hlearns | ⟨hold, -⟩
    · obtain ⟨frame', hop, hr, hsrc, hunicast⟩ := learns_iff.mp hlearns
      obtain ⟨rfl, rfl, -⟩ := Op.forward.inj hop
      exact ⟨h.flight _ bytes frame hmem hparse hr.1 hsrc, hunicast⟩
    · exact h.routes n vlan _ (MacTable.lookup_eq_some.mpr ⟨e, hold, rfl⟩)
  · rw [hnew] at hroute
    exact (home_fresh way mac fun _ => probeId).routes n vlan port hroute

/-- **What is sent on from the address heads away from its host**: it came in through the
port that leads there, so it leaves through another. -/
theorem Home.flight_next {s : Network ν} (h : Home way mac s) {act : Act ν}
    (hhome : act.Homed w host mac) {socket : Socket ν} {bytes : List UInt8} {frame : EthernetFrame}
    (hmem : (socket, bytes) ∈ ((networkMachine w).next s act).flight)
    (hparse : EthernetFrame.parse bytes = .ok frame) (hprobe : ¬LoopGuard.isAnyProbe frame)
    (hsrc : frame.src = mac) : socket.2 = way.port socket.1 := by
  rcases mem_flight_next hmem with hold | ⟨rfl, hmate⟩ |
    ⟨src, bytes', now, d, rfl, hflight, hd, hmate, rfl⟩ | ⟨n, ports, port, rfl, -, -, rfl⟩
  · exact h.flight socket bytes frame hold hparse hprobe hsrc
  · obtain rfl := hhome hmate frame hparse hprobe hsrc
    exact way.at_host.symm
  · obtain ⟨frame', ds, hparse', hds, hmemds⟩ := mem_takes hd
    have hof : ofContent frame d.bytes = true :=
      (ofContent_of_parse hparse).mpr ⟨rfl, rfl, rfl, rfl⟩
    have hcontent : SameContent frame' frame := (ofContent_of_mem hds hmemds).mp hof
    have hin : src.2 = way.port src.1 :=
      h.flight src bytes' frame' hflight hparse'
        (fun hany => hprobe (hcontent.isAnyProbe_iff.mp hany)) (hcontent.src.trans hsrc)
    have hout : d.port ≠ way.port src.1 := by
      rw [← hin]
      exact port_ne_of_mem hds hmemds
    exact not_not.mp fun hne => hout ((way.one_way _ _ hmate).mpr hne)
  · obtain ⟨probe, hread, hany⟩ := exists_isAnyProbe (s.nodes n)
    obtain rfl := Except.ok.inj (hread.symm.trans hparse)
    exact absurd hany hprobe

/-- **The address stays at home all along a run.** -/
theorem home_run (way : w.Way host) {ids : ν → UInt64} {acts : List (Act ν)}
    (hacts : ∀ act ∈ acts, act.OnWire ∧ act.Homed w host mac) :
    Home way mac ((networkMachine w).run (fresh ids) acts) :=
  (networkMachine w).run_invariant (P := fun act => act.OnWire ∧ act.Homed w host mac)
    (fun _ _ hact hs => ⟨fun n _ _ hroute => hs.routes_next hact.1 n hroute,
      fun _ _ _ hmem hparse hprobe hsrc => hs.flight_next hact.2 hmem hparse hprobe hsrc⟩)
    hacts (home_fresh way mac ids)

/-! ### What is sent to the address -/

omit [DecidableEq ν] in
/-- What a switch sends out for a frame it lets in. -/
theorem takes_of_resolves {s : Switch} {port : PortId} {bytes : List UInt8} (now : Instant)
    {frame : EthernetFrame} (hparse : EthernetFrame.parse bytes = .ok frame) {vlan : Vlan}
    (hr : s.Resolves port frame vlan) :
    (takes s port bytes now).1 = s.deliveries port vlan frame now := by
  rw [takes_of_parse hparse, forward_eq, verdict_eq_accepted.mpr hr]
  rfl

omit [DecidableEq ν] in
/-- **The route a switch follows leads home too**: it learns from the frame first. -/
theorem Home.lookup_letIn {s : Network ν} (h : Home way mac s) {n : ν} {port : PortId}
    {bytes : List UInt8} (hmem : ((n, port), bytes) ∈ s.flight) {frame : EthernetFrame}
    (hparse : EthernetFrame.parse bytes = .ok frame) {vlan : Vlan}
    (hr : (s.nodes n).Resolves port frame vlan) {now : Instant} {p : PortId}
    (hroute : ((s.nodes n).letIn port vlan frame now).macTable.lookup vlan mac = some p) :
    p = way.port n ∧ ¬isGroupAddress mac := by
  rw [macTable_letIn] at hroute
  split at hroute
  · exact h.routes n vlan p hroute
  · next hunicast =>
    obtain ⟨e, he, rfl⟩ := MacTable.lookup_eq_some.mp hroute
    rw [MacTable.lookup_entries_learn] at he
    split at he
    · next hkey =>
      obtain rfl := (Prod.mk.inj hkey).2
      obtain rfl := Option.some.inj he
      exact ⟨h.flight _ bytes frame hmem hparse hr.1 rfl, hunicast⟩
    · exact h.routes n vlan _ (MacTable.lookup_eq_some.mpr ⟨e, he, rfl⟩)

omit [DecidableEq ν] in
/-- What is not known after learning was not known before. -/
theorem lookup_of_letIn {s : Switch} {port : PortId} {vlan : Vlan} {frame : EthernetFrame}
    {now : Instant} {mac : Mac}
    (h : (s.letIn port vlan frame now).macTable.lookup vlan mac = none) :
    s.macTable.lookup vlan mac = none := by
  rw [macTable_letIn] at h
  split at h
  · exact h
  · rw [MacTable.lookup, MacTable.lookup_entries_learn] at h
    split at h
    · cases h
    · exact h

end Network

/-- **What the switches learn leads home.** In a connected network without loops, in which
every switch has a way to a host (`VlanSwitch.Wiring.Way`), let no host but that one send
frames from an address, probes apart. In any run – frames of any kind taken and lost in any order,
ports added, removed, blocked and unblocked, modes changed, tables aged, configurations
loaded again – every route that any switch has for the address, in any VLAN, is the port
that leads to the host; so a frame for the address is sent out of that port or not at all,
unless the switch knows no route and floods it. -/
theorem routes_lead_home {ν : Type} [DecidableEq ν] {w : Wiring ν} {host : Socket ν}
    (way : w.Way host) {mac : Mac} {ids : ν → UInt64} {acts : List (Network.Act ν)}
    (hacts : ∀ act ∈ acts, act.OnWire ∧ act.Homed w host mac) {s : Network ν}
    (hs : s = (Network.networkMachine w).run (Network.fresh ids) acts) (n : ν) :
    (∀ vlan port, (s.nodes n).macTable.lookup vlan mac = some port → port = way.port n) ∧
    ∀ port bytes now frame, ((n, port), bytes) ∈ s.flight →
      EthernetFrame.parse bytes = .ok frame → frame.dst = mac →
        (∀ d ∈ (Network.takes (s.nodes n) port bytes now).1, d.port = way.port n) ∨
        ∃ vlan, (s.nodes n).Resolves port frame vlan ∧
          (s.nodes n).macTable.lookup vlan mac = none ∧
          ∀ d ∈ (Network.takes (s.nodes n) port bytes now).1,
            d.port ∈ (s.nodes n).floodTargets vlan port := by
  have hhome : Network.Home way mac s := hs ▸ Network.home_run way hacts
  refine ⟨fun vlan port hroute => (hhome.routes n vlan port hroute).1, ?_⟩
  intro port bytes now frame hmem hparse hdst
  by_cases hr : ∃ vlan, (s.nodes n).Resolves port frame vlan
  · obtain ⟨vlan, hr⟩ := hr
    have htakes := Network.takes_of_resolves now hparse hr
    rcases hroute : ((s.nodes n).letIn port vlan frame now).macTable.lookup vlan mac with _ | p
    · refine Or.inr ⟨vlan, hr, Network.lookup_of_letIn hroute, fun d hd => ?_⟩
      rw [htakes] at hd
      have hport := (mem_deliveries.mp hd).1
      rw [egressPorts_of_lookup_eq_none (hdst ▸ hroute)] at hport
      rwa [floodTargets_congr (ports_letIn _ port vlan frame now)] at hport
    · refine Or.inl fun d hd => ?_
      rw [htakes] at hd
      have hport := (mem_deliveries.mp hd).1
      obtain ⟨rfl, hunicast⟩ := hhome.lookup_letIn hmem hparse hr hroute
      rw [egressPorts_of_lookup_eq_some (hdst ▸ hunicast) (hdst ▸ hroute)] at hport
      split at hport
      · cases hport
      · exact List.mem_singleton.mp hport
  · -- a frame that is not let in is not sent out
    refine Or.inl fun d hd => ?_
    obtain ⟨frame', ds, hparse', hds, hmemds⟩ := Network.mem_takes hd
    obtain rfl := Except.ok.inj (hparse'.symm.trans hparse)
    obtain ⟨vlan, hr', -⟩ := exists_resolves_of_mem hds hmemds
    exact absurd ⟨vlan, hr'⟩ hr

/-- Over a trunk, the second switch learns that host 1 is behind the trunk. -/
theorem routes_lead_home_pair :
    ((Network.networkMachine Wiring.pair).run (Network.fresh fun n => if n then 8 else 7)
      (Network.pairSetUp ++ [.inject (false, ⟨1⟩) (hostFrame 1 9).wireBytes,
        .arrive (false, ⟨1⟩) (hostFrame 1 9).wireBytes 0,
        .arrive (true, ⟨5⟩) ({ hostFrame 1 9 with tag := some ⟨0, false, 10⟩ } :
          EthernetFrame).wireBytes 0]) |>.nodes true).macTable.lookup 10 (hostMac 1) = some ⟨5⟩ ∧
      (⟨5⟩ : PortId) = Wiring.pairWayBack.port true := by
  have hroute : ((Network.networkMachine Wiring.pair).run
      (Network.fresh fun n => if n then 8 else 7)
      (Network.pairSetUp ++ [.inject (false, ⟨1⟩) (hostFrame 1 9).wireBytes,
        .arrive (false, ⟨1⟩) (hostFrame 1 9).wireBytes 0,
        .arrive (true, ⟨5⟩) ({ hostFrame 1 9 with tag := some ⟨0, false, 10⟩ } :
          EthernetFrame).wireBytes 0]) |>.nodes true).macTable.lookup 10 (hostMac 1) =
      some ⟨5⟩ := by decide
  refine ⟨hroute, (routes_lead_home Wiring.pairWayBack ?_ rfl true).1 10 ⟨5⟩ hroute⟩
  simp only [Network.pairSetUp, List.cons_append, List.nil_append, List.forall_mem_cons]
  refine ⟨⟨trivial, trivial⟩, ⟨trivial, trivial⟩, ⟨trivial, trivial⟩, ⟨trivial, trivial⟩,
    ⟨trivial, ?_⟩, ⟨trivial, trivial⟩, ⟨trivial, trivial⟩, fun _ h => absurd h List.not_mem_nil⟩
  exact fun _ _ _ _ _ => rfl

end VlanSwitch
