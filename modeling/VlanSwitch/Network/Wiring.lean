import Mathlib.Data.Multiset.Basic
import VlanSwitch.Lib.History
import VlanSwitch.Switch.Link
import VlanSwitch.Switch.Probe

/-!
# Switches wired to one another

A network of switches, each a box that runs the program, with cables between their
ports (`VlanSwitch.Wiring`) and hosts on the ports that have none. What a switch hands
to a cabled port is in flight (`VlanSwitch.Network.flight`), without any order, until
the switch at the other end takes it or it is lost; and what it hands to a port without
a cable has left the network (`VlanSwitch.Network.Event`). Nothing is assumed of the
order in which the switches work, of the shape of the network, or of the bytes the
hosts send in.

What one act can do to a switch, to what is in flight and to what has left is said once
for each (`VlanSwitch.Network.nodes_next`, `VlanSwitch.Network.mem_flight_next`,
`VlanSwitch.Network.mem_out`), and everything about runs rests on that.
-/

namespace VlanSwitch

/-- A port of a switch of the network. -/
abbrev Socket (ν : Type) := ν × PortId

/-- **The cables of a network**: a symmetric partial pairing of the sockets, in which the
two ends of a cable may be on one switch. -/
structure Wiring (ν : Type) where
  /-- The socket at the other end of the cable. -/
  mate : Socket ν → Option (Socket ν)
  symm : ∀ a b, mate a = some b → mate b = some a

/-- The switches, and the bytes in flight with the socket they are heading for. -/
structure Network (ν : Type) where
  nodes : ν → Switch
  flight : Multiset (Socket ν × List UInt8)

/-- Two switches, with a cable from port 2 of the first to port 5 of the second. -/
def Wiring.pair : Wiring Bool where
  mate socket :=
    if socket = (false, ⟨2⟩) then some (true, ⟨5⟩)
    else if socket = (true, ⟨5⟩) then some (false, ⟨2⟩)
    else none
  symm a b h := by
    split at h
    · next ha =>
      obtain rfl := Option.some.inj h
      rw [ha]
      rfl
    · split at h
      · next ha =>
        obtain rfl := Option.some.inj h
        rw [ha]
        rfl
      · cases h

namespace Network

variable {ν : Type}

/-- Bytes leave the network on a socket without a cable. -/
inductive Event (ν : Type) where
  /-- A delivery of `forward`. -/
  | handed (socket : Socket ν) (bytes : List UInt8)
  /-- The probe of the switch. -/
  | probed (socket : Socket ν) (bytes : List UInt8)
  deriving DecidableEq

/-- What may happen in a network. -/
inductive Act (ν : Type) where
  /-- A host sends bytes into a socket without a cable. -/
  | inject (socket : Socket ν) (bytes : List UInt8)
  /-- A switch takes bytes that were heading for it. -/
  | arrive (socket : Socket ν) (bytes : List UInt8) (now : Instant)
  /-- Bytes in flight are lost. -/
  | lose (socket : Socket ν) (bytes : List UInt8)
  /-- A switch sends its probe out of some of its ports. -/
  | tick (node : ν) (ports : List PortId)
  /-- The ports or the table of a switch are operated on. -/
  | manage (node : ν) (op : Op)
  /-- The configuration of a switch is loaded again: it starts anew, with a new probe id. -/
  | renew (node : ν) (probeId : UInt64)

/-- A network of switches that have just started. -/
def fresh (ids : ν → UInt64) : Network ν where
  nodes n := Switch.withProbeId (ids n)
  flight := 0

/-- The deliveries of a call, none if it failed. -/
def delivered : ForwardResult → List Delivery
  | .ok ds => ds
  | .error _ => []

variable (w : Wiring ν)

/-- Where what is sent out of a port is heading, if a cable is there. -/
def outgoing (node : ν) (d : Delivery) : Option (Socket ν × List UInt8) :=
  (w.mate (node, d.port)).map fun socket => (socket, d.bytes)

/-- What is sent out of a port leaves the network, if no cable is there. -/
def leaving (event : Socket ν → List UInt8 → Event ν) (node : ν) (d : Delivery) :
    Option (Event ν) :=
  if w.mate (node, d.port) = none then some (event (node, d.port) d.bytes) else none

/-- A switch takes bytes on a port: what it sends out, and the switch after it. -/
def takes (s : Switch) (port : PortId) (bytes : List UInt8) (now : Instant) :
    List Delivery × Switch :=
  match EthernetFrame.parse bytes with
  | .error _ => ([], s)
  | .ok frame => (delivered (s.forward port frame now).1, (s.forward port frame now).2)

/-- The probes of a tick. -/
def probes (s : Switch) (ports : List PortId) : List Delivery :=
  ports.map fun port => ⟨port, s.buildLoopProbe⟩

/-- A host sends bytes in. -/
def inject (s : Network ν) (socket : Socket ν) (bytes : List UInt8) : Network ν :=
  if w.mate socket = none then { s with flight := (socket, bytes) ::ₘ s.flight } else s

variable [DecidableEq ν]

/-- A switch takes bytes that are in flight. -/
def arrive (s : Network ν) (socket : Socket ν) (bytes : List UInt8) (now : Instant) :
    List (Event ν) × Network ν :=
  if (socket, bytes) ∈ s.flight then
    let (ds, switch) := takes (s.nodes socket.1) socket.2 bytes now
    (ds.filterMap (leaving w .handed socket.1),
      { nodes := Function.update s.nodes socket.1 switch
        flight := s.flight.erase (socket, bytes) + (ds.filterMap (outgoing w socket.1) :) })
  else ([], s)

/-- A switch is put in another state. -/
def setNode (s : Network ν) (node : ν) (switch : Switch) : Network ν :=
  { s with nodes := Function.update s.nodes node switch }

/-- The network, as a machine. -/
def networkMachine : Machine (Network ν) (Act ν) (List (Event ν)) where
  step s
    | .inject socket bytes => ([], inject w s socket bytes)
    | .arrive socket bytes now => arrive w s socket bytes now
    | .lose socket bytes => ([], { s with flight := s.flight.erase (socket, bytes) })
    | .tick node ports =>
      ((probes (s.nodes node) ports).filterMap (leaving w .probed node),
        { s with
          flight := s.flight + ((probes (s.nodes node) ports).filterMap (outgoing w node) :) })
    | .manage node op => ([], s.setNode node (machine.next (s.nodes node) op))
    | .renew node probeId => ([], s.setNode node (Switch.withProbeId probeId))

/-! ### What one act does -/

section Takes

omit [DecidableEq ν]

variable {s : Switch} {port : PortId} {bytes : List UInt8} {now : Instant}

theorem takes_of_parse {frame : EthernetFrame} (h : EthernetFrame.parse bytes = .ok frame) :
    takes s port bytes now =
      (delivered (s.forward port frame now).1, (s.forward port frame now).2) := by
  rw [takes, h]

theorem takes_of_error {e : ParseError} (h : EthernetFrame.parse bytes = .error e) :
    takes s port bytes now = ([], s) := by
  rw [takes, h]

/-- What a switch sends out is what `forward` delivers. -/
theorem mem_takes {d : Delivery} (h : d ∈ (takes s port bytes now).1) :
    ∃ frame ds, EthernetFrame.parse bytes = .ok frame ∧ (s.forward port frame now).1 = .ok ds ∧
      d ∈ ds := by
  rcases hparse : EthernetFrame.parse bytes with e | frame
  · rw [takes_of_error hparse] at h
    exact absurd h List.not_mem_nil
  · rw [takes_of_parse hparse] at h
    rcases hds : (s.forward port frame now).1 with e | ds
    · rw [hds] at h
      exact absurd h List.not_mem_nil
    · rw [hds] at h
      exact ⟨frame, ds, rfl, hds, h⟩

/-- The switch forwards a frame, or is left as it was. -/
theorem takes_snd (s : Switch) (port : PortId) (bytes : List UInt8) (now : Instant) :
    (takes s port bytes now).2 = s ∨ ∃ frame, EthernetFrame.parse bytes = .ok frame ∧
      (takes s port bytes now).2 = (s.forward port frame now).2 := by
  rcases hparse : EthernetFrame.parse bytes with e | frame
  · rw [takes_of_error hparse]
    exact Or.inl rfl
  · rw [takes_of_parse hparse]
    exact Or.inr ⟨frame, rfl, rfl⟩

end Takes

variable {w}

section

omit [DecidableEq ν]

theorem mem_outgoing {node : ν} {ds : List Delivery} {item : Socket ν × List UInt8} :
    item ∈ ds.filterMap (outgoing w node) ↔
      ∃ d ∈ ds, w.mate (node, d.port) = some item.1 ∧ item.2 = d.bytes := by
  rw [List.mem_filterMap]
  constructor
  · rintro ⟨d, hd, hitem⟩
    obtain ⟨b, hmate, rfl⟩ := Option.map_eq_some_iff.mp hitem
    exact ⟨d, hd, hmate, rfl⟩
  · rintro ⟨d, hd, hmate, hbytes⟩
    refine ⟨d, hd, ?_⟩
    rw [outgoing, hmate, Option.map_some, ← hbytes]

theorem mem_leaving {event : Socket ν → List UInt8 → Event ν} {node : ν} {ds : List Delivery}
    {e : Event ν} :
    e ∈ ds.filterMap (leaving w event node) ↔
      ∃ d ∈ ds, w.mate (node, d.port) = none ∧ e = event (node, d.port) d.bytes := by
  rw [List.mem_filterMap]
  constructor
  · rintro ⟨d, hd, he⟩
    rw [leaving] at he
    split at he
    · next hmate => exact ⟨d, hd, hmate, (Option.some.inj he).symm⟩
    · cases he
  · rintro ⟨d, hd, hmate, rfl⟩
    exact ⟨d, hd, if_pos hmate⟩

end

theorem arrive_of_mem {s : Network ν} {socket : Socket ν} {bytes : List UInt8} {now : Instant}
    (h : (socket, bytes) ∈ s.flight) :
    arrive w s socket bytes now =
      ((takes (s.nodes socket.1) socket.2 bytes now).1.filterMap (leaving w .handed socket.1),
        { nodes := Function.update s.nodes socket.1 (takes (s.nodes socket.1) socket.2 bytes now).2
          flight := s.flight.erase (socket, bytes) +
            ((takes (s.nodes socket.1) socket.2 bytes now).1.filterMap
              (outgoing w socket.1) :) }) :=
  if_pos h

theorem arrive_of_notMem {s : Network ν} {socket : Socket ν} {bytes : List UInt8} {now : Instant}
    (h : (socket, bytes) ∉ s.flight) : arrive w s socket bytes now = ([], s) :=
  if_neg h

/-- **What becomes of a switch**: nothing, or an operation is done on it, or it forwards a
frame it took, or it starts anew. -/
theorem nodes_next (s : Network ν) (act : Act ν) (n : ν) :
    ((networkMachine w).next s act).nodes n = s.nodes n ∨
      (∃ op, act = .manage n op ∧
        ((networkMachine w).next s act).nodes n = machine.next (s.nodes n) op) ∨
      (∃ port bytes now frame, act = .arrive (n, port) bytes now ∧ ((n, port), bytes) ∈ s.flight ∧
        EthernetFrame.parse bytes = .ok frame ∧
        ((networkMachine w).next s act).nodes n = ((s.nodes n).forward port frame now).2) ∨
      ∃ probeId, act = .renew n probeId ∧
        ((networkMachine w).next s act).nodes n = Switch.withProbeId probeId := by
  cases act with
  | inject socket bytes =>
    refine Or.inl ?_
    change (inject w s socket bytes).nodes n = s.nodes n
    rw [inject]
    split <;> rfl
  | arrive socket bytes now =>
    obtain ⟨node, port⟩ := socket
    change (arrive w s (node, port) bytes now).2.nodes n = s.nodes n ∨ _ ∨ _ ∨ _
    by_cases hmem : ((node, port), bytes) ∈ s.flight
    · by_cases hn : n = node
      · obtain rfl := hn
        have hnext : (arrive w s (n, port) bytes now).2.nodes n =
            (takes (s.nodes n) port bytes now).2 := by
          rw [arrive_of_mem hmem]
          exact Function.update_self ..
        rcases takes_snd (s.nodes n) port bytes now with
          hsame | ⟨frame, hparse, hforward⟩
        · exact Or.inl (hnext.trans hsame)
        · exact Or.inr (Or.inr (Or.inl
            ⟨port, bytes, now, frame, rfl, hmem, hparse, hnext.trans hforward⟩))
      · rw [arrive_of_mem hmem]
        exact Or.inl (Function.update_of_ne hn ..)
    · rw [arrive_of_notMem hmem]
      exact Or.inl rfl
  | lose socket bytes => exact Or.inl rfl
  | tick node ports => exact Or.inl rfl
  | manage node op =>
    by_cases hn : n = node
    · obtain rfl := hn
      exact Or.inr (Or.inl ⟨op, rfl, Function.update_self ..⟩)
    · exact Or.inl (Function.update_of_ne hn ..)
  | renew node probeId =>
    by_cases hn : n = node
    · obtain rfl := hn
      exact Or.inr (Or.inr (Or.inr ⟨probeId, rfl, Function.update_self ..⟩))
    · exact Or.inl (Function.update_of_ne hn ..)

/-- **Where what is in flight comes from**: it was in flight, or a host has just sent it
in, or a switch sent it out, for a frame it took or as its probe. -/
theorem mem_flight_next {s : Network ν} {act : Act ν} {socket : Socket ν} {bytes : List UInt8}
    (h : (socket, bytes) ∈ ((networkMachine w).next s act).flight) :
    (socket, bytes) ∈ s.flight ∨
      (act = .inject socket bytes ∧ w.mate socket = none) ∨
      (∃ src bytes' now d, act = .arrive src bytes' now ∧ (src, bytes') ∈ s.flight ∧
        d ∈ (takes (s.nodes src.1) src.2 bytes' now).1 ∧
        w.mate (src.1, d.port) = some socket ∧ bytes = d.bytes) ∨
      ∃ node ports port, act = .tick node ports ∧ port ∈ ports ∧
        w.mate (node, port) = some socket ∧ bytes = (s.nodes node).buildLoopProbe := by
  cases act with
  | inject dst bytes' =>
    have h' : (socket, bytes) ∈ (inject w s dst bytes').flight := h
    rw [inject] at h'
    split at h'
    · next hmate =>
      rcases Multiset.mem_cons.mp h' with heq | hmem
      · obtain ⟨rfl, rfl⟩ := Prod.mk.inj heq
        exact Or.inr (Or.inl ⟨rfl, hmate⟩)
      · exact Or.inl hmem
    · exact Or.inl h'
  | arrive src bytes' now =>
    have h' : (socket, bytes) ∈ (arrive w s src bytes' now).2.flight := h
    by_cases hmem : (src, bytes') ∈ s.flight
    · rw [arrive_of_mem hmem] at h'
      rcases Multiset.mem_add.mp h' with hold | hnew
      · exact Or.inl (Multiset.mem_of_mem_erase hold)
      · obtain ⟨d, hd, hmate, hbytes⟩ := mem_outgoing.mp (Multiset.mem_coe.mp hnew)
        exact Or.inr (Or.inr (Or.inl ⟨src, bytes', now, d, rfl, hmem, hd, hmate, hbytes⟩))
    · rw [arrive_of_notMem hmem] at h'
      exact Or.inl h'
  | lose dst bytes' =>
    have h' : (socket, bytes) ∈ s.flight.erase (dst, bytes') := h
    exact Or.inl (Multiset.mem_of_mem_erase h')
  | tick node ports =>
    have h' : (socket, bytes) ∈
        s.flight + ((probes (s.nodes node) ports).filterMap (outgoing w node) :) := h
    rcases Multiset.mem_add.mp h' with hold | hnew
    · exact Or.inl hold
    · obtain ⟨d, hd, hmate, hbytes⟩ := mem_outgoing.mp (Multiset.mem_coe.mp hnew)
      obtain ⟨port, hport, rfl⟩ := List.mem_map.mp hd
      exact Or.inr (Or.inr (Or.inr ⟨node, ports, port, rfl, hport, hmate, hbytes⟩))
  | manage node op => exact Or.inl h
  | renew node probeId => exact Or.inl h

/-- **What is handed to a host** is what a switch has sent out, for a frame it took. -/
theorem mem_out {s : Network ν} {act : Act ν} {socket : Socket ν} {bytes : List UInt8}
    (h : .handed socket bytes ∈ (networkMachine w).out s act) :
    ∃ port bytes' now d, act = .arrive (socket.1, port) bytes' now ∧
      ((socket.1, port), bytes') ∈ s.flight ∧
      d ∈ (takes (s.nodes socket.1) port bytes' now).1 ∧ w.mate socket = none ∧
      socket.2 = d.port ∧ bytes = d.bytes := by
  cases act with
  | arrive src bytes' now =>
    have h' : .handed socket bytes ∈ (arrive w s src bytes' now).1 := h
    by_cases hmem : (src, bytes') ∈ s.flight
    · rw [arrive_of_mem hmem] at h'
      obtain ⟨d, hd, hmate, heq⟩ := mem_leaving.mp h'
      obtain ⟨rfl, rfl⟩ := Event.handed.inj heq
      exact ⟨src.2, bytes', now, d, rfl, hmem, hd, hmate, rfl, rfl⟩
    · rw [arrive_of_notMem hmem] at h'
      exact absurd h' List.not_mem_nil
  | tick node ports =>
    -- a probe does not count as handed over
    obtain ⟨d, -, -, heq⟩ := mem_leaving.mp h
    cases heq
  | _ => exact absurd h List.not_mem_nil

/-- The two switches are set up: an access port each, of VLAN 10, and the trunk. -/
def pairSetUp : List (Act Bool) :=
  [.manage false (.addPort ⟨1⟩ (.access 10)), .manage false (.addPort ⟨2⟩ (.trunk none {10, 20})),
    .manage true (.addPort ⟨5⟩ (.trunk none {10, 20})), .manage true (.addPort ⟨6⟩ (.access 10))]

end Network

end VlanSwitch
