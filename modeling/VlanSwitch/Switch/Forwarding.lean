import VlanSwitch.Switch.LoopGuard
import VlanSwitch.Switch.MacTable

/-!
# The switch core

The state of a switch (`VlanSwitch.Switch`) and what can be done to it: adding,
removing, blocking and unblocking a port, ageing the learned table, and
`VlanSwitch.Switch.forward`, which learns where a frame came from and decides where
it goes. Everything is a function on the state; `forward` also returns the frames to
send, each encoded for the port it leaves through, or an error.

Counters are exact natural numbers: the source counts in 64 bits.
-/

namespace VlanSwitch

/-- The broadcast address. -/
def broadcast : Mac := List.Vector.replicate 6 0xFF

/-- The I/G bit marks a multicast or broadcast address. -/
def isGroupAddress (mac : Mac) : Prop := mac.head &&& 0x01 ≠ 0

instance (mac : Mac) : Decidable (isGroupAddress mac) := inferInstanceAs (Decidable (_ ≠ _))

/-- A frame ready for a port's writer, encoded as the port's mode requires. -/
structure Delivery where
  port : PortId
  bytes : List UInt8
  deriving DecidableEq, Repr

/-- A port's membership, and whether the loop guard has shut it down. -/
structure PortEntry where
  mode : PortMode
  blocked : Bool
  deriving DecidableEq

/-- The counters of a port or of a VLAN. -/
structure Counters where
  framesIn : ℕ := 0
  bytesIn : ℕ := 0
  framesOut : ℕ := 0
  bytesOut : ℕ := 0
  /-- Frames rejected at ingress. -/
  drops : ℕ := 0
  deriving DecidableEq, Repr

instance : Inhabited Counters := ⟨{}⟩

namespace Counters

/-- One more frame in, of `len` bytes. -/
def addIn (c : Counters) (len : ℕ) : Counters :=
  { c with framesIn := c.framesIn + 1, bytesIn := c.bytesIn + len }

/-- One more frame out, of `len` bytes. -/
def addOut (c : Counters) (len : ℕ) : Counters :=
  { c with framesOut := c.framesOut + 1, bytesOut := c.bytesOut + len }

/-- One more frame rejected. -/
def addDrop (c : Counters) : Counters := { c with drops := c.drops + 1 }

end Counters

/-- Why a frame was rejected. -/
inductive SwitchError where
  | unknownPort (port : PortId)
  | vlanNotAllowedOnTrunk (port : PortId) (vlan : Vlan)
  | untaggedFrameOnTrunkWithoutNative (port : PortId)
  | taggedFrameOnAccessPort (port : PortId)
  | portBlocked (port : PortId)
  deriving DecidableEq, Repr

/-- The state of a switch. -/
structure Switch where
  ports : Finmap fun _ : PortId => PortEntry
  macTable : MacTable
  portCounters : Finmap fun _ : PortId => Counters
  vlanCounters : Finmap fun _ : Vlan => Counters
  probeId : UInt64
  deriving DecidableEq

/-- What `forward` returns. -/
abbrev ForwardResult := Except SwitchError (List Delivery)

namespace Switch

/-- A switch without ports. -/
def withProbeId (probeId : UInt64) : Switch where
  ports := ∅
  macTable := MacTable.empty
  portCounters := ∅
  vlanCounters := ∅
  probeId := probeId

/-- Registers `port` in `mode`, unblocked, and forgets what was learned on it. -/
def addPort (s : Switch) (port : PortId) (mode : PortMode) : Switch :=
  { s with
    macTable := s.macTable.removePort port
    ports := s.ports.insert port { mode, blocked := false } }

/-- Deregisters `port`, and forgets its entries and its counters. -/
def removePort (s : Switch) (port : PortId) : Switch :=
  { s with
    ports := s.ports.erase port
    macTable := s.macTable.removePort port
    portCounters := s.portCounters.erase port }

/-- Forgets what was not relearned within `maxAge`: how many entries, and the switch
afterwards. -/
def ageOut (s : Switch) (maxAge : Duration) (now : Instant) : ℕ × Switch :=
  let (evicted, macTable) := s.macTable.evictOlderThan maxAge now
  (evicted, { s with macTable })

/-- Whether the loop guard has shut `port` down. -/
def isBlocked (s : Switch) (port : PortId) : Bool :=
  match s.ports.lookup port with
  | some entry => entry.blocked
  | none => false

/-- Shuts `port` down, and forgets what was learned on it. -/
def blockPort (s : Switch) (port : PortId) : Switch :=
  { s with
    ports := s.ports.getMut port fun entry => { entry with blocked := true }
    macTable := s.macTable.removePort port }

/-- Reverses `blockPort`. -/
def unblockPort (s : Switch) (port : PortId) : Switch :=
  { s with ports := s.ports.getMut port fun entry => { entry with blocked := false } }

/-- The switch's probe, ready to send out of every port. -/
def buildLoopProbe (s : Switch) : List UInt8 := LoopGuard.buildProbe s.probeId

/-! ### Forwarding -/

/-- The VLAN a frame arriving on `port` belongs to. -/
def ingressVlan (s : Switch) (port : PortId) (frame : EthernetFrame) : Except SwitchError Vlan :=
  match s.ports.lookup port with
  | none => .error (.unknownPort port)
  | some entry =>
    match entry.mode, frame.tag with
    -- even a tag with the port's own VLAN is refused
    | .access _, some _ => .error (.taggedFrameOnAccessPort port)
    | .trunk native allowed, some tag =>
      if tag.vid ∈ allowed ∨ native = some tag.vid then .ok tag.vid
      else .error (.vlanNotAllowedOnTrunk port tag.vid)
    | .access vlan, none => .ok vlan
    | .trunk (some vlan) _, none => .ok vlan
    | .trunk none _, none => .error (.untaggedFrameOnTrunkWithoutNative port)

/-- The tag a frame of `vlan` leaves a port of `mode` with. The priority bits are
those it came with, if it came with a tag. -/
def egressTag (mode : PortMode) (vlan : Vlan) (frame : EthernetFrame) : Option Dot1qTag :=
  match mode with
  | .access _ => none
  | .trunk native _ =>
    if native = some vlan then none
    else some
      { pcp := (frame.tag.map fun t => t.pcp).getD 0
        dei := (frame.tag.map fun t => t.dei).getD false
        vid := vlan }

/-- The frame as `port` should put it on the wire, or nothing: if `port` is not
registered, if it is blocked, or if the frame cannot be written. -/
def encodeForEgress (s : Switch) (port : PortId) (vlan : Vlan) (frame : EthernetFrame) :
    Option Delivery :=
  match s.ports.lookup port with
  | none => none
  | some egress =>
    -- a blocked port is refused here too, for what was learned on it
    if egress.blocked then none
    else
      match { frame with tag := egressTag egress.mode vlan frame }.writeInto [] with
      | (.ok (), bytes) => some { port, bytes }
      | (.error _, _) => none

/-- The unblocked ports that carry `vlan`, but `exclude`, in ascending order. -/
def floodTargets (s : Switch) (vlan : Vlan) (exclude : PortId) : List PortId :=
  (s.ports.keys.filter fun port => port ≠ exclude ∧
    (s.ports.lookup port).any fun entry => ¬entry.blocked ∧ entry.mode.carries vlan).sortedList

/-- Counts a rejected frame. -/
def countDrop (s : Switch) (ingress : PortId) : Switch :=
  { s with portCounters := s.portCounters.entryOrDefault ingress Counters.addDrop }

/-- Counts an accepted frame of `len` bytes, for its port and for its VLAN. -/
def countIn (s : Switch) (ingress : PortId) (vlan : Vlan) (len : ℕ) : Switch :=
  { s with
    portCounters := s.portCounters.entryOrDefault ingress fun c => c.addIn len
    vlanCounters := s.vlanCounters.entryOrDefault vlan fun c => c.addIn len }

/-- Counts a delivery of `vlan`, for its port and for the VLAN. -/
def countOut (s : Switch) (vlan : Vlan) (d : Delivery) : Switch :=
  { s with
    portCounters := s.portCounters.entryOrDefault d.port fun c => c.addOut d.bytes.length
    vlanCounters := s.vlanCounters.entryOrDefault vlan fun c => c.addOut d.bytes.length }

/-- Learns the source of a frame, unless it is a group address. -/
def learnSource (s : Switch) (vlan : Vlan) (frame : EthernetFrame) (ingress : PortId)
    (now : Instant) : Switch :=
  if isGroupAddress frame.src then s
  else { s with macTable := s.macTable.learn vlan frame.src ingress now }

/-- The ports a frame of `vlan` goes to. -/
def egressPorts (s : Switch) (ingress : PortId) (vlan : Vlan) (frame : EthernetFrame) :
    List PortId :=
  if frame.dst = broadcast then s.floodTargets vlan ingress
  else
    match s.macTable.lookup vlan frame.dst with
    -- membership is not checked: a learned port is taken to carry the VLAN
    | some egress => if egress = ingress then [] else [egress]
    | none => s.floodTargets vlan ingress

/-- A probe is never resolved, learned, counted or forwarded; the switch's own blocks
the port it came in on. -/
def handleLoopProbe (s : Switch) (ingress : PortId) (frame : EthernetFrame) :
    ForwardResult × Switch :=
  if ingress ∉ s.ports then (.error (.unknownPort ingress), s)
  else if LoopGuard.isOwnProbe frame s.probeId then (.ok [], s.blockPort ingress)
  else (.ok [], s)

/-- **Forwarding**: what is to be sent, or why nothing is, and the switch afterwards. -/
def forward (s : Switch) (ingress : PortId) (frame : EthernetFrame) (now : Instant) :
    ForwardResult × Switch :=
  -- probes are handled first, on blocked ports too
  if LoopGuard.isAnyProbe frame then s.handleLoopProbe ingress frame
  else
    match s.ports.lookup ingress with
    | none => (.error (.unknownPort ingress), s)
    | some entry =>
      if entry.blocked then (.error (.portBlocked ingress), s.countDrop ingress)
      else
        match s.ingressVlan ingress frame with
        | .error e => (.error e, s.countDrop ingress)
        | .ok vlan =>
          let s := s.countIn ingress vlan frame.wireLen
          -- the source is learned before the destination is looked up
          let s := s.learnSource vlan frame ingress now
          let targets := s.egressPorts ingress vlan frame
          let deliveries := targets.filterMap fun port => s.encodeForEgress port vlan frame
          (.ok deliveries, deliveries.foldl (fun s d => s.countOut vlan d) s)

/-! ### Reading the state -/

/-- The mode of a registered port. -/
def portMode (s : Switch) (port : PortId) : Option PortMode :=
  (s.ports.lookup port).map fun entry => entry.mode

/-- The counters of a port, all zero if it has seen no traffic. -/
def portCounter (s : Switch) (port : PortId) : Counters := s.portCounters.getOrDefault port

/-- The counters of a VLAN, all zero if it has seen no traffic. -/
def vlanCounter (s : Switch) (vlan : Vlan) : Counters := s.vlanCounters.getOrDefault vlan

end Switch

end VlanSwitch
