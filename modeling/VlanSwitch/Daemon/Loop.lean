import VlanSwitch.Switch.Run

/-!
# The daemon's loop

The daemon owns a switch and, for each of its ports, a handle on the device behind it.
One task updates both: it spawns ports at start-up (`VlanSwitch.Daemon.startUp`), feeds
what the ports report to the switch (`VlanSwitch.Daemon.handleFrameEvent`), sweeps the
learned table, and on a signal replaces everything by what a configuration says
(`VlanSwitch.Daemon.reload`). The operating system is not modelled: what it answers
when a device is opened and asked for its name is a `VlanSwitch.Tap`, which is
arbitrary. Of a handle only its key is kept, the channels and tasks behind it being of
no consequence to the tables.
-/

namespace VlanSwitch

/-- How long a learned entry lives, in nanoseconds. -/
def macMaxAge : Duration := 300 * 10 ^ 9

/-- A port as it is asked for: the name of its device, and its mode. -/
structure Spec where
  name : String
  mode : PortMode
  deriving DecidableEq

/-- What the operating system answers when a port is spawned. -/
structure Tap where
  /-- `TapPort::open` succeeds. -/
  opened : Bool
  /-- `tap.name()` succeeds, on a device that was opened. -/
  named : Bool
  deriving DecidableEq, Repr

/-- Why a port was not spawned. -/
inductive SpawnError where
  | openFailed
  | nameFailed
  deriving DecidableEq, Repr

/-- There is no port number left. -/
inductive AllocError where
  | tooManyPorts
  deriving DecidableEq, Repr

/-- Something that happened on a port. -/
inductive PortEvent where
  /-- A frame arrived. -/
  | frame (bytes : List UInt8)
  /-- The device closed or failed. -/
  | down
  deriving DecidableEq, Repr

/-- Opens the device, registers `port` with the switch, and asks the device for its
name: the result, and the switch afterwards. -/
def spawnPort (port : PortId) (mode : PortMode) (switch : Switch) (tap : Tap) :
    Except SpawnError Unit × Switch :=
  if ¬tap.opened then (.error .openFailed, switch)
  else
    let switch := switch.addPort port mode
    -- the name is only printed, but the port is registered by now
    if ¬tap.named then (.error .nameFailed, switch)
    else (.ok (), switch)

/-- The next port number to hand out. -/
structure PortIdAllocator where
  id : UInt32
  deriving DecidableEq, Repr

/-- Hands out a number, unless there is none after it. -/
def PortIdAllocator.next (a : PortIdAllocator) : Except AllocError (PortId × PortIdAllocator) :=
  if a.id = 0xFFFFFFFF then .error .tooManyPorts
  else .ok (⟨a.id⟩, ⟨a.id + 1⟩)

/-- The state of the loop: the switch, the ports with a handle, the port numbers. -/
structure Daemon where
  switch : Switch
  handles : Finset PortId
  portIds : PortIdAllocator
  deriving DecidableEq

/-- What a reload finds when it reads the configuration. -/
inductive Load where
  /-- There is no path to read it from. -/
  | noPath
  /-- It cannot be read, or is not valid. -/
  | failed
  /-- The ports it asks for, with what the operating system will answer for each, and
  the probe id the new switch will draw. -/
  | loaded (probeId : UInt64) (specs : List (Spec × Tap))
  deriving DecidableEq

namespace Daemon

/-- Spawns ports at start-up: the first failure ends it. -/
def spawnAll (d : Daemon) : List (Spec × Tap) → Except (AllocError ⊕ SpawnError) Daemon
  | [] => .ok d
  | (spec, tap) :: specs =>
    match d.portIds.next with
    | .error e => .error (.inl e)
    | .ok (port, portIds) =>
      match spawnPort port spec.mode d.switch tap with
      | (.error e, _) => .error (.inr e)
      | (.ok (), switch) => spawnAll { switch, handles := insert port d.handles, portIds } specs

/-- Start-up: the state the loop begins in, or why the process ends before that. -/
def startUp (probeId : UInt64) (specs : List (Spec × Tap)) :
    Except (AllocError ⊕ SpawnError) Daemon :=
  spawnAll { switch := Switch.withProbeId probeId, handles := ∅, portIds := ⟨0⟩ } specs

/-- Hands a delivery to its port's writer, if the port has a handle. -/
def deliver (d : Daemon) (delivery : Delivery) : Option Delivery :=
  if delivery.port ∈ d.handles then some delivery else none

/-- What the loop hands to the writers when its probe is due: the probe of the switch, on
every port with a handle. -/
def loopProbes (d : Daemon) : List Delivery :=
  d.handles.sortedList.map fun port => ⟨port, d.switch.buildLoopProbe⟩

/-- One event of a port: what is handed to the writers, and the state afterwards. -/
def handleFrameEvent (d : Daemon) (ingress : PortId) (event : PortEvent) (now : Instant) :
    List Delivery × Daemon :=
  match event with
  | .down =>
    ([], { d with switch := d.switch.removePort ingress, handles := d.handles.erase ingress })
  | .frame bytes =>
    match EthernetFrame.parse bytes with
    | .error _ => ([], d)
    | .ok frame =>
      match d.switch.forward ingress frame now with
      | (.error _, switch) => ([], { d with switch })
      | (.ok deliveries, switch) => (deliveries.filterMap d.deliver, { d with switch })

/-- Spawns ports in a reload: a failure is logged, and the next port tried. -/
def respawnAll (d : Daemon) : List (Spec × Tap) → Daemon
  | [] => d
  | (spec, tap) :: specs =>
    match d.portIds.next with
    | .error _ => d
    | .ok (port, portIds) =>
      match spawnPort port spec.mode d.switch tap with
      | (.ok (), switch) => respawnAll { switch, handles := insert port d.handles, portIds } specs
      | (.error _, switch) => respawnAll { d with switch, portIds } specs

/-- A reload: nothing happens unless a configuration was read, and then every port is
torn down and the switch replaced before the new ones are spawned. -/
def reload (d : Daemon) (load : Load) : Daemon :=
  match load with
  | .noPath => d
  | .failed => d
  | .loaded probeId specs =>
    respawnAll { d with switch := Switch.withProbeId probeId, handles := ∅ } specs

end Daemon

/-- What wakes the loop up. -/
inductive Wake where
  | event (ingress : PortId) (event : PortEvent) (now : Instant)
  | sighup (load : Load)
  | ageSweep (now : Instant)
  deriving DecidableEq

/-- **The loop, as a machine**: what each turn hands to the writers, and the state
afterwards. The loop's other turns read the state only. -/
def daemonMachine : Machine Daemon Wake (List Delivery) where
  step d
    | .event ingress event now => d.handleFrameEvent ingress event now
    | .sighup load => ([], d.reload load)
    | .ageSweep now => ([], { d with switch := (d.switch.ageOut macMaxAge now).2 })

end VlanSwitch
