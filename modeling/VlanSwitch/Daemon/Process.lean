import VlanSwitch.Daemon.Loop
import VlanSwitch.Dashboard.Render
import VlanSwitch.Lib.Channel
import VlanSwitch.Lib.History

/-!
# The process around the loop

The loop does not read or write a device itself. Each port has a task that reads its
device and one that writes it, and between these tasks and the loop there are channels:
one for what all the readers report, unbounded and taken from in order, and for each
port one of depth `VlanSwitch.outboundQueueDepth` for what is to be written. A port that
reports that it is down loses its handle, and with it the sending end of its queue; its
writer then sends what is left in the queue and ends. A reload is not that patient: it
aborts both tasks of every port that has a handle, and waits for them.

`VlanSwitch.processMachine` is all of this as one machine, a move of which is a step of
one task, in whatever order the scheduler and the devices bring them about. A move that
its task cannot make in the state at hand does nothing. What a move does to the world,
and what is worth remembering of it, is its effect (`VlanSwitch.Happening`).
-/

namespace VlanSwitch

/-- How many frames wait for a port's writer at most. -/
def outboundQueueDepth : ℕ := 256

/-- The size of the buffer a frame is read into. -/
def maxFrameLen : ℕ := 65536

/-- An error of the operating system. What it says is only logged. -/
inductive IoError where
  | failed
  deriving DecidableEq, Repr

/-- Reads a frame off a device, as far as the buffer goes. -/
def TapPort.recv (answer : Except IoError (List UInt8)) : Except IoError (List UInt8) :=
  match answer with
  | .ok frame => .ok (frame.take maxFrameLen)
  | .error e => .error e

/-- What a reader reports when its device has answered, and whether it reads on. -/
def readerStep (answer : Except IoError (List UInt8)) : PortEvent × Bool :=
  match TapPort.recv answer with
  | .ok bytes => if bytes.isEmpty then (.down, false) else (.frame bytes, true)
  | .error _ => (.down, false)

/-- The tasks of a port. Each of them holds the device open as long as it runs. -/
structure Tasks where
  /-- The name of the device. -/
  name : String
  /-- The reader is running. -/
  reading : Bool
  /-- The writer is running. -/
  writing : Bool
  /-- What waits for the writer. -/
  outbound : Channel (List UInt8) outboundQueueDepth
  /-- What the writer took from its queue and is sending. -/
  hand : Option (List UInt8)
  deriving DecidableEq

/-- The tasks of a port as they are spawned. -/
def Tasks.spawned (name : String) : Tasks := ⟨name, true, true, .empty, none⟩

/-- A request for the counters: the channel its reply goes to. -/
abbrev Client := ℕ

/-- **The process**: the state of the loop, the tasks of the ports, and the channels
into the loop. -/
structure Process where
  daemon : Daemon
  tasks : Finmap fun _ : PortId => Tasks
  /-- What the readers reported, oldest first. -/
  events : List (PortId × PortEvent)
  /-- The requests for the counters, oldest first. -/
  requests : List Client
  deriving DecidableEq

/-- What a move does. -/
inductive Happening where
  /-- A reader put an event into the channel. -/
  | reported (port : PortId) (event : PortEvent)
  /-- The loop took an event from the channel. -/
  | handled (port : PortId) (event : PortEvent)
  /-- A frame was put into a port's queue. -/
  | queued (port : PortId) (bytes : List UInt8)
  /-- A frame was dropped, since the queue was full. -/
  | dropped (port : PortId) (bytes : List UInt8)
  /-- A writer gave a frame to its device, which answered with how much it took. -/
  | sent (port : PortId) (bytes : List UInt8) (answer : Except IoError ℕ)
  /-- A writer ended, its queue being empty and nobody left to send to it. -/
  | ended (port : PortId)
  | asked (client : Client)
  | replied (client : Client) (json : String)
  | dumped (lines : List String)
  deriving DecidableEq

/-- A step of one of the tasks. -/
inductive Move where
  /-- A device answers its reader. -/
  | reads (port : PortId) (answer : Except IoError (List UInt8))
  /-- A writer takes a frame from its queue. -/
  | takes (port : PortId)
  /-- A device answers its writer. -/
  | sends (port : PortId) (answer : Except IoError ℕ)
  /-- A writer finds that nothing will come any more. -/
  | ends (port : PortId)
  /-- The dashboard asks the loop for the counters. -/
  | asks (client : Client)
  /-- The loop takes an event. -/
  | handles (now : Instant)
  | sighup (load : Load)
  | sigusr1
  | ageSweep (now : Instant)
  | loopProbe
  /-- The loop takes a request for the counters. -/
  | answers
  deriving DecidableEq

namespace Process

/-! ### Offering frames to the writers -/

/-- Puts a frame into a port's queue, or drops it. -/
def trySend (tasks : Finmap fun _ : PortId => Tasks) (d : Delivery) :
    List Happening × Finmap fun _ : PortId => Tasks :=
  match tasks.lookup d.port with
  | none => ([], tasks)
  | some t =>
    match t.outbound.trySend d.bytes with
    | some outbound => ([.queued d.port d.bytes], tasks.insert d.port { t with outbound })
    | none => ([.dropped d.port d.bytes], tasks)

/-- Puts frames into the queues of their ports, one after the other. -/
def trySendAll (tasks : Finmap fun _ : PortId => Tasks) :
    List Delivery → List Happening × Finmap fun _ : PortId => Tasks
  | [] => ([], tasks)
  | d :: ds =>
    let (effects, tasks) := trySend tasks d
    let (effects', tasks) := trySendAll tasks ds
    (effects ++ effects', tasks)

/-! ### Spawning and tearing down -/

/-- Spawns ports at start-up, each with its tasks: the first failure ends it. -/
def spawnAll (s : Process) : List (Spec × Tap) → Except (AllocError ⊕ SpawnError) Process
  | [] => .ok s
  | (spec, tap) :: specs =>
    match s.daemon.portIds.next with
    | .error e => .error (.inl e)
    | .ok (port, portIds) =>
      match spawnPort port spec.mode s.daemon.switch tap with
      | (.error e, _) => .error (.inr e)
      | (.ok (), switch) =>
        spawnAll
          { s with
            daemon := { switch, handles := insert port s.daemon.handles, portIds }
            tasks := s.tasks.insert port (Tasks.spawned spec.name) } specs

/-- Spawns ports in a reload, each that succeeds with its tasks. -/
def respawnAll (s : Process) : List (Spec × Tap) → Process
  | [] => s
  | (spec, tap) :: specs =>
    match s.daemon.portIds.next with
    | .error _ => s
    | .ok (port, portIds) =>
      match spawnPort port spec.mode s.daemon.switch tap with
      | (.ok (), switch) =>
        respawnAll
          { s with
            daemon := { switch, handles := insert port s.daemon.handles, portIds }
            tasks := s.tasks.insert port (Tasks.spawned spec.name) } specs
      | (.error _, switch) =>
        respawnAll { s with daemon := { s.daemon with switch, portIds } } specs

/-- The tasks that are left when those of every port with a handle are aborted. -/
def teardown (s : Process) : Finmap fun _ : PortId => Tasks :=
  s.tasks.retain fun port _ => decide (port ∉ s.daemon.handles)

/-- A reload, with the tasks of the ports. -/
def reload (s : Process) (load : Load) : Process :=
  match load with
  | .noPath => s
  | .failed => s
  | .loaded probeId specs =>
    respawnAll
      { s with
        daemon := { s.daemon with switch := Switch.withProbeId probeId, handles := ∅ }
        tasks := s.teardown } specs

/-- The process when its loop begins, or why it ends before that. -/
def startUp (probeId : UInt64) (specs : List (Spec × Tap)) :
    Except (AllocError ⊕ SpawnError) Process :=
  spawnAll
    { daemon := { switch := Switch.withProbeId probeId, handles := ∅, portIds := ⟨0⟩ }
      tasks := ∅
      events := []
      requests := [] } specs

/-! ### The moves of the tasks -/

/-- A device answers its reader. -/
def reads (s : Process) (port : PortId) (answer : Except IoError (List UInt8)) :
    List Happening × Process :=
  match s.tasks.lookup port with
  | none => ([], s)
  | some t =>
    if t.reading then
      let (event, reading) := readerStep answer
      ([.reported port event],
        { s with
          tasks := s.tasks.insert port { t with reading }
          events := s.events ++ [(port, event)] })
    else ([], s)

/-- A writer that is not sending takes a frame from its queue. -/
def takes (s : Process) (port : PortId) : List Happening × Process :=
  match s.tasks.lookup port with
  | none => ([], s)
  | some t =>
    match t.hand, t.outbound.recv with
    | none, some (bytes, outbound) =>
      ([], { s with tasks := s.tasks.insert port { t with outbound, hand := some bytes } })
    | _, _ => ([], s)

/-- A device answers its writer. A short write and an error are logged, and the writer
carries on. -/
def sends (s : Process) (port : PortId) (answer : Except IoError ℕ) : List Happening × Process :=
  match s.tasks.lookup port with
  | none => ([], s)
  | some t =>
    match t.hand with
    | none => ([], s)
    | some bytes =>
      ([.sent port bytes answer],
        { s with tasks := s.tasks.insert port { t with hand := none } })

/-- A writer ends: it is sending nothing, its queue is empty, and the handle with the
sending end of the queue is gone. -/
def ends (s : Process) (port : PortId) : List Happening × Process :=
  match s.tasks.lookup port with
  | none => ([], s)
  | some t =>
    if t.writing ∧ t.hand = none ∧ t.outbound.recv = none ∧ port ∉ s.daemon.handles then
      ([.ended port], { s with tasks := s.tasks.insert port { t with writing := false } })
    else ([], s)

/-- The loop takes an event, and offers what comes of it to the writers. -/
def handles (s : Process) (now : Instant) : List Happening × Process :=
  match s.events with
  | [] => ([], s)
  | (ingress, event) :: events =>
    let (deliveries, daemon) := s.daemon.handleFrameEvent ingress event now
    let (effects, tasks) := trySendAll s.tasks deliveries
    (.handled ingress event :: effects, { s with daemon, tasks, events })

/-- The loop offers its probe to every writer it has a handle on. -/
def loopProbe (s : Process) : List Happening × Process :=
  let (effects, tasks) := trySendAll s.tasks s.daemon.loopProbes
  (effects, { s with tasks })

/-- The loop takes a request for the counters, and replies. -/
def answers (s : Process) : List Happening × Process :=
  match s.requests with
  | [] => ([], s)
  | client :: requests =>
    ([.replied client (renderCountersJson s.daemon.switch)], { s with requests })

end Process

/-- **The process, as a machine**: the effects of a move, and the state afterwards. -/
def processMachine : Machine Process Move (List Happening) where
  step s
    | .reads port answer => s.reads port answer
    | .takes port => s.takes port
    | .sends port answer => s.sends port answer
    | .ends port => s.ends port
    | .asks client => ([.asked client], { s with requests := s.requests ++ [client] })
    | .handles now => s.handles now
    | .sighup load => ([], s.reload load)
    | .sigusr1 => ([.dumped (dumpCounters s.daemon.switch)], s)
    | .ageSweep now =>
      ([], { s with daemon :=
        { s.daemon with switch := (s.daemon.switch.ageOut macMaxAge now).2 } })
    | .loopProbe => s.loopProbe
    | .answers => s.answers

end VlanSwitch
