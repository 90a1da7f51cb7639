import VlanSwitch.Switch.Decision
import VlanSwitch.Switch.Noninterference
import VlanSwitch.Switch.Quarantine
import VlanSwitch.Switch.Probe
import VlanSwitch.Switch.Accounting
import VlanSwitch.Switch.Storm
import VlanSwitch.Switch.Chain
import VlanSwitch.Daemon.Tables
import VlanSwitch.Frame.Codec
import VlanSwitch.Lib.Reordering
import VlanSwitch.Switch.Interleaving
import VlanSwitch.Switch.Rejection
import VlanSwitch.Daemon.Stale
import VlanSwitch.Daemon.Config
import VlanSwitch.Daemon.PortSpec
import VlanSwitch.Daemon.FrontEnds
import VlanSwitch.Dashboard.Request
import VlanSwitch.Lib.Json
import VlanSwitch.Dashboard.Render
import VlanSwitch.Daemon.Process
import VlanSwitch.Daemon.Lines
import VlanSwitch.Daemon.Queues
import VlanSwitch.Daemon.Refinement
import VlanSwitch.Daemon.EndToEnd
import VlanSwitch.Switch.Recovery
import VlanSwitch.Network.Isolation
import VlanSwitch.Network.Alarm
import VlanSwitch.Network.Tree
import VlanSwitch.Network.Delivery
import VlanSwitch.Network.Flood
import VlanSwitch.Dashboard.Http
import VlanSwitch.Network.Homing
import VlanSwitch.Network.Circuit
import VlanSwitch.Lib.Renaming
import VlanSwitch.Switch.Renaming
import VlanSwitch.Daemon.Restart
import VlanSwitch.Daemon.Freshness
import VlanSwitch.Daemon.CommandLine
import VlanSwitch.Dashboard.Readings
import VlanSwitch.Daemon.Backlog
