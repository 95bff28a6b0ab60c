import HostOverlay.Tree.Printer

/-!
# Events

An event is something that the agent reports: its level, the part of the agent that reports it,
and a message.
-/

namespace HostOverlay

/-- How grave an event is. -/
inductive Level where
  /-- Of interest to someone who follows the agent's work. -/
  | debug
  /-- Something is wrong. -/
  | error
deriving DecidableEq, Repr

/-- The written name of a level. -/
def Level.label : Level → String
  | debug => "DEBUG"
  | error => "ERROR"

/-- The part of the agent that reports an event. -/
inductive Reporter where
  /-- The resolution of the local topology. -/
  | topology
  /-- The inspection of network interfaces. -/
  | interfaces
  /-- The fetching of snapshots. -/
  | resolver
deriving DecidableEq, Repr

/-- The written name of a reporter. -/
def Reporter.label : Reporter → String
  | topology => "cniagent.network.topology"
  | interfaces => "cniagent.network.interfaces"
  | resolver => "cniagent.metadata.resolver"

/-- Something that the agent reports. -/
inductive Event where
  /-- The services of the driver kind were none or several, so their name decides. -/
  | driversByName (name : Tree) (uuids : List Tree)
  /-- The candidates for the driver were chosen. -/
  | candidatesChosen (uuids : List Tree)
  /-- The number of candidates is not one. -/
  | driverCountWrong (count : Nat)
  /-- The local networks were found, and the routers, each under its network. -/
  | topologyResolved (networks : List Tree) (routers : Table Tree Tree)
  /-- A snapshot was fetched. -/
  | snapshotFetched (networks services : Nat) (host : Tree)
  /-- A subnet could not be read. -/
  | subnetRejected (subnet : String)
deriving Inhabited

namespace Event

/-- How grave the event is. -/
def level : Event → Level
  | driverCountWrong _ => .error
  | subnetRejected _ => .error
  | driversByName .. | candidatesChosen _ | topologyResolved .. | snapshotFetched .. => .debug

/-- The part of the agent that reports the event. -/
def reporter : Event → Reporter
  | snapshotFetched .. => .resolver
  | subnetRejected _ => .interfaces
  | driversByName .. | candidatesChosen _ | driverCountWrong _ | topologyResolved .. => .topology

/-- The message of the event. -/
def message : Event → String
  | driversByName name uuids =>
    "Found " ++ toString uuids.length ++ " network driver services, filtering by name '"
      ++ name.shown ++ "': " ++ Tree.writtenList uuids
  | candidatesChosen uuids => "Network driver services: " ++ Tree.writtenList uuids
  | driverCountWrong count =>
    "Expected one network driver service, but found: " ++ toString count
  | topologyResolved networks routers =>
    "Local networks: " ++ Tree.writtenList networks ++ ", routers: " ++ Tree.writtenTable routers
  | snapshotFetched networks services host =>
    "Fetched " ++ toString networks ++ " networks and " ++ toString services
      ++ " services for host " ++ host.shown
  | subnetRejected subnet => "Error parsing subnet: " ++ subnet

end Event

end HostOverlay
