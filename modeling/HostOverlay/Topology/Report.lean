import HostOverlay.Journal.Event
import HostOverlay.Topology.Resolution

/-!
# Reports of a resolution

What is reported while the driver is chosen and the local topology resolved, in the order in which
it is reported. A resolution that an obstacle stops has reported the stages that it completed.
-/

namespace HostOverlay

/-- What the choice of the driver's candidates reports: nothing if there is one service of the
driver kind. -/
def selectionEvents (settings : Settings) (services : List Service) : List Event :=
  let uuids := (drivers settings services).map Service.uuid
  if uuids.length = 1 then [] else [.driversByName settings.driverServiceName uuids]

namespace Resolution

/-- The complaint about a number of candidates other than one. -/
def complaint (resolution : Resolution) : List Event :=
  if resolution.outcome = .ok then [] else [.driverCountWrong resolution.candidates.length]

/-- What a resolution reports once its candidates are chosen. -/
def candidateEvents (resolution : Resolution) : List Event :=
  [.candidatesChosen (resolution.candidates.map Service.uuid)] ++ resolution.complaint

/-- What a resolution reports once it is complete. -/
def topologyEvent (resolution : Resolution) : Event :=
  .topologyResolved (resolution.networks.map Network.uuid)
    (Table.mapValues Container.uuid resolution.routers)

end Resolution

/-- Everything that the resolution of a snapshot reports. -/
def Snapshot.events (snapshot : Snapshot) (settings : Settings) : List Event :=
  let passed (stage : Stage) (events : List Event) : List Event :=
    if stage.isPassed (snapshot.obstacle? settings) then events else []
  passed .drivers (selectionEvents settings snapshot.services)
    ++ passed .candidates (snapshot.resolution settings).candidateEvents
    ++ passed .routers [(snapshot.resolution settings).topologyEvent]

end HostOverlay
