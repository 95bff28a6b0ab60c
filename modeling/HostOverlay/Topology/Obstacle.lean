import HostOverlay.Topology.Snapshot

/-!
# Obstacles to a resolution

The parts of a snapshot may hold values of any kind, and they may lack fields. A resolution reads
the fields one after the other, and the first that it cannot read or use stops it. What it reports
and counts until then depends on how far it comes, so an obstacle tells the stage at which it is
met. A snapshot whose parts are valid has none.
-/

namespace HostOverlay

open Schema

/-- The stages of a resolution, in their order. -/
inductive Stage where
  /-- The services of the driver kind are found. -/
  | drivers
  /-- The candidates are told by name from the other services of that kind. -/
  | names
  /-- The candidates are listed. -/
  | candidates
  /-- The network service, the routers and the local networks are found. -/
  | topology
  /-- The routers are listed. -/
  | routers
deriving DecidableEq, Repr

/-- The place of a stage in the order of the stages. -/
def Stage.rank : Stage → Nat
  | drivers => 0
  | names => 1
  | candidates => 2
  | topology => 3
  | routers => 4

/-- What stops a resolution. -/
structure Obstacle where
  /-- The stage that the resolution does not complete. -/
  stage : Stage
  /-- What does not fit. -/
  cause : Misfit
deriving DecidableEq, Repr

/-- Whether a resolution that meets an obstacle, if there is one, completes a stage. -/
def Stage.isPassed (stage : Stage) (obstacle? : Option Obstacle) : Bool :=
  obstacle?.all fun obstacle => stage.rank < obstacle.stage.rank

/-- The obstacle that a misfit is at a stage. -/
def Obstacle.at? (stage : Stage) (cause? : Option Misfit) : Option Obstacle :=
  cause?.map fun cause => ⟨stage, cause⟩

namespace Service

/-- Why a service cannot be asked whether it is of the driver kind. -/
def kindMisfit? (settings : Settings) (service : Service) : Option Misfit :=
  (Record.lack? service "kind").or (Record.lack? settings "driver_service_kind")

/-- Why a service cannot be asked whether it serves the networks of a driver. -/
def servesMisfit? (driver service : Service) : Option Misfit :=
  (Record.lack? service "stack_uuid").or <| (Record.lack? driver "stack_uuid").or <|
    if service.stackUuid == driver.stackUuid then
      (Record.lack? service "uuid").or <| (Record.lack? driver "uuid").or <|
        if service.uuid != driver.uuid then
          (Record.lack? service "name").or (Record.lack? service "primary_service_name")
        else none
    else none

end Service

/-- Why a driver's network service cannot be found: something is wrong with the first service that
serves its networks or with one in front of it. -/
def findMisfit? (driver : Service) : List Service → Option Misfit
  | [] => none
  | service :: rest =>
    (driver.servesMisfit? service).or
      (if driver.serves service then none else findMisfit? driver rest)

/-- Why a member of a service cannot be asked whether it is a router on a host. -/
def Member.routerMisfit? (host : Host) : Member → Option Misfit
  | .container held =>
    (Record.lack? held "host_uuid").or <| (Record.lack? host "uuid").or <|
      if held.hostUuid == host.uuid then
        (Record.lack? held "network_uuid").or held.networkUuid.keyMisfit?
      else none
  | .stray value => some (.noMember value.kind "host_uuid")

/-- Why the members of a service cannot be searched for the routers of a host. A text and a
dictionary are searched like lists of texts, so they fit if they are empty. -/
def Members.routerMisfit? (host : Host) : Members → Option Misfit
  | .list members => members.findSome? (Member.routerMisfit? host)
  | .stray value =>
    match value with
    | .text _ | .mapping _ => if value.isVoid then none else some (.noMember .text "host_uuid")
    | _ => some (.notIterable value.kind)

/-- Why a network cannot be asked whether it is local to a host. -/
def Network.localMisfit? (settings : Settings) (host : Host) (network : Network) :
    Option Misfit :=
  (Record.lack? network "environment_uuid").or <| (Record.lack? host "environment_uuid").or <|
    if network.environmentUuid == host.environmentUuid then
      (network.configMisfit? settings).or <|
        if (network.cniConfig? settings).isSome then
          (Record.lack? network "uuid").or network.uuid.keyMisfit?
        else none
    else none

/-- What stops the choice of the driver's candidates. One service of the driver kind is chosen
without a look at its name; otherwise the services of that kind are listed and told apart. -/
def selectionObstacle? (settings : Settings) (services : List Service) : Option Obstacle :=
  let drivers := drivers settings services
  (Obstacle.at? .drivers (services.findSome? (Service.kindMisfit? settings))).or <|
    if drivers.length = 1 then none
    else
      (Obstacle.at? .drivers ((Record.lack? settings "driver_service_name").or
        (drivers.findSome? fun driver => Record.lack? driver "uuid"))).or
      (Obstacle.at? .names (drivers.findSome? fun driver => Record.lack? driver "name"))

namespace Snapshot

/-- Why the local topology of a snapshot cannot be found once the candidates are chosen. -/
def topologyMisfit? (snapshot : Snapshot) (settings : Settings) : Option Misfit :=
  let service := snapshot.networkService settings
  ((snapshot.driver? settings).bind fun driver => findMisfit? driver snapshot.services).or <|
    (Record.lack? service "containers").or <|
      (service.members.routerMisfit? snapshot.host).or <|
        snapshot.networks.findSome? (Network.localMisfit? settings snapshot.host)

/-- What stops the resolution of a snapshot. -/
def obstacle? (snapshot : Snapshot) (settings : Settings) : Option Obstacle :=
  let candidates := driverCandidates settings snapshot.services
  (selectionObstacle? settings snapshot.services).or <|
    (Obstacle.at? .candidates (candidates.findSome? fun service => Record.lack? service "uuid")).or
      <| (Obstacle.at? .topology (snapshot.topologyMisfit? settings)).or
        (Obstacle.at? .routers ((snapshot.routers settings).findSome? fun router =>
          Record.lack? router.2 "uuid"))

end Snapshot

/-- Without an obstacle every stage is passed. -/
@[simp] theorem Stage.isPassed_none (stage : Stage) : stage.isPassed none = true := rfl

end HostOverlay
