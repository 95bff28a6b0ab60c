import HostOverlay.Cluster.Host
import HostOverlay.Cluster.Service
import HostOverlay.Position
import HostOverlay.Schema.Validator
import HostOverlay.Settings

/-!
# Snapshots of the cluster

A snapshot is what the agent knows of the cluster at one moment: its networks, the host it runs
on, and its services. This file says which service drives the networks of the cluster and which
one serves them.

A service of the driver kind is the driver if there is no other of that kind; among none or several
only those that carry the driver's name are candidates. The network service is the first service
that shares the stack of the first candidate, is not that candidate, and is its own primary
service. Its containers on the host are the host's routers, one for each network.

The fields of a snapshot's parts may hold values of any kind, and they are compared as values.
-/

namespace HostOverlay

open Schema

namespace Service

/-- Whether the service is of the kind that drives networks. -/
def isDriver (settings : Settings) (service : Service) : Bool :=
  service.kind == settings.driverServiceKind

/-- Whether the service carries the name that tells drivers apart. -/
def hasDriverName (settings : Settings) (service : Service) : Bool :=
  service.name == settings.driverServiceName

/-- Whether the service serves the networks of a driver: it is the primary service of the driver's
stack and not the driver itself. -/
def serves (driver service : Service) : Bool :=
  service.stackUuid == driver.stackUuid && service.uuid != driver.uuid
    && service.name == service.primaryServiceName

end Service

/-- The services of the driver kind. -/
def drivers (settings : Settings) (services : List Service) : List Service :=
  services.filter (Service.isDriver settings)

/-- Whether a service is a candidate for the driver among the given services. -/
def isCandidate (settings : Settings) (services : List Service) (service : Service) : Bool :=
  service.isDriver settings
    && ((drivers settings services).length == 1 || service.hasDriverName settings)

/-- The candidates for the driver, in the order of the services. -/
def driverCandidates (settings : Settings) (services : List Service) : List Service :=
  services.filter (isCandidate settings services)

/-- The positions of the candidates for the driver. -/
def candidatePositions (settings : Settings) (services : List Service) : List Nat :=
  Position.passing (isCandidate settings services) services

/-- The first service that serves the networks of a driver. -/
def findNetworkService? (driver : Service) (services : List Service) : Option Service :=
  services.find? driver.serves

/-- The position of the first service that serves the networks of a driver. -/
def networkServicePosition? (driver : Service) (services : List Service) : Option Nat :=
  services.findIdx? driver.serves

/-- The routers of a host, each under the network it serves. -/
abbrev Routers := Table Tree Container

/-- The routers among the containers of a service: for each network that a container on the host
serves, in the order of its first such container, the last such container. -/
def Service.routersOn (service : Service) (hostUuid : Tree) : Routers :=
  (service.containers.filter fun container => container.hostUuid == hostUuid).foldl
    (fun routers container => Table.put container.networkUuid container routers) []

/-- Whether a network is local to a host with the given routers: it belongs to the host's
environment, has configuration files, and has a router. -/
def Network.isLocal (settings : Settings) (host : Host) (routers : Routers) (network : Network) :
    Bool :=
  network.environmentUuid == host.environmentUuid && (network.cniConfig? settings).isSome
    && (Table.get? routers network.uuid).isSome

/-- What the agent knows of the cluster at one moment. -/
structure Snapshot where
  /-- All networks of the cluster. -/
  networks : List Network := []
  /-- The host on which the agent runs. -/
  host : Host := {}
  /-- All services of the cluster. -/
  services : List Service := []
deriving Inhabited

namespace Snapshot

/-- Reads the parts of a snapshot: first the networks, then the host, then the services. The first
part that is wrong is the one reported. -/
def validate [Validator] (networks : List Tree) (host : Tree) (services : List Tree) :
    Except Invalid Snapshot := do
  -- Each line stops at the first value that is wrong.
  let networks ← networks.mapM Record.validate
  let host ← Record.validate host
  let services ← services.mapM Record.validate
  return { networks, host, services }

/-- Whether all parts of a snapshot are valid. -/
def isValid (snapshot : Snapshot) : Bool :=
  snapshot.networks.all Record.isValid && Record.isValid snapshot.host
    && snapshot.services.all Service.isValid

/-- The service at a position. -/
def serviceAt (snapshot : Snapshot) (position : Tree) : Except Failure Service :=
  match Position.locate .element snapshot.services position with
  | .ok (_, service) => .ok service
  | .error cause => .error (.misfit cause)

/-- The first candidate for the driver. -/
def driver? (snapshot : Snapshot) (settings : Settings) : Option Service :=
  (driverCandidates settings snapshot.services).head?

/-- The network service of the first candidate. -/
def networkService? (snapshot : Snapshot) (settings : Settings) : Option Service :=
  (snapshot.driver? settings).bind fun driver => findNetworkService? driver snapshot.services

/-- The position of the network service of the first candidate. -/
def servicePosition? (snapshot : Snapshot) (settings : Settings) : Option Nat :=
  (snapshot.driver? settings).bind fun driver =>
    networkServicePosition? driver snapshot.services

/-- The network service, or the empty service if there is none. -/
def networkService (snapshot : Snapshot) (settings : Settings) : Service :=
  (snapshot.networkService? settings).getD {}

/-- The routers of the snapshot's host, each under the network it serves. -/
def routers (snapshot : Snapshot) (settings : Settings) : Routers :=
  (snapshot.networkService settings).routersOn snapshot.host.uuid

/-- Whether a network is local to the snapshot's host. -/
def hasLocal (snapshot : Snapshot) (settings : Settings) (network : Network) : Bool :=
  network.isLocal settings snapshot.host (snapshot.routers settings)

/-- The networks that are local to the snapshot's host, in the order of the snapshot. -/
def localNetworks (snapshot : Snapshot) (settings : Settings) : List Network :=
  snapshot.networks.filter (snapshot.hasLocal settings)

/-- The positions of the local networks. -/
def localPositions (snapshot : Snapshot) (settings : Settings) : List Nat :=
  Position.passing (snapshot.hasLocal settings) snapshot.networks

end Snapshot

end HostOverlay
