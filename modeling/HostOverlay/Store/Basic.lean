import HostOverlay.Fragment.Basic
import HostOverlay.Topology.Snapshot

/-!
# The store

The store holds the objects of the cluster and the lists that refer to them. A list of networks or
services is a roster: an object of its own that holds handles. Copying a roster shares the objects
and not the list, while a service's containers are part of the service. What is read out of the
store is read plainly, with the fragments in the place of the links that lead to them.
-/

namespace HostOverlay

/-- A list of handles. -/
abbrev Roster (α : Type) := List (Handle α)

/-- The objects of the cluster and the lists that refer to them. -/
structure Store where
  /-- The hosts. -/
  hosts : Pool Host := {}
  /-- The networks. -/
  networks : Pool Network := {}
  /-- The services. -/
  services : Pool Service := {}
  /-- The lists of networks. -/
  networkRosters : Pool (Roster Network) := {}
  /-- The lists of services. -/
  serviceRosters : Pool (Roster Service) := {}
  /-- The mappings that labels and configurations share. -/
  fragments : Fragments := {}
deriving Inhabited

/-- The parts of a snapshot by handle. -/
structure View where
  /-- The list of networks. -/
  networks : Handle (Roster Network)
  /-- The host. -/
  host : Handle Host
  /-- The list of services. -/
  services : Handle (Roster Service)
deriving DecidableEq

namespace Store

/-- A host, as it reads now. -/
def readHost (store : Store) (handle : Handle Host) : Host :=
  let host := store.hosts.get handle
  { host with labels := store.fragments.plain host.labels }

/-- A network, as it reads now. -/
def readNetwork (store : Store) (handle : Handle Network) : Network :=
  let network := store.networks.get handle
  { network with metadata := store.fragments.plain network.metadata }

/-- The networks of a roster, as they read now. -/
def networksOf (store : Store) (roster : Handle (Roster Network)) : List Network :=
  (store.networkRosters.get roster).map store.readNetwork

/-- The services of a roster, as they are now. -/
def servicesOf (store : Store) (roster : Handle (Roster Service)) : List Service :=
  (store.serviceRosters.get roster).map store.services.get

/-- The snapshot that a view shows, as it is now. -/
def snapshot (store : Store) (view : View) : Snapshot where
  networks := store.networksOf view.networks
  host := store.readHost view.host
  services := store.servicesOf view.services

/-- Adds a host; the mappings among its labels become fragments. -/
def addHost (store : Store) (host : Host) : Handle Host × Store :=
  let (labels, fragments) := store.fragments.adoptLabels host.labels
  (store.hosts.fresh,
    { store with hosts := store.hosts.add { host with labels }, fragments })

/-- Adds a network. -/
def addNetwork (store : Store) (network : Network) : Handle Network × Store :=
  (store.networks.fresh, { store with networks := store.networks.add network })

/-- Adds a service. -/
def addService (store : Store) (service : Service) : Handle Service × Store :=
  (store.services.fresh, { store with services := store.services.add service })

/-- Adds a list of networks. -/
def addNetworkRoster (store : Store) (roster : Roster Network) :
    Handle (Roster Network) × Store :=
  (store.networkRosters.fresh,
    { store with networkRosters := store.networkRosters.add roster })

/-- Adds a list of services. -/
def addServiceRoster (store : Store) (roster : Roster Service) :
    Handle (Roster Service) × Store :=
  (store.serviceRosters.fresh,
    { store with serviceRosters := store.serviceRosters.add roster })

/-- Changes a host; the mappings among its labels become fragments. -/
def setHost (store : Store) (handle : Handle Host) (host : Host) : Store :=
  let (labels, fragments) := store.fragments.adoptLabels host.labels
  { store with hosts := store.hosts.set handle { host with labels }, fragments }

/-- Changes a network. -/
def setNetwork (store : Store) (handle : Handle Network) (network : Network) : Store :=
  { store with networks := store.networks.set handle network }

/-- Changes a service. -/
def setService (store : Store) (handle : Handle Service) (service : Service) : Store :=
  { store with services := store.services.set handle service }

/-- Changes a list of networks. -/
def setNetworkRoster (store : Store) (handle : Handle (Roster Network))
    (roster : Roster Network) : Store :=
  { store with networkRosters := store.networkRosters.set handle roster }

/-- Changes a list of services. -/
def setServiceRoster (store : Store) (handle : Handle (Roster Service))
    (roster : Roster Service) : Store :=
  { store with serviceRosters := store.serviceRosters.set handle roster }

/-- Adds all parts of a snapshot as new objects, and shows them. -/
def addSnapshot (store : Store) (snapshot : Snapshot) : View × Store :=
  let (host, store) := store.addHost snapshot.host
  let (networks, store) :=
    { store with networks := store.networks.addAll snapshot.networks }.addNetworkRoster
      (store.networks.freshHandles snapshot.networks)
  let (services, store) :=
    { store with services := store.services.addAll snapshot.services }.addServiceRoster
      (store.services.freshHandles snapshot.services)
  ({ networks, host, services }, store)

end Store

end HostOverlay
