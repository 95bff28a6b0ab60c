import HostOverlay.Bridge
import HostOverlay.Client
import HostOverlay.Inspection
import HostOverlay.Journal.Basic

/-!
# The agent

The agent is its settings, its journal, the store of the cluster's objects, and the clients that
fetch from it. Every operation answers and gives the agent as it is afterwards. Settings are read
when an operation needs them. A resolution that starts with fetches touches nothing but the
client's list of calls if one of them fails. An operation that meets a misfit fails, and what it did
before stays done.
-/

namespace HostOverlay

open Schema

/-- The state of the agent. -/
structure Agent where
  /-- The settings in force. -/
  settings : Settings := {}
  /-- What was reported and counted. -/
  journal : Journal := {}
  /-- The objects of the cluster. -/
  store : Store := {}
  /-- The clients of the metadata. -/
  clients : Pool Client := {}
deriving Inhabited

/-- What a fetch returns, by handle. -/
inductive Fetched where
  /-- A list of networks, which belongs to the caller. -/
  | networks (roster : Handle (Roster Network))
  /-- A host. -/
  | host (host : Handle Host)
  /-- A list of services, which belongs to the caller. -/
  | services (roster : Handle (Roster Service))
deriving DecidableEq

namespace Agent

/-- Adds reports to the journal. -/
def report (agent : Agent) (events : List Event) : Agent :=
  { agent with journal := agent.journal.report events }

/-- Reporting nothing changes nothing. -/
@[simp] theorem report_nil (agent : Agent) : agent.report [] = agent := by
  rw [report, Journal.report_nil]

/-- Changes a network and the fragments. -/
def setNetwork (agent : Agent) (handle : Handle Network) (network : Network)
    (fragments : Fragments) : Agent :=
  { agent with store := { agent.store.setNetwork handle network with fragments } }

/-- Chooses the candidates for the driver among the services of a view. -/
def select (agent : Agent) (services : Handle (Roster Service)) :
    Except Failure (List Service) × Agent :=
  let services := agent.store.servicesOf services
  let obstacle? := selectionObstacle? agent.settings services
  let agent :=
    if Stage.drivers.isPassed obstacle? then agent.report (selectionEvents agent.settings services)
    else agent
  match obstacle? with
  | some obstacle => (.error (.misfit obstacle.cause), agent)
  | none => (.ok (driverCandidates agent.settings services), agent)

/-- Finds the network service of a driver among the services of a view. -/
def findService (agent : Agent) (driver : Handle Service) (services : Handle (Roster Service)) :
    Except Failure Service × Agent :=
  let driver := agent.store.services.get driver
  let services := agent.store.servicesOf services
  match findMisfit? driver services with
  | some cause => (.error (.misfit cause), agent)
  | none => (.ok ((findNetworkService? driver services).getD {}), agent)

/-- Resolves the local topology of a view. -/
def resolve (agent : Agent) (view : View) : Except Failure Resolution × Agent :=
  let snapshot := agent.store.snapshot view
  (snapshot.resolve agent.settings,
    { agent with journal := agent.journal.enter agent.settings snapshot })

/-- Finds the bridge of a network on a host; the visited files of the network are substituted. -/
def discoverBridge (agent : Agent) (network : Handle Network) (host : Host) :
    Except Failure BridgeInfo × Agent :=
  let (info, changed, fragments) := (agent.store.networks.get network).discoverBridge
    agent.settings host agent.store.fragments
  (info, agent.setNetwork network changed fragments)

/-- Substitutes the labels of a host in the configuration files of a network, which it gives. -/
def substituteConfig (agent : Agent) (network : Handle Network) (host : Host) :
    Except Failure (Option Tree) × Agent :=
  let (files, changed, fragments) := (agent.store.networks.get network).substituteConfig
    agent.settings host agent.store.fragments
  (files.map (Option.map fragments.plain), agent.setNetwork network changed fragments)

/-- Substitutes the labels of a host in the metadata of a network, which it gives. -/
def substituteMetadata (agent : Agent) (network : Handle Network) (host : Host) :
    Except Failure Tree × Agent :=
  let (metadata, changed, fragments) := (agent.store.networks.get network).substituteMetadata
    host agent.store.fragments
  (metadata.map fragments.plain, agent.setNetwork network changed fragments)

/-- Asks whether an interface carries an address from a subnet. -/
def inspect (agent : Agent) (listing : Except Failure Listing) (interface subnet : String) :
    Except InspectionError Bool × Agent :=
  let answer := Inspection.hasAddressIn listing interface subnet
  (answer, agent.report (Inspection.events answer))

/-- Makes a client. It copies the given rosters and shares the given host; what is not given is
empty. -/
def openClient (agent : Agent) (networks : Option (Handle (Roster Network)))
    (host : Option (Handle Host)) (services : Option (Handle (Roster Service)))
    (errors : Table String Failure) : Handle Client × Agent :=
  let store := agent.store
  let (networks, store) := store.addNetworkRoster
    ((networks.map store.networkRosters.get).getD [])
  let (host, store) := match host with
    | some host => (host, store)
    | none => store.addHost {}
  let (services, store) := store.addServiceRoster
    ((services.map store.serviceRosters.get).getD [])
  (agent.clients.fresh, { agent with
    store, clients := agent.clients.add { view := { networks, host, services }, errors } })

/-- What a view holds of what is fetched: a copy of a roster, or the host itself. -/
def retrieve (agent : Agent) (view : View) : Fetch → Fetched × Agent
  | .networks =>
    let (roster, store) := agent.store.addNetworkRoster
      (agent.store.networkRosters.get view.networks)
    (.networks roster, { agent with store })
  | .host => (.host view.host, agent)
  | .services =>
    let (roster, store) := agent.store.addServiceRoster
      (agent.store.serviceRosters.get view.services)
    (.services roster, { agent with store })

/-- Fetches from a client. -/
def fetch (agent : Agent) (client : Handle Client) (fetch : Fetch) :
    Except Failure Fetched × Agent :=
  let (verdict, changed) := (agent.clients.get client).attempt fetch
  let agent := { agent with clients := agent.clients.set client changed }
  match verdict with
  | .error failure => (.error failure, agent)
  | .ok () =>
    let (fetched, agent) := agent.retrieve changed.view fetch
    (.ok fetched, agent)

/-- What is reported once a snapshot is fetched, unless its host has no identity. -/
def fetchedEvent (snapshot : Snapshot) : Except Misfit Event :=
  (Record.read snapshot.host "uuid").map
    (.snapshotFetched snapshot.networks.length snapshot.services.length)

/-- Fetches a snapshot from a client and resolves it. The first fetch that fails is the answer. -/
def resolveFrom (agent : Agent) (client : Handle Client) : Except Failure Resolution × Agent :=
  let (verdict, changed) := (agent.clients.get client).attemptAll Fetch.all
  let agent := { agent with clients := agent.clients.set client changed }
  match verdict with
  | .error failure => (.error failure, agent)
  | .ok () =>
    -- The fetches are over before the resolution reports anything.
    match fetchedEvent (agent.store.snapshot changed.view) with
    | .error cause => (.error (.misfit cause), agent)
    | .ok event => (agent.report [event]).resolve changed.view

end Agent

end HostOverlay
