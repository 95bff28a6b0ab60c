import HostOverlay.Agent.Basic

/-!
# Runs of the agent

A call is one operation asked of the agent or one change made to the store around it, and a run is
a list of calls in order. What holds after every run holds whatever the agent went through.
-/

namespace HostOverlay

/-- A change of the store from outside the agent. -/
inductive Edit where
  /-- A host is added. -/
  | addHost (host : Host)
  /-- A network is added. -/
  | addNetwork (network : Network)
  /-- A service is added. -/
  | addService (service : Service)
  /-- A list of networks is added. -/
  | addNetworkRoster (roster : Roster Network)
  /-- A list of services is added. -/
  | addServiceRoster (roster : Roster Service)
  /-- A host is changed. -/
  | setHost (handle : Handle Host) (host : Host)
  /-- A network is changed. -/
  | setNetwork (handle : Handle Network) (network : Network)
  /-- A service or one of its containers is changed. -/
  | setService (handle : Handle Service) (service : Service)
  /-- A list of networks is changed. -/
  | setNetworkRoster (handle : Handle (Roster Network)) (roster : Roster Network)
  /-- A list of services is changed. -/
  | setServiceRoster (handle : Handle (Roster Service)) (roster : Roster Service)

/-- The store after a change. -/
def Store.apply (store : Store) : Edit → Store
  | .addHost host => (store.addHost host).2
  | .addNetwork network => (store.addNetwork network).2
  | .addService service => (store.addService service).2
  | .addNetworkRoster roster => (store.addNetworkRoster roster).2
  | .addServiceRoster roster => (store.addServiceRoster roster).2
  | .setHost handle host => store.setHost handle host
  | .setNetwork handle network => store.setNetwork handle network
  | .setService handle service => store.setService handle service
  | .setNetworkRoster handle roster => store.setNetworkRoster handle roster
  | .setServiceRoster handle roster => store.setServiceRoster handle roster

/-- One operation asked of the agent, or one change around it. -/
inductive Call where
  /-- The settings are replaced. -/
  | configure (settings : Settings)
  /-- The store is changed. -/
  | edit (edit : Edit)
  /-- The journal's records are forgotten. -/
  | forget
  /-- The candidates for the driver are chosen. -/
  | select (services : Handle (Roster Service))
  /-- The network service of a driver is looked for. -/
  | findService (driver : Handle Service) (services : Handle (Roster Service))
  /-- A view is resolved. -/
  | resolve (view : View)
  /-- A view is resolved, and only the networks and the routers are asked for. -/
  | locals (view : View)
  /-- The bridge of a network is looked for on a host. -/
  | discoverBridge (network : Handle Network) (host : Host)
  /-- A host's labels are substituted in the configuration files of a network. -/
  | substituteConfig (network : Handle Network) (host : Host)
  /-- A host's labels are substituted in the metadata of a network. -/
  | substituteMetadata (network : Handle Network) (host : Host)
  /-- An interface is asked for an address from a subnet. -/
  | inspect (listing : Except Failure Listing) (interface subnet : String)
  /-- A client is made. -/
  | openClient (networks : Option (Handle (Roster Network))) (host : Option (Handle Host))
      (services : Option (Handle (Roster Service))) (errors : Table String Failure)
  /-- A client is asked for one part of the metadata. -/
  | fetch (client : Handle Client) (fetch : Fetch)
  /-- A snapshot is fetched and resolved. -/
  | resolveFrom (client : Handle Client)
  /-- A snapshot is fetched and resolved, and only the networks and the routers are asked for. -/
  | localsFrom (client : Handle Client)

/-- The answer to a call. -/
inductive Reply where
  /-- There is nothing to tell. -/
  | done
  /-- Services. -/
  | services (services : List Service)
  /-- A service. -/
  | service (service : Service)
  /-- A local topology. -/
  | resolution (resolution : Resolution)
  /-- The local networks, and the routers, each under its network. -/
  | locals (networks : List Network) (routers : Routers)
  /-- A bridge and its subnet. -/
  | bridge (info : BridgeInfo)
  /-- The configuration files of a network, if it has any. -/
  | files (files : Option Tree)
  /-- The metadata of a network. -/
  | metadata (metadata : Tree)
  /-- The answer of an inspection. -/
  | inspection (answer : Except InspectionError Bool)
  /-- A new client. -/
  | client (client : Handle Client)
  /-- What was fetched. -/
  | fetched (fetched : Fetched)
  /-- The operation failed. -/
  | failed (failure : Failure)

namespace Reply

/-- The networks and the routers of a local topology. -/
def ofLocals (resolution : Resolution) : Reply :=
  locals resolution.networks resolution.routers

/-- The answer where the operation may have failed. -/
def ofExcept {α : Type} (answer : α → Reply) : Except Failure α → Reply
  | .ok a => answer a
  | .error failure => failed failure

end Reply

namespace Agent

/-- Answers a call. -/
def perform (agent : Agent) : Call → Reply × Agent
  | .configure settings => (.done, { agent with settings })
  | .edit edit => (.done, { agent with store := agent.store.apply edit })
  | .forget => (.done, { agent with journal := agent.journal.forget })
  | .select services => (agent.select services).map (.ofExcept .services) id
  | .findService driver services =>
    (agent.findService driver services).map (.ofExcept .service) id
  | .resolve view => (agent.resolve view).map (.ofExcept .resolution) id
  | .locals view => (agent.resolve view).map (.ofExcept .ofLocals) id
  | .discoverBridge network host =>
    (agent.discoverBridge network host).map (.ofExcept .bridge) id
  | .substituteConfig network host =>
    (agent.substituteConfig network host).map (.ofExcept .files) id
  | .substituteMetadata network host =>
    (agent.substituteMetadata network host).map (.ofExcept .metadata) id
  | .inspect listing interface subnet =>
    (agent.inspect listing interface subnet).map .inspection id
  | .openClient networks host services errors =>
    (agent.openClient networks host services errors).map .client id
  | .fetch client fetch => (agent.fetch client fetch).map (.ofExcept .fetched) id
  | .resolveFrom client => (agent.resolveFrom client).map (.ofExcept .resolution) id
  | .localsFrom client => (agent.resolveFrom client).map (.ofExcept .ofLocals) id

/-- Answers calls in order. -/
def run (agent : Agent) : List Call → List Reply × Agent
  | [] => ([], agent)
  | call :: rest =>
    let (reply, agent) := agent.perform call
    let (replies, agent) := agent.run rest
    (reply :: replies, agent)

/-- Each reply of a run is what the agent answers after the calls in front of it. -/
theorem getElem?_run (agent : Agent) (calls : List Call) (i : Nat) :
    (agent.run calls).1[i]? =
      calls[i]?.map fun call => ((agent.run (calls.take i)).2.perform call).1 := by
  induction calls generalizing agent i with
  | nil => simp [run]
  | cons call rest ih =>
    cases i with
    | zero => simp [run]
    | succ i =>
      simp only [run, List.getElem?_cons_succ, List.take_succ_cons]
      exact ih _ i

end Agent

end HostOverlay
