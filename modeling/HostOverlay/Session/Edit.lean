import HostOverlay.Kind.Attributes
import HostOverlay.Session.Basic
import HostOverlay.Tree.Indexing

/-!
# Edits of a session

Steps that change the snapshot are done on the objects that the snapshot's lists hold at the
moment. A field takes whatever value is assigned to it, and an assignment may change something and
fail all the same. What is inserted into a list has to have the shape of the list's records, so a
list holds strays only if it was assigned.
-/

namespace HostOverlay

open Schema

namespace Session

/-- A session that starts with a snapshot, and with a client of nothing. -/
def start (settings : Settings) (snapshot : Snapshot) : Session :=
  let (view, store) := ({} : Store).addSnapshot snapshot
  let (client, agent) := ({ settings, store } : Agent).openClient none none none []
  { agent, view, client }

/-- The current snapshot. -/
def snapshot (session : Session) : Snapshot := session.agent.store.snapshot session.view

/-- The host of the snapshot, as the store holds it. -/
def host (session : Session) : Host := session.agent.store.hosts.get session.view.host

/-- The list of networks, by handle. -/
def networks (session : Session) : Roster Network :=
  session.agent.store.networkRosters.get session.view.networks

/-- The list of services, by handle. -/
def services (session : Session) : Roster Service :=
  session.agent.store.serviceRosters.get session.view.services

/-- Asks the agent. -/
def call (session : Session) (call : Call) : Reply × Session :=
  let (reply, agent) := session.agent.perform call
  (reply, { session with agent })

/-- Changes the store. -/
def edit (session : Session) (edit : Edit) : Session := (session.call (.edit edit)).2

/-- Answers with what a function gives for a result, or with its failure. -/
def attempt {α : Type} (session : Session) (result : Except Failure α)
    (answer : α → Answer × Session) : Answer × Session :=
  match result with
  | .ok a => answer a
  | .error failure => (.failed failure, session)

/-- Answers with what a function gives for a result, or with the misfit. -/
def fit {α : Type} (session : Session) (result : Except Misfit α)
    (answer : α → Answer × Session) : Answer × Session :=
  session.attempt (result.mapError .misfit) answer

/-- Answers with what a function gives for the network at a position. -/
def atNetwork (session : Session) (position : Tree) (answer : Handle Network → Answer × Session) :
    Answer × Session :=
  session.fit (Position.locate .element session.networks position) fun found => answer found.2

/-- Answers with what a function gives for the service at a position. -/
def atService (session : Session) (position : Tree) (answer : Handle Service → Answer × Session) :
    Answer × Session :=
  session.fit (Position.locate .element session.services position) fun found => answer found.2

/-- Answers with what a function gives for what the service at a position holds as its
containers. -/
def atMembers (session : Session) (position : Tree)
    (answer : Handle Service → Members → Answer × Session) : Answer × Session :=
  session.atService position fun handle =>
    session.fit (session.agent.store.services.get handle).heldMembers (answer handle)

/-- Answers with what a function gives for a value of the right shape. -/
def validated {α : Type} [Record α] [Validator] (session : Session) (value : Tree)
    (answer : α → Answer × Session) : Answer × Session :=
  match (Record.validate value : Except Invalid α) with
  | .ok a => answer a
  | .error invalid => (.invalid invalid, session)

/-- Changes the host. -/
def setHost (session : Session) (host : Host) : Answer × Session :=
  let session := session.edit (.setHost session.view.host host)
  (.host (session.agent.store.readHost session.view.host), session)

/-- Changes a network. -/
def setNetwork (session : Session) (handle : Handle Network) (network : Network) :
    Answer × Session :=
  let session := session.edit (.setNetwork handle network)
  (.network (session.agent.store.readNetwork handle), session)

/-- Changes what a service holds as its containers. -/
def setMembers (session : Session) (handle : Handle Service) (members : Members) : Session :=
  session.edit (.setService handle { session.agent.store.services.get handle with members })

/-- Answers with what a change gives for the record that an assignment leaves, or with what did
not fit the assignment. -/
def keep {α : Type} (assigned : α × Option Misfit) (change : α → Answer × Session) :
    Answer × Session :=
  (change assigned.1).map (fun answer => answer.unlessMisfit assigned.2) id

/-- Refuses to assign something to a value that is no record. -/
def refuse (session : Session) (stray name value : Tree) : Answer × Session :=
  match name with
  | .text name => (.misfit (stray.kind.attributeMisfit name value.kind), session)
  | _ => (.misfit (.notName name.kind), session)

/-- Assigns a field of a part. -/
def assign (session : Session) (field value : Tree) : Part → Answer × Session
  | .host => keep (Record.assignNamed session.host field value) session.setHost
  | .network position => session.atNetwork position fun handle =>
    keep (Record.assignNamed (session.agent.store.networks.get handle) field value)
      (session.setNetwork handle)
  | .service position => session.atService position fun handle =>
    keep (Record.assignNamed (session.agent.store.services.get handle) field value)
      fun service => (.service service, session.edit (.setService handle service))
  | .container service position => session.atMembers service fun
    | handle, .list members =>
      session.fit (Position.locate .element members position) fun
        | (_, .stray stray) => session.refuse stray field value
        | (index, .container container) =>
          keep (Record.assignNamed container field value) fun container =>
            (.container container,
              session.setMembers handle (.list (members.set index (.container container))))
    | _, .stray stray => session.fit (stray.elementAt position) fun element =>
      session.refuse element field value

/-- Changes the list of networks, and answers with their identities. -/
def setNetworks (session : Session) (roster : Roster Network) : Answer × Session :=
  let session := session.edit (.setNetworkRoster session.view.networks roster)
  session.fit (session.snapshot.networks.mapM fun network => Record.read network "uuid")
    fun uuids => (.uuids uuids, session)

/-- Changes the list of services, and answers with their identities. -/
def setServices (session : Session) (roster : Roster Service) : Answer × Session :=
  let session := session.edit (.setServiceRoster session.view.services roster)
  session.fit (session.snapshot.services.mapM fun service => Record.read service "uuid")
    fun uuids => (.uuids uuids, session)

/-- Changes what a service holds as its containers, and answers with their identities. -/
def setContainers (session : Session) (handle : Handle Service) (members : Members) :
    Answer × Session :=
  let session := session.setMembers handle members
  session.fit members.uuids fun uuids => (.uuids uuids, session)

/-- Inserts a value into a list, at a position or at the end. -/
def insert [Validator] (session : Session) (position : Option Tree) (value : Tree) : Place → Answer × Session
  | .networks => session.validated value fun network =>
    session.fit (Position.insert position session.agent.store.networks.fresh session.networks)
      (session.edit (.addNetwork network)).setNetworks
  | .services => session.validated value fun service =>
    session.fit (Position.insert position session.agent.store.services.fresh session.services)
      (session.edit (.addService service)).setServices
  | .containers service => session.atMembers service fun
    | handle, .list members => session.validated value fun container =>
      session.fit (Position.insert position (.container container) members) fun members =>
        session.setContainers handle (.list members)
    | _, .stray stray => (.misfit (.noMember stray.kind "insert"), session)

/-- Removes what is at a position of a list. -/
def remove (session : Session) (position : Tree) : Place → Answer × Session
  | .networks =>
    session.fit (Position.locate .removal session.networks position) fun (index, _) =>
      session.setNetworks (session.networks.eraseIdx index)
  | .services =>
    session.fit (Position.locate .removal session.services position) fun (index, _) =>
      session.setServices (session.services.eraseIdx index)
  | .containers service => session.atMembers service fun
    | handle, .list members =>
      session.fit (Position.locate .removal members position) fun (index, _) =>
        session.setContainers handle (.list (members.eraseIdx index))
    | handle, .stray stray => session.fit (stray.removeAt position) fun stray =>
      session.setContainers handle (.stray stray)

end Session

end HostOverlay
