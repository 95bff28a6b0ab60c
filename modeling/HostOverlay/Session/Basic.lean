import HostOverlay.Agent.Run

/-!
# Sessions

A session works on one snapshot, part by part, and calls the agent on it. Its steps name networks,
services and containers by their positions in the lists of the snapshot, and the session keeps
which client is the current one. Positions are given as values, and so are the names of what is
assigned. This file says what a session is, what it can be asked, and what it answers.
-/

namespace HostOverlay

open Schema

/-- A session: the agent, the snapshot it is called on, and the current client. -/
structure Session where
  /-- The agent. -/
  agent : Agent
  /-- The current snapshot. -/
  view : View
  /-- The current client. -/
  client : Handle Client

namespace Session

/-- A part of the snapshot whose fields can be assigned. -/
inductive Part where
  /-- The host. -/
  | host
  /-- The network at a position. -/
  | network (position : Tree)
  /-- The service at a position. -/
  | service (position : Tree)
  /-- The container at a position of the service at a position. -/
  | container (service position : Tree)

/-- A list of the snapshot. -/
inductive Place where
  /-- The list of networks. -/
  | networks
  /-- The list of services. -/
  | services
  /-- The containers of the service at a position. -/
  | containers (service : Tree)

/-- One step of a session. -/
inductive Step where
  /-- Looks at the whole snapshot. -/
  | look
  /-- Assigns any value to a field of a part, by the field's written name. -/
  | assign (part : Part) (field value : Tree)
  /-- Gives a label of the host a value. -/
  | setLabel (name : String) (value : Tree)
  /-- Removes a label of the host. -/
  | eraseLabel (name : String)
  /-- Puts a new host in the place of the host. -/
  | replaceHost (value : Tree)
  /-- Changes a setting, by its written name. -/
  | setSetting (name value : Tree)
  /-- Inserts something into a list, at a position or at the end. -/
  | insert (place : Place) (position : Option Tree) (value : Tree)
  /-- Removes what is at a position of a list. -/
  | remove (place : Place) (position : Tree)
  /-- Looks at the configuration files of a network. -/
  | files (network : Tree)
  /-- Finds the bridge of a network. -/
  | discoverBridge (network : Tree)
  /-- Substitutes labels in the configuration files of a network. -/
  | substituteConfig (network : Tree)
  /-- Chooses the candidates for the driver. -/
  | select
  /-- Resolves the snapshot. -/
  | resolve
  /-- Resolves the snapshot, and asks for the networks and the routers only. -/
  | locals
  /-- Looks at the metrics. -/
  | metrics
  /-- Takes the records out of the journal. -/
  | takeRecords
  /-- Makes a new client of the given parts of the snapshot the current one. -/
  | openClient (networks host services : Bool) (errors : Table String Failure)
  /-- Fetches from the current client, and may empty the list that it gives. -/
  | fetch (fetch : Fetch) (clear : Bool)
  /-- Resolves what the current client fetches. -/
  | resolveFrom
  /-- Resolves what the current client fetches, and asks for the networks and the routers only. -/
  | localsFrom
  /-- Looks at the fetches that were asked of the current client. -/
  | calls

/-- The answer to a step. -/
inductive Answer where
  /-- The agent's reply to a call. -/
  | reply (reply : Reply)
  /-- The snapshot. -/
  | snapshot (snapshot : Snapshot)
  /-- A host. -/
  | host (host : Host)
  /-- A network. -/
  | network (network : Network)
  /-- A service. -/
  | service (service : Service)
  /-- A container. -/
  | container (container : Container)
  /-- The settings. -/
  | settings (settings : Settings)
  /-- The identities of what is in a list. -/
  | uuids (uuids : List Tree)
  /-- Networks. -/
  | networks (networks : List Network)
  /-- Services. -/
  | services (services : List Service)
  /-- The fetches that were asked of a client. -/
  | calls (calls : List Fetch)
  /-- The journal, for its metrics. -/
  | metrics (journal : Journal)
  /-- Records. -/
  | records (records : List Event)
  /-- A value does not have the shape it needs. -/
  | invalid (invalid : Invalid)

namespace Answer

/-- The answer that a step failed. -/
def failed (failure : Failure) : Answer := reply (.failed failure)

/-- The answer that a value did not fit what the step asked of it. -/
def misfit (cause : Misfit) : Answer := failed (.misfit cause)

/-- The answer to something that did not fit after all, if there is a misfit. -/
def unlessMisfit (answer : Answer) (misfit? : Option Misfit) : Answer :=
  (misfit?.map misfit).getD answer

/-- Why a local topology cannot be told: the first field that a network or a router lacks. -/
def localsGap? (networks : List Network) (routers : Routers) : Option Misfit :=
  (networks.findSome? Record.gap?).or (routers.findSome? fun router => Record.gap? router.2)

/-- Why an answer cannot be told: the first field that it needs and that a record lacks. -/
def gap? : Answer → Option Misfit
  | snapshot held =>
    (Record.gap? held.host).or <| (held.networks.findSome? Record.gap?).or
      (held.services.findSome? Service.gap?)
  | host held => Record.gap? held
  | network held => Record.gap? held
  | service held => held.gap?
  | container held => Record.gap? held
  | settings held => Record.gap? held
  | networks held => held.findSome? Record.gap?
  | services held => held.findSome? Service.gap?
  | reply (.services held) => held.findSome? fun service => Record.lack? service "uuid"
  | reply (.resolution held) =>
    (localsGap? held.networks held.routers).or held.service.gap?
  | reply (.locals held routers) => localsGap? held routers
  | _ => none

/-- What is told in place of an answer: the misfit, if it cannot be told. -/
def told (answer : Answer) : Answer := answer.unlessMisfit answer.gap?

/-- The records and values of an answer that may lead into fragments. -/
def trees : Answer → List Tree
  | snapshot held => Record.toTree held.host :: held.networks.map Record.toTree
  | host held => [Record.toTree held]
  | network held => [Record.toTree held]
  | networks held => held.map Record.toTree
  | reply (.resolution held) => held.networks.map Record.toTree
  | reply (.locals held _) => held.map Record.toTree
  | reply (.files (some files)) => [files]
  | _ => []

/-- Whether an answer can be shown: nothing in it is part of itself. -/
def isShowable (answer : Answer) : Bool := answer.trees.all Tree.isPlain

end Answer

end Session

end HostOverlay
