import HostOverlay.Schema.Record

/-!
# Hosts

The labels of a host are a dictionary of texts, and its other fields are texts, unless something
else was assigned to them.
-/

namespace HostOverlay

open Schema

/-- The host on which the agent runs. -/
structure Host where
  /-- The identity of the host. -/
  uuid : Tree := .emptyText
  /-- The environment the host belongs to. -/
  environmentUuid : Tree := .emptyText
  /-- The name the cluster gives the host. -/
  name : Tree := .emptyText
  /-- The name the host gives itself. -/
  hostname : Tree := .emptyText
  /-- The address at which the agent is reached. -/
  agentIp : Tree := .emptyText
  /-- The labels of the host. -/
  labels : Tree := .emptyMapping
  /-- What the host holds besides its fields. -/
  margin : Margin := {}
deriving Inhabited

namespace Host

instance : Record Host where
  name := "Host"
  fields := [("uuid", .text), ("environment_uuid", .text), ("name", .text), ("hostname", .text),
    ("agent_ip", .text), ("labels", .dictionary .text)]
  ofTree tree :=
    { uuid := tree.getD "uuid" .emptyText
      environmentUuid := tree.getD "environment_uuid" .emptyText
      name := tree.getD "name" .emptyText
      hostname := tree.getD "hostname" .emptyText
      agentIp := tree.getD "agent_ip" .emptyText
      labels := tree.getD "labels" .emptyMapping }
  toTree host := .mapping [("uuid", host.uuid), ("environment_uuid", host.environmentUuid),
    ("name", host.name), ("hostname", host.hostname), ("agent_ip", host.agentIp),
    ("labels", host.labels)]
  assign? host field value :=
    match field with
    | "uuid" => some { host with uuid := value }
    | "environment_uuid" => some { host with environmentUuid := value }
    | "name" => some { host with name := value }
    | "hostname" => some { host with hostname := value }
    | "agent_ip" => some { host with agentIp := value }
    | "labels" => some { host with labels := value }
    | _ => none
  margin host := host.margin
  withMargin host margin := { host with margin }

/-- The value of a label; a label that the host lacks and one whose value is void count as
empty. -/
def labelValue (host : Host) (name : String) : Tree :=
  match host.labels.get? name with
  | some value => if value.isVoid then .emptyText else value
  | none => .emptyText

/-- Why no label of the host can be read: the host has no labels, or they are no dictionary. -/
def labelsMisfit? (host : Host) : Option Misfit :=
  (Record.lack? host "labels").or
    (match host.labels with
      | .mapping _ => none
      | labels => some (.noMember labels.kind "get"))

/-- Gives a label a value. -/
def setLabel (host : Host) (name : String) (value : Tree) : Except Misfit Host :=
  match Record.lack? host "labels", host.labels with
  | some cause, _ => .error cause
  | none, .mapping labels => .ok { host with labels := .mapping (Table.put name value labels) }
  | none, .sequence _ => .error (.notPosition .text)
  | none, labels => .error (.notAssignable labels.kind)

/-- Removes a label, if the host has it. -/
def eraseLabel (host : Host) (name : String) : Except Misfit Host :=
  match Record.lack? host "labels", host.labels with
  | some cause, _ => .error cause
  | none, .mapping labels => .ok { host with labels := .mapping (Table.erase name labels) }
  | none, .sequence _ => .error .surplusArgument
  | none, labels => .error (.noMember labels.kind "pop")

end Host

end HostOverlay
