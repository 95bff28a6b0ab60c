import HostOverlay.Cluster.Container

/-!
# Services

The containers of a service are a list of containers, and its other fields are texts, unless
something else was assigned to them. A list that was assigned holds bare values in place of
containers, and containers may then be added beside them.
-/

namespace HostOverlay

open Schema

/-- An element of a service's list of containers. -/
inductive Member where
  /-- A container. -/
  | container (container : Container)
  /-- A value that is no container. -/
  | stray (value : Tree)
deriving Inhabited

namespace Member

/-- The container that a member is. -/
def container? : Member → Option Container
  | container held => some held
  | stray _ => none

/-- The identity of a member, which only a container has. -/
def uuid : Member → Except Misfit Tree
  | container held => Record.read held "uuid"
  | stray value => .error (.noMember value.kind "uuid")

/-- A member as a configuration value. -/
def toTree : Member → Tree
  | container held => Record.toTree held
  | stray value => value

end Member

/-- What a service holds as its containers. -/
inductive Members where
  /-- A list. -/
  | list (members : List Member)
  /-- A value that is no list. -/
  | stray (value : Tree)
deriving Inhabited

namespace Members

/-- The members of a list; a value that is no list counts as having none. -/
def members : Members → List Member
  | list members => members
  | stray _ => []

/-- The containers among the members. -/
def containers (members : Members) : List Container := members.members.filterMap Member.container?

/-- What is held after a value was assigned: the items of a sequence are no containers. -/
def ofValue : Tree → Members
  | .sequence items => list (items.map .stray)
  | value => stray value

/-- What is held after a value was read, every item of a sequence being read as a container. -/
def ofTree : Tree → Members
  | .sequence items => list (items.map fun item => .container (Record.ofTree item))
  | value => stray value

/-- The identities of what is held. A text and a dictionary hold texts, which have none. -/
def uuids : Members → Except Misfit (List Tree)
  | list members => members.mapM Member.uuid
  | stray value =>
    match value with
    | .text _ | .mapping _ =>
      if value.isVoid then .ok [] else .error (.noMember .text "uuid")
    | _ => .error (.notIterable value.kind)

/-- The members as a configuration value. -/
def toTree : Members → Tree
  | list members => .sequence (members.map Member.toTree)
  | stray value => value

end Members

/-- A service of a stack. The default service has no containers and stands for "none found". -/
structure Service where
  /-- The identity of the service. -/
  uuid : Tree := .emptyText
  /-- The stack the service belongs to. -/
  stackUuid : Tree := .emptyText
  /-- The name of that stack. -/
  stackName : Tree := .emptyText
  /-- The kind of the service. -/
  kind : Tree := .emptyText
  /-- The name of the service. -/
  name : Tree := .emptyText
  /-- The name of the service to which this one is a sidekick; its own if it is nobody's. -/
  primaryServiceName : Tree := .emptyText
  /-- The containers of the service. -/
  members : Members := .list []
  /-- What the service holds besides its fields. -/
  margin : Margin := {}
deriving Inhabited

namespace Service

/-- The containers of the service. -/
def containers (service : Service) : List Container := service.members.containers

instance : Record Service where
  name := "Service"
  fields := [("uuid", .text), ("stack_uuid", .text), ("stack_name", .text), ("kind", .text),
    ("name", .text), ("primary_service_name", .text),
    ("containers", .list (Record.shape Container))]
  ofTree tree :=
    { uuid := tree.getD "uuid" .emptyText
      stackUuid := tree.getD "stack_uuid" .emptyText
      stackName := tree.getD "stack_name" .emptyText
      kind := tree.getD "kind" .emptyText
      name := tree.getD "name" .emptyText
      primaryServiceName := tree.getD "primary_service_name" .emptyText
      members := .ofTree (tree.getD "containers" (.sequence [])) }
  toTree service := .mapping [("uuid", service.uuid), ("stack_uuid", service.stackUuid),
    ("stack_name", service.stackName), ("kind", service.kind), ("name", service.name),
    ("primary_service_name", service.primaryServiceName),
    ("containers", service.members.toTree)]
  assign? service field value :=
    match field with
    | "uuid" => some { service with uuid := value }
    | "stack_uuid" => some { service with stackUuid := value }
    | "stack_name" => some { service with stackName := value }
    | "kind" => some { service with kind := value }
    | "name" => some { service with name := value }
    | "primary_service_name" => some { service with primaryServiceName := value }
    | "containers" => some { service with members := .ofValue value }
    | _ => none
  margin service := service.margin
  withMargin service margin := { service with margin }

/-- Whether a service is valid and what it holds as its containers are valid containers. -/
def isValid (service : Service) : Bool :=
  Record.isValid service &&
    match service.members with
    | .list members => members.all fun member => member.container?.any Record.isValid
    | .stray _ => false

/-- What a service holds as its containers, unless it lacks them. -/
def heldMembers (service : Service) : Except Misfit Members :=
  match Record.lack? service "containers" with
  | some cause => .error cause
  | none => .ok service.members

/-- Why a service cannot be shown: the first field that it or one of its containers lacks. -/
def gap? (service : Service) : Option Misfit :=
  (Record.gap? service).or (service.containers.findSome? Record.gap?)

end Service

end HostOverlay
