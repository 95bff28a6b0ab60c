import HostOverlay.Schema.Record
import HostOverlay.Tree.Equality

/-!
# Containers
-/

namespace HostOverlay

open Schema

/-- A container of a service. Its fields are texts unless something else was assigned to them. -/
structure Container where
  /-- The identity of the container. -/
  uuid : Tree := .emptyText
  /-- The name of the container. -/
  name : Tree := .emptyText
  /-- The host on which the container runs. -/
  hostUuid : Tree := .emptyText
  /-- The network to which the container is attached. -/
  networkUuid : Tree := .emptyText
  /-- The state as the cluster reports it; states that the agent does not know occur. -/
  state : Tree := .emptyText
  /-- The main address of the container. -/
  primaryIp : Tree := .emptyText
  /-- What the container holds besides its fields. -/
  margin : Margin := {}
deriving Inhabited

namespace Container

/-- The states in which a container counts as running. -/
def runningStates : List String := ["running", "starting", "stopping"]

/-- Whether the container counts as running. -/
def isRunning (container : Container) : Bool :=
  runningStates.any fun state => container.state == .text state

instance : Record Container where
  name := "Container"
  fields := [("uuid", .text), ("name", .text), ("host_uuid", .text), ("network_uuid", .text),
    ("state", .text), ("primary_ip", .text)]
  ofTree tree :=
    { uuid := tree.getD "uuid" .emptyText
      name := tree.getD "name" .emptyText
      hostUuid := tree.getD "host_uuid" .emptyText
      networkUuid := tree.getD "network_uuid" .emptyText
      state := tree.getD "state" .emptyText
      primaryIp := tree.getD "primary_ip" .emptyText }
  toTree container := .mapping [("uuid", container.uuid), ("name", container.name),
    ("host_uuid", container.hostUuid), ("network_uuid", container.networkUuid),
    ("state", container.state), ("primary_ip", container.primaryIp)]
  assign? container field value :=
    match field with
    | "uuid" => some { container with uuid := value }
    | "name" => some { container with name := value }
    | "host_uuid" => some { container with hostUuid := value }
    | "network_uuid" => some { container with networkUuid := value }
    | "state" => some { container with state := value }
    | "primary_ip" => some { container with primaryIp := value }
    | _ => none
  margin container := container.margin
  withMargin container margin := { container with margin }

end Container

end HostOverlay
