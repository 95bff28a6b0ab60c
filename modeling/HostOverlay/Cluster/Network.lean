import HostOverlay.Schema.Record

/-!
# Networks

The metadata of a network is a dictionary, and its other fields are texts, unless something else
was assigned to them.
-/

namespace HostOverlay

open Schema

/-- An overlay network. -/
structure Network where
  /-- The identity of the network. -/
  uuid : Tree := .emptyText
  /-- The environment the network belongs to. -/
  environmentUuid : Tree := .emptyText
  /-- The name of the network. -/
  name : Tree := .emptyText
  /-- What else the cluster knows of the network, the configuration files among it. -/
  metadata : Tree := .emptyMapping
  /-- What the network holds besides its fields. -/
  margin : Margin := {}
deriving Inhabited

namespace Network

instance : Record Network where
  name := "Network"
  fields := [("uuid", .text), ("environment_uuid", .text), ("name", .text),
    ("metadata", .dictionary .anything)]
  ofTree tree :=
    { uuid := tree.getD "uuid" .emptyText
      environmentUuid := tree.getD "environment_uuid" .emptyText
      name := tree.getD "name" .emptyText
      metadata := tree.getD "metadata" .emptyMapping }
  toTree network := .mapping [("uuid", network.uuid),
    ("environment_uuid", network.environmentUuid), ("name", network.name),
    ("metadata", network.metadata)]
  assign? network field value :=
    match field with
    | "uuid" => some { network with uuid := value }
    | "environment_uuid" => some { network with environmentUuid := value }
    | "name" => some { network with name := value }
    | "metadata" => some { network with metadata := value }
    | _ => none
  margin network := network.margin
  withMargin network margin := { network with margin }

end Network

end HostOverlay
