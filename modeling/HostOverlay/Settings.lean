import HostOverlay.Cluster.Network

/-!
# Settings

Four texts steer the agent. A setting that is changed later may be any value. Two of them say where
a network has its configuration files and how to tell the one that declares its bridge.
-/

namespace HostOverlay

open Schema

/-- The settings of the agent. -/
structure Settings where
  /-- The kind of a network driver service. -/
  driverServiceKind : Tree := .text "networkDriverService"
  /-- The name that tells the driver service from others of its kind. -/
  driverServiceName : Tree := .text "cni-driver"
  /-- The metadata key under which a network has its configuration files. -/
  cniConfigKey : Tree := .text "cniConfig"
  /-- The type of a configuration file that declares a bridge. -/
  bridgeCniType : Tree := .text "rancher-bridge"
  /-- What the settings hold besides these. -/
  margin : Margin := {}
deriving Inhabited

namespace Settings

/-- The settings with their defaults. -/
def defaults : Settings := {}

instance : Record Settings where
  name := "Settings"
  fields := [("driver_service_kind", ⟨.text, defaults.driverServiceKind⟩),
    ("driver_service_name", ⟨.text, defaults.driverServiceName⟩),
    ("cni_config_key", ⟨.text, defaults.cniConfigKey⟩),
    ("bridge_cni_type", ⟨.text, defaults.bridgeCniType⟩)]
  ofTree tree :=
    { driverServiceKind := tree.getD "driver_service_kind" defaults.driverServiceKind
      driverServiceName := tree.getD "driver_service_name" defaults.driverServiceName
      cniConfigKey := tree.getD "cni_config_key" defaults.cniConfigKey
      bridgeCniType := tree.getD "bridge_cni_type" defaults.bridgeCniType }
  toTree settings := .mapping [("driver_service_kind", settings.driverServiceKind),
    ("driver_service_name", settings.driverServiceName),
    ("cni_config_key", settings.cniConfigKey), ("bridge_cni_type", settings.bridgeCniType)]
  assign? settings field value :=
    match field with
    | "driver_service_kind" => some { settings with driverServiceKind := value }
    | "driver_service_name" => some { settings with driverServiceName := value }
    | "cni_config_key" => some { settings with cniConfigKey := value }
    | "bridge_cni_type" => some { settings with bridgeCniType := value }
    | _ => none
  margin settings := settings.margin
  withMargin settings margin := { settings with margin }

end Settings

namespace Network

/-- The value that the metadata of a network holds under the key that the settings name; only a
text can be such a key. -/
def config? (network : Network) (settings : Settings) : Option Tree :=
  match settings.cniConfigKey with
  | .text key => network.metadata.get? key
  | _ => none

/-- The configuration files of a network: the mapping that its metadata holds under the key that
the settings name, if there is one. -/
def cniConfig? (network : Network) (settings : Settings) : Option (Table String Tree) :=
  (network.config? settings).bind Tree.entries?

/-- The name under which a network knows how to find its configuration files. -/
def finderName : String := "cni_config"

/-- Why the metadata of a network cannot be searched for its configuration files: the network holds
something in place of its own means to do so, it has no metadata, the metadata are no dictionary,
the settings name no key, or what they name cannot be a key. -/
def configMisfit? (network : Network) (settings : Settings) : Option Misfit :=
  let finder := (network.margin.get? finderName).map fun value => Misfit.notCallable value.kind
  let searched : Option Misfit := match network.metadata with
    | .mapping _ => none
    | metadata => some (.noMember metadata.kind "get")
  finder.or <| (Record.lack? network "metadata").or <| searched.or <|
    (Record.lack? settings "cni_config_key").or settings.cniConfigKey.keyMisfit?

/-- The configuration files of a network as one value, if it has any, or why its metadata cannot be
searched for them. -/
def files (network : Network) (settings : Settings) : Except Failure (Option Tree) :=
  match network.configMisfit? settings with
  | some cause => .error (.misfit cause)
  | none => .ok ((network.config? settings).filter fun config => config.kind = .dictionary)

/-- Puts a value in the place of the one that the metadata holds under the key that the settings
name. -/
def withConfig (network : Network) (settings : Settings) (config : Tree) : Network :=
  match settings.cniConfigKey with
  | .text key => { network with metadata := network.metadata.put key config }
  | _ => network

end Network

end HostOverlay
