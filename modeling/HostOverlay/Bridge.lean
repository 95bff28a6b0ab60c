import HostOverlay.Fragment.Pass
import HostOverlay.Settings
import HostOverlay.Tree.Equality

/-!
# Bridge discovery

A network's bridge is declared by its configuration files. They are scanned in the order of their
names up to the first one that qualifies: a file of the bridge type that names a bridge. Host
labels are substituted in each file that the scan visits, and the network keeps the substituted
files; files behind the qualifying one stay as they were. A scan that meets a reference which
cannot be expanded, or settings without a bridge type, ends there and finds nothing, and what it
substituted before stays.
-/

namespace HostOverlay

open Schema

/-- The bridge that a network's configuration declares, and its subnet. -/
structure BridgeInfo where
  /-- The name of the bridge; empty if no file qualifies. -/
  bridge : String := ""
  /-- The subnet that the last visited file declares. -/
  subnet : String := ""
deriving DecidableEq, Repr, Inhabited

namespace Bridge

/-- Whether a file declares a bridge: it has the bridge type and names a bridge. -/
def qualifies (settings : Settings) (file : Tree) : Bool :=
  .text (file.textAt "type") == settings.bridgeCniType && file.textAt "bridge" != ""

/-- The files in the order of their names. -/
def byName (files : Table String Tree) : Table String Tree :=
  files.mergeSort fun a b => a.1 ≤ b.1

/-- The files up to and including the first that qualifies. -/
def visited (settings : Settings) : Table String Tree → Table String Tree
  | [] => []
  | file :: rest =>
    if qualifies settings file.2 then [file] else file :: visited settings rest

/-- What the visited files declare: their last one decides. -/
def infoOf (settings : Settings) (files : Table String Tree) : BridgeInfo :=
  match files.getLast? with
  | none => {}
  | some (_, file) =>
    { bridge := if qualifies settings file then file.textAt "bridge" else ""
      subnet := file.textAt "bridgeSubnet" }

/-- Why a file cannot be asked whether it declares a bridge: the settings lack the bridge type. -/
def typeMisfit? (settings : Settings) : Option Misfit := Record.lack? settings "bridge_cni_type"

/-- The level of a configuration file: the mapping of all the files holds it. -/
def fileLevel : Nat := 2

/-- The files that a scan on a host visits, each after a pass of substitution through it. -/
def scan (settings : Settings) (host : Host) :
    Table String Tree → Pass → Table String Tree × Pass
  | [], pass => ([], pass)
  | (name, file) :: rest, pass =>
    let (file, pass) := file.pass host fileLevel pass
    let pass := pass.check (typeMisfit? settings)
    if pass.failure?.isSome || qualifies settings (pass.fragments.target file) then
      ([(name, file)], pass)
    else
      let (rest, pass) := scan settings host rest pass
      ((name, file) :: rest, pass)

/-- Puts visited files in the place of those with their names; the files keep the order in which
they are stored. -/
def replace (visited files : Table String Tree) : Table String Tree :=
  files.map fun file => (file.1, (Table.get? visited file.1).getD file.2)

/-- Where there are no fragments, what a value leads to qualifies exactly if the value does. -/
theorem qualifies_target {fragments : Fragments} (hs : fragments.size = 0) (settings : Settings)
    (file : Tree) : qualifies settings (fragments.target file) = qualifies settings file := by
  simp [qualifies, Fragments.textAt_target hs]

/-- Where there are no fragments, files declare what the mappings that they lead to declare. -/
theorem infoOf_target {fragments : Fragments} (hs : fragments.size = 0) (settings : Settings)
    (files : Table String Tree) :
    infoOf settings (Table.mapValues fragments.target files) = infoOf settings files := by
  unfold infoOf
  rw [Table.mapValues, List.getLast?_map]
  cases files.getLast? with
  | none => rfl
  | some file => simp [qualifies_target hs, Fragments.textAt_target hs]

/-- With readable labels, a bridge type, and no fragments, a scan visits the substituted files up
to and including the first that qualifies. -/
theorem scan_eq {settings : Settings} {host : Host} (h : host.labelsMisfit? = none)
    (ht : typeMisfit? settings = none) {pass : Pass} (hs : pass.fragments.size = 0)
    (hp : pass.failure? = none) (files : Table String Tree) :
    scan settings host files pass =
      (visited settings (Table.mapValues (Tree.substitute host) files), pass) := by
  induction files with
  | nil => simp [scan, visited, Table.mapValues]
  | cons file rest ih =>
    obtain ⟨name, file⟩ := file
    simp only [Table.mapValues] at ih
    simp only [scan, Tree.pass_eq h hs hp, ht, Pass.check_none, hp, Option.isSome_none,
      Bool.false_or, Table.mapValues, List.map_cons, visited, qualifies_target hs]
    by_cases hq : qualifies settings (file.substitute host) = true
    · simp [hq]
    · simp [hq, ih]

end Bridge

namespace Network

/-- The bridge of a network on a host, or why the scan ended; the network with the visited files
substituted; and the fragments after the scan. -/
def discoverBridge (network : Network) (settings : Settings) (host : Host)
    (fragments : Fragments) : Except Failure BridgeInfo × Network × Fragments :=
  match network.configMisfit? settings with
  | some cause => (.error (.misfit cause), network, fragments)
  | none =>
    match network.config? settings with
    | none => (.ok {}, network, fragments)
    | some config =>
      match (fragments.target config).entries? with
      | none => (.ok {}, network, fragments)
      | some files =>
        let (visited, pass) := Bridge.scan settings host (Bridge.byName files) { fragments }
        let info := Bridge.infoOf settings (Table.mapValues pass.fragments.target visited)
        let files := Bridge.replace visited files
        match config with
        | .link fragment => (pass.result info, network, pass.fragments.set ⟨fragment⟩ files)
        | _ => (pass.result info, network.withConfig settings (.mapping files), pass.fragments)

/-- Substitutes the labels of a host in all the configuration files of a network at once. Gives
the files, if the network has any, or why the substitution ended; the network; and the fragments
afterwards. -/
def substituteConfig (network : Network) (settings : Settings) (host : Host)
    (fragments : Fragments) : Except Failure (Option Tree) × Network × Fragments :=
  match network.configMisfit? settings with
  | some cause => (.error (.misfit cause), network, fragments)
  | none =>
    match network.config? settings with
    | none => (.ok none, network, fragments)
    | some config =>
      let (config, pass) := config.pass host 1 { fragments }
      let files := ((pass.fragments.target config).entries?).map fun _ => config
      (pass.result files, network.withConfig settings config, pass.fragments)

/-- Substitutes the labels of a host in the whole metadata of a network, and gives the metadata or
why the substitution ended; the network; and the fragments afterwards. -/
def substituteMetadata (network : Network) (host : Host) (fragments : Fragments) :
    Except Failure Tree × Network × Fragments :=
  match Record.lack? network "metadata" with
  | some cause => (.error (.misfit cause), network, fragments)
  | none =>
    let (metadata, pass) := network.metadata.pass host 0 { fragments }
    (pass.result metadata, { network with metadata }, pass.fragments)

end Network

end HostOverlay
