import HostOverlay.Proofs.Bridge.Repetition
import HostOverlay.Proofs.Substitution.Paths

/-!
# Discovery among substitutions

The configuration files of a network may be substituted one by one, as a discovery does with those
that it visits, or all at once. On a host with final labels it does not matter which: whatever was
substituted before, substituting everything leads to the same files
(`Bridge.substituteEntries_rewritten`), and a discovery finds the bridge that these files declare
(`Bridge.infoOf_visitedOn`). A file that is a text and no mapping is substituted in one way and not
in the other, but it declares nothing in either form. Once everything is substituted, nothing
changes any more (`Bridge.rewritten_eq_self`).
-/

namespace HostOverlay

open Schema

namespace Tree

/-- A tree that stays the same where a mapping holds it does so as a whole. -/
theorem substitute_eq_self {host : Host} {tree : Tree} (h : substituteHeld host tree = tree) :
    tree.substitute host = tree := by
  cases tree with
  | mapping entries => rwa [substituteHeld] at h
  | _ => rfl

section

variable {host : Host} (h : Record.isValid host = true)
include h

/-- A tree has the same texts whether it is substituted as a whole or where a mapping holds it: it
has texts only if it is a mapping. -/
theorem textAt_substitute (tree : Tree) (key : String) :
    (tree.substitute host).textAt key = (substituteHeld host tree).textAt key := by
  cases tree with
  | text value =>
    rw [substituteHeld, Host.expand_of_isValid h]
    rfl
  | _ => rw [substituteHeld]; rfl

variable (hf : host.HasFinalLabels)
include hf

/-- What a reference stands for on a host with final labels is no reference. -/
theorem substituteHeld_deref (reference : Reference) :
    substituteHeld host (host.deref reference) = host.deref reference := by
  cases reference with
  | label name => exact (Host.substituteHeld_deref_label_eq_iff h name).mpr (Or.inl (hf name))
  | nothing => rfl

/-- On a host with final labels, substitution in entries is idempotent. -/
theorem substituteEntries_substituteEntries (entries : Table String Tree) :
    substituteEntries host (substituteEntries host entries) = substituteEntries host entries := by
  have hs := (substituteHeld_substituteHeld_eq_iff host host (mapping entries)).mpr
    fun reference _ => substituteHeld_deref h hf reference
  rwa [substituteHeld, substituteHeld, mapping.injEq] at hs

/-- On a host with final labels, substituting a tree as a whole before it is substituted where a
mapping holds it makes no difference. -/
theorem substituteHeld_substitute (tree : Tree) :
    substituteHeld host (tree.substitute host) = substituteHeld host tree := by
  cases tree with
  | mapping entries =>
    rw [substitute, substituteHeld, substituteHeld, substituteEntries_substituteEntries h hf]
  | _ => rfl

end

end Tree

namespace Bridge

variable {settings : Settings} {host : Host}

/-- The bridge that files declare on a host once all of them are substituted. -/
def infoOn (settings : Settings) (host : Host) (files : Table String Tree) : BridgeInfo :=
  infoOf settings (visited settings (byName (Tree.substituteEntries host files)))

/-- Files can be sorted before or after their contents are changed. -/
theorem byName_mapValues (change : Tree → Tree) (files : Table String Tree) :
    byName (Table.mapValues change files) = Table.mapValues change (byName files) := by
  unfold byName Table.mapValues
  rw [List.map_mergeSort]
  intro a _ b _
  rfl

/-- What a visited file declares, if it is the last one. -/
def declared (settings : Settings) (file : Tree) : BridgeInfo where
  bridge := if qualifies settings file then file.textAt "bridge" else ""
  subnet := file.textAt "bridgeSubnet"

/-- What files declare is what the last of them declares. -/
theorem infoOf_eq_getLast? (settings : Settings) (files : Table String Tree) :
    infoOf settings files =
      ((files.map fun file => declared settings file.2).getLast?).getD {} := by
  unfold infoOf
  rw [List.getLast?_map]
  cases files.getLast? <;> rfl

/-- What the visited files declare is read off the texts of the files, so files that are changed in
two ways to ones with the same texts declare the same. -/
theorem infoOf_visited_congr {change change' : Tree → Tree}
    (h : ∀ file key, (change file).textAt key = (change' file).textAt key)
    (files : Table String Tree) :
    infoOf settings (visited settings (Table.mapValues change files)) =
      infoOf settings (visited settings (Table.mapValues change' files)) := by
  have hq (file : Tree) : qualifies settings (change file) = qualifies settings (change' file) := by
    rw [qualifies, qualifies, h, h]
  have hd (file : Tree) : declared settings (change file) = declared settings (change' file) := by
    rw [declared, declared, hq, h, h]
  -- File by file, the same is declared, and the scan goes on in both cases or in none.
  have hvisited : (visited settings (Table.mapValues change files)).map
      (fun file => declared settings file.2) =
        (visited settings (Table.mapValues change' files)).map
          fun file => declared settings file.2 := by
    induction files with
    | nil => rfl
    | cons file rest ih =>
      simp only [Table.mapValues] at ih
      simp only [Table.mapValues, List.map_cons, visited, hq]
      split
      · simp only [List.map_cons, List.map_nil, hd]
      · simp only [List.map_cons, hd, ih]
  rw [infoOf_eq_getLast?, infoOf_eq_getLast?, hvisited]

/-- A scan finds the bridge that the files declare once all of them are substituted, also those that
it does not visit and those that are no mappings. -/
theorem infoOf_visitedOn (hh : Record.isValid host = true) (files : Table String Tree) :
    infoOf settings (visitedOn settings host files) = infoOn settings host files := by
  rw [visitedOn, infoOn, Tree.substituteEntries_eq_mapValues, byName_mapValues]
  exact infoOf_visited_congr (fun file key => Tree.textAt_substitute hh file key) (byName files)

section

variable {files : Table String Tree} (hd : (Table.keys files).Nodup)
include hd

/-- After a scan each file is as it was or substituted. -/
theorem getD_get?_visitedOn_eq_or (settings : Settings) (host : Host) {file : String × Tree}
    (hfile : file ∈ files) :
    (Table.get? (visitedOn settings host files) file.1).getD file.2 = file.2 ∨
      (Table.get? (visitedOn settings host files) file.1).getD file.2 = file.2.substitute host := by
  cases hv : Table.get? (visitedOn settings host files) file.1 with
  | none => exact Or.inl rfl
  | some value => exact Or.inr (eq_substitute_of_get?_visitedOn hd hfile hv)

/-- Substituting all files after a scan on a host with final labels is substituting all of them in
the first place. -/
theorem substituteEntries_rewritten (hh : Record.isValid host = true) (hf : host.HasFinalLabels) :
    Tree.substituteEntries host (rewritten settings host files) =
      Tree.substituteEntries host files := by
  have hheld : ∀ file ∈ files, Tree.substituteHeld host
      ((Table.get? (visitedOn settings host files) file.1).getD file.2) =
        Tree.substituteHeld host file.2 := by
    intro file hfile
    rcases getD_get?_visitedOn_eq_or hd settings host hfile with he | he
    · rw [he]
    · rw [he, Tree.substituteHeld_substitute hh hf]
  rw [Tree.substituteEntries_eq_mapValues, Tree.substituteEntries_eq_mapValues, rewritten, replace,
    Table.mapValues, List.map_map]
  exact List.map_congr_left fun file hfile => Prod.ext rfl (hheld file hfile)

/-- A scan changes nothing once all files are substituted. -/
theorem rewritten_eq_self (hs : Tree.substituteEntries host files = files) :
    rewritten settings host files = files := by
  have hheld : ∀ file ∈ files, Tree.substituteHeld host file.2 = file.2 := by
    rintro ⟨name, file⟩ hfile
    have hget : Table.get? files name = some file := Table.get?_of_mem hd hfile
    have hget' : Table.get? files name = some (Tree.substituteHeld host file) := by
      rw [← hs, Tree.substituteEntries_eq_mapValues, Table.get?_mapValues, hget, Option.map_some]
    rw [hget, Option.some.injEq] at hget'
    exact hget'.symm
  have hkept : ∀ file ∈ files,
      (file.1, (Table.get? (visitedOn settings host files) file.1).getD file.2) = id file := by
    intro file hfile
    refine Prod.ext rfl ?_
    rcases getD_get?_visitedOn_eq_or hd settings host hfile with he | he
    · exact he
    · exact he.trans (Tree.substitute_eq_self (hheld file hfile))
  calc rewritten settings host files = files.map id := List.map_congr_left hkept
    _ = files := List.map_id files

end

end Bridge

namespace Network

variable {network : Network} {settings : Settings} {host : Host} {fragments : Fragments}

/-- The bridge that the configuration files of a network declare on a host; without such files the
network has none. -/
def bridgeOn (network : Network) (settings : Settings) (host : Host) : BridgeInfo :=
  ((network.cniConfig? settings).map (Bridge.infoOn settings host)).getD {}

/-- Putting a value in the place of the configuration files makes its entries the files. -/
theorem cniConfig?_withConfig {old : Tree} (h : network.config? settings = some old)
    (config : Tree) :
    (network.withConfig settings config).cniConfig? settings = config.entries? := by
  rw [cniConfig?, config?_withConfig h, Option.bind_some]

section

variable (hs : Record.isValid settings = true) (hn : Record.isValid network = true)
  (hh : Record.isValid host = true) (hf : fragments.size = 0)
include hs hn hh hf

/-- A discovery on a valid host finds the bridge that the files declare on it, and leaves the files
as its scan does. -/
theorem discoverBridge_eq_bridgeOn :
    ∃ changed, network.discoverBridge settings host fragments =
        (.ok (network.bridgeOn settings host), changed, fragments) ∧
      changed.cniConfig? settings =
        (network.cniConfig? settings).map (Bridge.rewritten settings host) := by
  have hm := configMisfit?_eq_none hs hn
  unfold bridgeOn
  cases hc : network.cniConfig? settings with
  | none =>
    exact ⟨network, discoverBridge_of_cniConfig?_eq_none hm hf hc host, hc⟩
  | some files =>
    have hdiscover := discoverBridge_of_cniConfig?_eq_some hm hf (Record.lack?_eq_none hs _) hc
      (Host.labelsMisfit?_of_isValid hh)
    rw [Bridge.infoOf_visitedOn hh] at hdiscover
    exact ⟨_, hdiscover, cniConfig?_withConfig (cniConfig?_eq_some_iff.mp hc) _⟩

/-- Substituting all configuration files at once substitutes each of them. -/
theorem cniConfig?_substituteConfig :
    ∃ files changed, network.substituteConfig settings host fragments =
        (.ok files, changed, fragments) ∧
      changed.cniConfig? settings =
        (network.cniConfig? settings).map (Tree.substituteEntries host) := by
  have hm := configMisfit?_eq_none hs hn
  cases hc : network.config? settings with
  | none =>
    refine ⟨none, network, by rw [substituteConfig, hm, hc], ?_⟩
    rw [cniConfig?, hc]
    rfl
  | some config =>
    have hpass : config.pass host 1 { fragments } = (config.substitute host, { fragments }) :=
      Tree.pass_eq (Host.labelsMisfit?_of_isValid hh) hf rfl 1 config
    refine ⟨_, _, by rw [substituteConfig, hm, hc]; simp only [hpass]; rfl, ?_⟩
    rw [cniConfig?_withConfig hc, Tree.entries?_substitute, cniConfig?, hc, Option.bind_some]

/-- Substituting the whole metadata of a network substitutes each configuration file. -/
theorem cniConfig?_substituteMetadata :
    ∃ metadata changed, network.substituteMetadata host fragments =
        (.ok metadata, changed, fragments) ∧
      changed.cniConfig? settings =
        (network.cniConfig? settings).map (Tree.substituteEntries host) := by
  obtain ⟨key, hk⟩ := Settings.cniConfigKey_of_isValid hs
  obtain ⟨entries, hm⟩ := metadata_of_isValid hn
  have hpass : network.metadata.pass host 0 { fragments } =
      (network.metadata.substitute host, { fragments }) :=
    Tree.pass_eq (Host.labelsMisfit?_of_isValid hh) hf rfl 0 _
  refine ⟨_, _, by rw [substituteMetadata, Record.lack?_eq_none hn]; simp only [hpass]; rfl, ?_⟩
  -- The metadata hold the files, so they are substituted as a value that a mapping holds.
  simp only [cniConfig?, config?, hk, hm, Tree.substitute, Tree.get?, Tree.entries?,
    Option.bind_some, Tree.substituteEntries_eq_mapValues host entries, Table.get?_mapValues]
  cases Table.get? entries key with
  | none => rfl
  | some config => exact Tree.entries?_substituteHeld hh config

end

end Network

end HostOverlay
