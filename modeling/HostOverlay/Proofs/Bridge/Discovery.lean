import HostOverlay.Bridge
import HostOverlay.Proofs.Labels
import HostOverlay.Topology.Validity

/-!
# What one discovery does

`Network.discoverBridge` scans the configuration files of a network and puts the substituted files
back. For a network and settings that fit, without fragments, `discoverBridge_of_cniConfig?_eq_some`
says what comes of it: the answer is what the visited files declare once they are substituted
(`Bridge.visitedOn`), and of the network only the visited files change (`Bridge.rewritten`). The
lemmas about `Bridge.replace` and `Network.withConfig` say how the changed network reads afterwards.
-/

namespace HostOverlay

open Schema

namespace Bridge

/-- The files that a scan on a host visits, as the scan leaves them. -/
def visitedOn (settings : Settings) (host : Host) (files : Table String Tree) :
    Table String Tree :=
  visited settings (Table.mapValues (Tree.substitute host) (byName files))

/-- All files as a scan on a host leaves them. -/
def rewritten (settings : Settings) (host : Host) (files : Table String Tree) :
    Table String Tree :=
  replace (visitedOn settings host files) files

/-- The visited files are among the files. -/
theorem mem_of_mem_visited {settings : Settings} {files : Table String Tree}
    {file : String × Tree} (h : file ∈ visited settings files) : file ∈ files := by
  induction files with
  | nil => simp [visited] at h
  | cons first rest ih =>
    rw [visited] at h
    split at h
    · rw [List.mem_singleton.mp h]
      exact List.mem_cons_self
    · rcases List.mem_cons.mp h with rfl | hr
      · exact List.mem_cons_self
      · exact List.mem_cons_of_mem _ (ih hr)

/-- Replacing files keeps all the names. -/
theorem keys_replace (visited files : Table String Tree) :
    Table.keys (replace visited files) = Table.keys files := by
  simp [Table.keys, replace, Function.comp_def]

/-- Sorting files by name keeps the files. -/
theorem byName_perm (files : Table String Tree) : (byName files).Perm files :=
  List.mergeSort_perm files _

/-- Different names stay different when the files are sorted. -/
theorem nodup_keys_byName {files : Table String Tree} (hd : (Table.keys files).Nodup) :
    (Table.keys (byName files)).Nodup :=
  ((byName_perm files).map Prod.fst).nodup_iff.mpr hd

/-- Files can be replaced before or after they are sorted: the names decide both. -/
theorem byName_replace (visited files : Table String Tree) :
    byName (replace visited files) = replace visited (byName files) := by
  unfold byName replace
  rw [List.map_mergeSort]
  intro a _ b _
  rfl

/-- Replacing files by files that are there already changes nothing. -/
theorem replace_eq_self {visited files : Table String Tree} (hd : (Table.keys files).Nodup)
    (h : ∀ file ∈ visited, file ∈ files) : replace visited files = files := by
  have hsame : ∀ file ∈ files,
      (file.1, (Table.get? visited file.1).getD file.2) = id file := by
    rintro ⟨name, file⟩ hm
    cases hv : Table.get? visited name with
    | none => rfl
    | some value =>
      have hf : Table.get? files name = some file := Table.get?_of_mem hd hm
      have hf' : Table.get? files name = some value :=
        Table.get?_of_mem hd (h _ (Table.mem_of_get?_eq_some hv))
      rw [hf, Option.some.injEq] at hf'
      rw [Option.getD_some, ← hf', id]
  calc replace visited files = files.map id := List.map_congr_left hsame
    _ = files := List.map_id files

/-- Files behind a visited one do not change when it is replaced, for they have other names. -/
theorem replace_cons_of_not_mem {name : String} (file : Tree) (visited : Table String Tree)
    {files : Table String Tree} (hn : name ∉ Table.keys files) :
    replace ((name, file) :: visited) files = replace visited files := by
  apply List.map_congr_left
  intro entry hm
  have hne : entry.1 ≠ name := by
    rintro rfl
    exact hn (List.mem_map_of_mem hm)
  rw [Table.get?_cons, if_neg hne]

/-- A scan of files in which the visited ones were replaced ends at the same file: the files in
front of it were replaced by files that do not qualify, and it by one that does. -/
theorem visited_replace_visited (settings : Settings) (change : Tree → Tree)
    {files : Table String Tree} (hd : (Table.keys files).Nodup) :
    visited settings (replace (visited settings (Table.mapValues change files)) files) =
      visited settings (Table.mapValues change files) := by
  induction files with
  | nil => rfl
  | cons first rest ih =>
    obtain ⟨name, file⟩ := first
    rw [Table.keys, List.map_cons, List.nodup_cons] at hd
    obtain ⟨hn, hd⟩ := hd
    have hm : Table.mapValues change ((name, file) :: rest) =
        (name, change file) :: Table.mapValues change rest := rfl
    have hr (visited : Table String Tree) :
        replace ((name, change file) :: visited) ((name, file) :: rest) =
          (name, change file) :: replace visited rest := by
      rw [replace, List.map_cons, ← replace, replace_cons_of_not_mem _ _ hn, Table.get?_cons,
        if_pos rfl]
      rfl
    -- The first file was visited in any case, so it was replaced; whether the scan goes on is asked
    -- of what replaced it, both times.
    rw [hm, visited]
    by_cases hq : qualifies settings (change file) = true
    · rw [if_pos hq, hr, visited, if_pos hq]
    · rw [if_neg hq, hr, visited, if_neg hq, ih hd]

/-- A scan leaves of a file that it visits the substituted file. The file is found by its name, so it
takes different names for it to be this file and not another. -/
theorem eq_substitute_of_get?_visitedOn {settings : Settings} {host : Host}
    {files : Table String Tree} (hd : (Table.keys files).Nodup) {name : String} {file value : Tree}
    (hf : (name, file) ∈ files)
    (hv : Table.get? (visitedOn settings host files) name = some value) :
    value = file.substitute host := by
  have hmem : (name, value) ∈ Table.mapValues (Tree.substitute host) (byName files) :=
    mem_of_mem_visited (Table.mem_of_get?_eq_some hv)
  obtain ⟨⟨name', other⟩, ho, he⟩ := List.mem_map.mp hmem
  obtain ⟨rfl, rfl⟩ := Prod.mk.inj he
  have ho' : Table.get? files name' = some other :=
    Table.get?_of_mem hd ((byName_perm files).mem_iff.mp ho)
  have hf' : Table.get? files name' = some file := Table.get?_of_mem hd hf
  rw [ho', Option.some.injEq] at hf'
  rw [hf']

/-- A scan of the rewritten files visits the files that the first scan left. -/
theorem visited_byName_rewritten (settings : Settings) (host : Host) {files : Table String Tree}
    (hd : (Table.keys files).Nodup) :
    visited settings (byName (rewritten settings host files)) = visitedOn settings host files := by
  rw [rewritten, byName_replace]
  exact visited_replace_visited settings (Tree.substitute host) (nodup_keys_byName hd)

end Bridge

namespace Network

/-- The configuration files are what the key of the settings holds, if that is a mapping. -/
theorem cniConfig?_eq_some_iff {network : Network} {settings : Settings}
    {files : Table String Tree} :
    network.cniConfig? settings = some files ↔
      network.config? settings = some (.mapping files) := by
  rw [cniConfig?, Option.bind_eq_some_iff]
  constructor
  · rintro ⟨config, hc, he⟩
    cases config with
    | mapping entries =>
      rw [hc, ← Option.some.inj he]
    | _ => simp [Tree.entries?] at he
  · intro hc
    exact ⟨_, hc, rfl⟩

/-- Other configuration files do not keep a network from being searched for them. -/
@[simp] theorem configMisfit?_withConfig (network : Network) (settings : Settings)
    (config : Tree) :
    (network.withConfig settings config).configMisfit? settings =
      network.configMisfit? settings := by
  unfold withConfig
  split
  · obtain ⟨uuid, environmentUuid, name, metadata, margin⟩ := network
    cases metadata <;> rfl
  · rfl

/-- A network that holds something under the key of the settings has a mapping as its metadata. -/
theorem exists_entries_of_config?_eq_some {network : Network} {settings : Settings}
    {config : Tree} (h : network.config? settings = some config) :
    ∃ key entries, settings.cniConfigKey = .text key ∧ network.metadata = .mapping entries ∧
      Table.get? entries key = some config := by
  unfold config? at h
  split at h
  · rename_i key hk
    obtain ⟨entries, he, hg⟩ := Option.bind_eq_some_iff.mp h
    refine ⟨key, entries, hk, ?_, hg⟩
    cases hm : network.metadata with
    | mapping held =>
      rw [hm, Tree.entries?, Option.some.injEq] at he
      rw [he]
    | _ => simp [hm, Tree.entries?] at he
  · simp at h

/-- Putting configuration files in the place of others is storing them in the metadata. -/
theorem withConfig_eq {network : Network} {settings : Settings} {key : String}
    {entries : Table String Tree} (hk : settings.cniConfigKey = .text key)
    (hm : network.metadata = .mapping entries) (config : Tree) :
    network.withConfig settings config =
      { network with metadata := .mapping (Table.put key config entries) } := by
  rw [withConfig, hk]
  simp only [hm, Tree.put]

/-- Configuration files that are put in the place of others are read back. -/
theorem config?_withConfig {network : Network} {settings : Settings} {old : Tree}
    (h : network.config? settings = some old) (config : Tree) :
    (network.withConfig settings config).config? settings = some config := by
  obtain ⟨key, entries, hk, hm, -⟩ := exists_entries_of_config?_eq_some h
  rw [withConfig_eq hk hm, config?, hk]
  exact Table.get?_put_self key config entries

/-- Putting the configuration files back that a network has changes nothing. -/
theorem withConfig_eq_self {network : Network} {settings : Settings} {config : Tree}
    (h : network.config? settings = some config) : network.withConfig settings config = network := by
  obtain ⟨key, entries, hk, hm, hg⟩ := exists_entries_of_config?_eq_some h
  rw [withConfig_eq hk hm, Table.put_eq_self hg, ← hm]

/-- Whether the configuration files of a network have different names, as the keys of a dictionary
have. -/
def HasDistinctFiles (network : Network) (settings : Settings) : Prop :=
  ∀ files, network.cniConfig? settings = some files → (Table.keys files).Nodup

section

variable {network : Network} {settings : Settings} {fragments : Fragments}

/-- A network without configuration files has no bridge, and the search for one changes nothing. -/
theorem discoverBridge_of_cniConfig?_eq_none (hm : network.configMisfit? settings = none)
    (hs : fragments.size = 0) (hc : network.cniConfig? settings = none) (host : Host) :
    network.discoverBridge settings host fragments = (.ok {}, network, fragments) := by
  rw [discoverBridge, hm]
  cases hk : network.config? settings with
  | none => rfl
  | some config =>
    rw [cniConfig?, hk, Option.bind_some] at hc
    cases config with
    | mapping entries => simp [Tree.entries?] at hc
    | link fragment =>
      -- Without fragments a link leads to no files, and there is nothing to store for it.
      have hf : fragments.set ⟨fragment⟩ [] = fragments := by
        have ho : fragments.objects = [] := List.length_eq_zero_iff.mp hs
        rw [Pool.set, ho, List.set_nil, ← ho]
      simp [Fragments.target, Fragments.entries_of_size_eq_zero hs, Tree.entries?, Bridge.byName,
        Bridge.scan, Bridge.replace, Bridge.infoOf, Table.mapValues, Pass.result, hf]
    | _ => rfl

/-- A scan that goes through gives the bridge that the visited files declare, and the network keeps
those files as the scan leaves them. -/
theorem discoverBridge_of_scan_eq (hm : network.configMisfit? settings = none)
    (hs : fragments.size = 0) {files visited : Table String Tree}
    (hc : network.cniConfig? settings = some files) {host : Host}
    (hscan : Bridge.scan settings host (Bridge.byName files) { fragments } =
      (visited, { fragments })) :
    network.discoverBridge settings host fragments =
      (.ok (Bridge.infoOf settings visited),
        network.withConfig settings (.mapping (Bridge.replace visited files)), fragments) := by
  rw [cniConfig?_eq_some_iff] at hc
  simp only [discoverBridge, hm, hc, Fragments.target, Tree.entries?, hscan, Pass.result,
    Bridge.infoOf_target hs]

/-- On a host whose labels can be read, the bridge of a network is what the visited files declare
after substitution, and only these files change. -/
theorem discoverBridge_of_cniConfig?_eq_some (hm : network.configMisfit? settings = none)
    (hs : fragments.size = 0) (ht : Bridge.typeMisfit? settings = none)
    {files : Table String Tree} (hc : network.cniConfig? settings = some files) {host : Host}
    (hl : host.labelsMisfit? = none) :
    network.discoverBridge settings host fragments =
      (.ok (Bridge.infoOf settings (Bridge.visitedOn settings host files)),
        network.withConfig settings (.mapping (Bridge.rewritten settings host files)),
        fragments) :=
  discoverBridge_of_scan_eq hm hs hc (Bridge.scan_eq hl ht hs rfl _)

end

end Network

end HostOverlay
