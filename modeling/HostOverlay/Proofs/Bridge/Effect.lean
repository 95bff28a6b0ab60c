import HostOverlay.Proofs.Bridge.Reach
import HostOverlay.Proofs.Bridge.Run

/-!
# What a discovery leaves behind

A discovery substitutes in place, but not everywhere. A file whose name it reaches is left
substituted, and a file behind the one that ended the scan is left as it was, with its references
(`Bridge.forall₂_isLeft_rewritten`). Nothing else is touched: neither the names of the files and
their order, nor the rest of the metadata, nor the other fields of the network
(`Network.discoverBridge_isLeft`), nor anything around the network, the hosts among it
(`Agent.discoverBridge_leaves`).

A file is substituted as a whole, not as a value that the mapping of the files holds. A file that is
a text is therefore never a reference.
-/

namespace HostOverlay

open Schema

namespace Bridge

/-- What becomes of a file of a network in a discovery on a host. -/
structure IsLeft (settings : Settings) (host : Host) (files : Table String Tree)
    (before after : String × Tree) : Prop where
  /-- The name is the same. -/
  name_eq : after.1 = before.1
  /-- A file whose name is reached is substituted. -/
  reached : Reaches settings host files before.1 → after.2 = before.2.substitute host
  /-- A file whose name is not reached is as it was. -/
  beyond : ¬ Reaches settings host files before.1 → after.2 = before.2
  /-- A file that is a text is as it was in any case. -/
  text : ∀ content, before.2 = .text content → after.2 = before.2

section

variable {settings : Settings} {host : Host} {files : Table String Tree}
  (hd : (Table.keys files).Nodup)
include hd

/-- What a scan leaves under the name of a file: the substituted file if the name is reached, and
otherwise nothing that would replace the file. -/
theorem get?_visitedOn {name : String} {file : Tree} (hm : (name, file) ∈ files) :
    Table.get? (visitedOn settings host files) name =
      if Reaches settings host files name then some (file.substitute host) else none := by
  cases hv : Table.get? (visitedOn settings host files) name with
  | some value =>
    have hreached := ((mem_visitedOn_iff hd).mp (Table.mem_of_get?_eq_some hv)).2
    rw [if_pos hreached, eq_substitute_of_get?_visitedOn hd hm hv]
  | none =>
    rw [if_neg]
    intro hreached
    have hvisited : (name, file.substitute host) ∈ visitedOn settings host files :=
      (mem_visitedOn_iff hd).mpr ⟨⟨file, hm, rfl⟩, hreached⟩
    have hne := List.lookup_eq_none_iff.mp hv _ hvisited
    simp at hne

/-- A discovery leaves every file as the reach of the discovery says. -/
theorem forall₂_isLeft_rewritten :
    List.Forall₂ (IsLeft settings host files) files (rewritten settings host files) := by
  rw [rewritten, replace, List.forall₂_map_right_iff, List.forall₂_same]
  rintro ⟨name, file⟩ hm
  rw [get?_visitedOn hd hm]
  by_cases hreached : Reaches settings host files name
  · simp only [if_pos hreached, Option.getD_some]
    refine ⟨rfl, fun _ => rfl, fun hbeyond => absurd hreached hbeyond, ?_⟩
    rintro content rfl
    rfl
  · simp only [if_neg hreached, Option.getD_none]
    exact ⟨rfl, fun h => absurd h hreached, fun _ => rfl, fun _ _ => rfl⟩

end

end Bridge

namespace Network

/-- What a network is left as by a discovery on a host. -/
structure IsLeft (settings : Settings) (host : Host) (before after : Network) : Prop where
  /-- The networks differ in their metadata at most. -/
  fields : after = { before with metadata := after.metadata }
  /-- The metadata have the same keys in the same order. -/
  keys : after.metadata.keys? = before.metadata.keys?
  /-- What the metadata hold besides the configuration files is the same. -/
  others : ∀ key, settings.cniConfigKey ≠ .text key →
    after.metadata.get? key = before.metadata.get? key
  /-- A network without configuration files is the same. -/
  none : before.cniConfig? settings = none → after = before
  /-- The configuration files are left as the reach of the discovery says, in their order. -/
  files : ∀ files, before.cniConfig? settings = some files → ∃ files',
    after.cniConfig? settings = some files' ∧
      List.Forall₂ (Bridge.IsLeft settings host files) files files'

variable {network : Network} {settings : Settings} {host : Host} {fragments : Fragments}

/-- Putting configuration files in the place of others touches nothing else. -/
theorem get?_withConfig_of_ne {old : Tree} (h : network.config? settings = some old) (config : Tree)
    {key : String} (hk : settings.cniConfigKey ≠ .text key) :
    (network.withConfig settings config).metadata.get? key = network.metadata.get? key := by
  obtain ⟨own, entries, hown, hm, -⟩ := exists_entries_of_config?_eq_some h
  have hne : key ≠ own := by
    rintro rfl
    exact hk hown
  rw [withConfig_eq hown hm, hm]
  exact Table.get?_put_of_ne hne config entries

/-- Putting configuration files in the place of others keeps the keys of the metadata. -/
theorem keys?_withConfig {old : Tree} (h : network.config? settings = some old) (config : Tree) :
    (network.withConfig settings config).metadata.keys? = network.metadata.keys? := by
  obtain ⟨own, entries, hown, hm, hg⟩ := exists_entries_of_config?_eq_some h
  have hmem : own ∈ Table.keys entries := List.mem_map_of_mem (Table.mem_of_get?_eq_some hg)
  rw [withConfig_eq hown hm, hm]
  exact congrArg some ((Table.isSharp_of_lawful own).keys_put_of_mem hmem)

/-- A discovery on a valid host finds a bridge or that there is none, and leaves the network as its
reach says. -/
theorem discoverBridge_isLeft (hs : Record.isValid settings = true)
    (hn : Record.isValid network = true) (hd : network.HasDistinctFiles settings)
    (hh : Record.isValid host = true) (hf : fragments.size = 0) :
    ∃ info changed, network.discoverBridge settings host fragments =
      (.ok info, changed, fragments) ∧ network.IsLeft settings host changed := by
  have hm := configMisfit?_eq_none hs hn
  cases hc : network.cniConfig? settings with
  | none =>
    refine ⟨_, _, discoverBridge_of_cniConfig?_eq_none hm hf hc host, rfl, rfl, fun _ _ => rfl,
      fun _ => rfl, fun files hfiles => ?_⟩
    simp [hc] at hfiles
  | some files =>
    have hconfig := cniConfig?_eq_some_iff.mp hc
    refine ⟨_, _, discoverBridge_of_cniConfig?_eq_some hm hf (Record.lack?_eq_none hs _) hc
      (Host.labelsMisfit?_of_isValid hh), ?_, keys?_withConfig hconfig _,
      fun key hk => get?_withConfig_of_ne hconfig _ hk, fun hnone => ?_, fun files' hfiles => ?_⟩
    · unfold withConfig
      split <;> rfl
    · simp [hc] at hnone
    · obtain rfl := Option.some.inj (hc.symm.trans hfiles)
      exact ⟨_, cniConfig?_withConfig hconfig _, Bridge.forall₂_isLeft_rewritten (hd _ hc)⟩

end Network

/-- A discovery on a valid host leaves its network as its reach says, and everything else as it was:
the settings, the journal and the clients, and of the store the hosts, the services, all lists and
the other networks. -/
theorem Agent.discoverBridge_leaves {agent : Agent} {handle : Handle Network} {host : Host}
    (hr : agent.IsReadyAt handle) (hh : Record.isValid host = true) :
    ∃ info after, agent.discoverBridge handle host = (.ok info, after) ∧
      after = { agent with store := { agent.store with networks := after.store.networks } } ∧
      (∀ other, other ≠ handle →
        after.store.networks.get other = agent.store.networks.get other) ∧
      (agent.store.networks.get handle).IsLeft agent.settings host
        (after.store.networks.get handle) := by
  have hd : (agent.store.networks.get handle).HasDistinctFiles agent.settings := by
    intro files hfiles
    exact hr.files files ((filesOf_eq hr.fragments handle).trans hfiles)
  obtain ⟨info, changed, he, hleft⟩ :=
    Network.discoverBridge_isLeft hr.settings hr.network hd hh hr.fragments
  refine ⟨info, agent.setNetwork handle changed agent.store.fragments, ?_, rfl,
    fun other ho => Pool.get_set_of_ne _ ho changed, ?_⟩
  · simp only [discoverBridge, he]
  · have hget : (agent.store.networks.set handle changed).get handle = changed :=
      Pool.get_set_self hr.held changed
    show Network.IsLeft _ _ _ ((agent.store.networks.set handle changed).get handle)
    rwa [hget]

/-- Files with references, stored in no order. The second by name declares a bridge once its label
is substituted, and the first is a text. -/
def Bridge.referring : Table String Tree :=
  [("30-late.conf", .mapping [("bridge", .text "__host_label__: bridge")]),
    ("20-bridge.conf", .mapping [("bridge", .text "__host_label__: bridge"),
      ("type", .text "rancher-bridge")]),
    ("10-note", .text "__host_label__: bridge")]

/-- A network with these files, and with a reference elsewhere in its metadata. -/
def Network.annotated : Network where
  metadata := .mapping [("note", .text "__host_label__: bridge"),
    ("cniConfig", .mapping Bridge.referring)]

/-- A discovery on a host with the label substitutes in the second file by name. It leaves the text
in front of it and the file behind it, and the reference outside the files. -/
theorem Agent.discoverBridge_leaves_annotated :
    let agent : Agent := { store := { networks := ⟨[Network.annotated]⟩ } }
    let host : Host := { labels := .mapping [("bridge", .text "br-lab")] }
    agent.IsReadyAt ⟨0⟩ ∧ Record.isValid host = true ∧
      ∃ info after, agent.discoverBridge ⟨0⟩ host = (.ok info, after) ∧
        after.store.hosts = agent.store.hosts ∧
        (after.store.networks.get ⟨0⟩).metadata.get? "note" =
          some (.text "__host_label__: bridge") ∧
        (after.store.networks.get ⟨0⟩).cniConfig? {} = some
          [("30-late.conf", .mapping [("bridge", .text "__host_label__: bridge")]),
            ("20-bridge.conf", .mapping [("bridge", .text "br-lab"),
              ("type", .text "rancher-bridge")]),
            ("10-note", .text "__host_label__: bridge")] := by
  intro agent host
  have hfiles : agent.filesOf ⟨0⟩ = some Bridge.referring := rfl
  have hr : agent.IsReadyAt ⟨0⟩ := by
    constructor
    · decide
    · decide
    · decide
    · intro files hfound
      rw [← Option.some.inj (hfiles.symm.trans hfound)]
      decide
    · rfl
  have hh : Record.isValid host = true := by decide
  obtain ⟨info, after, he, hrest, -, hleft⟩ := discoverBridge_leaves hr hh
  refine ⟨hr, hh, info, after, he, by rw [hrest], ?_, ?_⟩
  · rw [hleft.others "note" (by simp [agent])]
    rfl
  · obtain ⟨files', hafter, hall⟩ := hleft.files Bridge.referring rfl
    have hlate : ¬ Bridge.Reaches {} host Bridge.referring "30-late.conf" := by decide
    have hbridge : Bridge.Reaches {} host Bridge.referring "20-bridge.conf" := by decide
    rcases hall with _ | ⟨late, _ | ⟨bridge, _ | ⟨note, _ | _⟩⟩⟩
    refine hafter.trans ?_
    simp only [Option.some.injEq, List.cons.injEq, Prod.ext_iff]
    -- The text is in reach of the discovery and stays all the same.
    exact ⟨⟨late.name_eq, late.beyond hlate⟩, ⟨bridge.name_eq, bridge.reached hbridge⟩,
      ⟨note.name_eq, note.text _ rfl⟩, trivial⟩

end HostOverlay
