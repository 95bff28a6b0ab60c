import HostOverlay.Proofs.Bridge.Reach

/-!
# Which bridge is found

Of the substituted files, the first by name that declares a bridge says which one it is, and if none
does, the last by name still says which subnet there is (`Bridge.Chosen`). The names are all that
orders the files: the choice is the same however they are stored, and for files with different names
there is only one. A discovery finds what is chosen, so it finds the same in any order
(`Network.discoverBridge_chooses`).

The proof is an induction on the sorted files along the scan. A file that declares no bridge may be
passed over as soon as there is another behind it.
-/

namespace HostOverlay

open Schema

namespace Bridge

/-- The bridge and the subnet that are chosen from files. -/
inductive Chosen (settings : Settings) (files : Table String Tree) : BridgeInfo → Prop
  /-- Without files there is neither a bridge nor a subnet. -/
  | none (h : files = []) : Chosen settings files ⟨"", ""⟩
  /-- The file with the least name among those that declare a bridge decides. -/
  | least {name : String} {file : Tree} {bridge subnet : String} (hm : (name, file) ∈ files)
      (hb : IsBridgeFile settings file)
      (hl : ∀ other ∈ files, IsBridgeFile settings other.2 → name ≤ other.1)
      (hbridge : file.CountsAs "bridge" bridge) (hsubnet : file.CountsAs "bridgeSubnet" subnet) :
      Chosen settings files ⟨bridge, subnet⟩
  /-- If no file declares a bridge, the file with the greatest name gives the subnet. -/
  | greatest {name : String} {file : Tree} {subnet : String} (hm : (name, file) ∈ files)
      (hn : ∀ other ∈ files, ¬ IsBridgeFile settings other.2)
      (hg : ∀ other ∈ files, other.1 ≤ name) (hsubnet : file.CountsAs "bridgeSubnet" subnet) :
      Chosen settings files ⟨"", subnet⟩

variable {settings : Settings} {files files' : Table String Tree} {info info' : BridgeInfo}

/-- A scan of no files visits none, and any other scan visits at least one. -/
theorem visited_eq_nil_iff : visited settings files = [] ↔ files = [] := by
  cases files with
  | nil => simp [visited]
  | cons file rest =>
    rw [visited]
    split <;> simp

/-- What is in front of the last file makes no difference to what the files declare. -/
theorem infoOf_cons {file : String × Tree} (h : files ≠ []) :
    infoOf settings (file :: files) = infoOf settings files := by
  rw [infoOf, infoOf, List.getLast?_cons, List.getLast?_eq_some_getLast h]
  rfl

/-- A file that declares no bridge and comes first by name is passed over. -/
theorem Chosen.cons {first : String × Tree} (hfirst : ∀ other ∈ files, first.1 < other.1)
    (hn : ¬ IsBridgeFile settings first.2) (hne : files ≠ []) (h : Chosen settings files info) :
    Chosen settings (first :: files) info := by
  cases h with
  | none h => exact absurd h hne
  | least hm hb hl hbridge hsubnet =>
    refine .least (List.mem_cons_of_mem _ hm) hb (fun other ho hother => ?_) hbridge hsubnet
    rcases List.mem_cons.mp ho with rfl | ho
    · exact absurd hother hn
    · exact hl other ho hother
  | greatest hm hnone hg hsubnet =>
    refine .greatest (List.mem_cons_of_mem _ hm) ?_ ?_ hsubnet
    · exact List.forall_mem_cons.mpr ⟨hn, hnone⟩
    · exact List.forall_mem_cons.mpr ⟨Std.le_of_lt (hfirst _ hm), hg⟩

/-- What the visited files declare is chosen, if the files are in strict order. -/
theorem chosen_infoOf_visited (hs : files.Pairwise fun a b => a.1 < b.1) :
    Chosen settings files (infoOf settings (visited settings files)) := by
  induction files with
  | nil => exact .none rfl
  | cons first rest ih =>
    obtain ⟨hfirst, hs⟩ := List.pairwise_cons.mp hs
    rw [visited]
    by_cases hq : qualifies settings first.2 = true
    · rw [if_pos hq]
      have hinfo : infoOf settings [first] =
          ⟨first.2.textAt "bridge", first.2.textAt "bridgeSubnet"⟩ := by
        simp [infoOf, hq]
      rw [hinfo]
      refine .least List.mem_cons_self (qualifies_iff.mp hq) ?_ (Tree.countsAs_iff.mpr rfl)
        (Tree.countsAs_iff.mpr rfl)
      refine List.forall_mem_cons.mpr ⟨fun _ => String.le_refl _, fun other ho _ => ?_⟩
      exact Std.le_of_lt (hfirst other ho)
    · have hn : ¬ IsBridgeFile settings first.2 := fun h => hq (qualifies_iff.mpr h)
      rw [if_neg hq]
      by_cases hr : rest = []
      · subst hr
        have hinfo : infoOf settings (first :: visited settings []) =
            ⟨"", first.2.textAt "bridgeSubnet"⟩ := by
          simp [infoOf, visited, hq]
        rw [hinfo]
        exact .greatest List.mem_cons_self (by simpa using hn) (by simp)
          (Tree.countsAs_iff.mpr rfl)
      · rw [infoOf_cons (mt visited_eq_nil_iff.mp hr)]
        exact (ih hs).cons hfirst hn hr

/-- The choice does not depend on the order in which the files are stored. -/
theorem Chosen.of_perm (hp : files'.Perm files) (h : Chosen settings files info) :
    Chosen settings files' info := by
  have hmem (file : String × Tree) : file ∈ files ↔ file ∈ files' := hp.mem_iff.symm
  cases h with
  | none h => exact .none (List.perm_nil.mp (h ▸ hp))
  | least hm hb hl hbridge hsubnet =>
    simp only [hmem] at hm hl
    exact .least hm hb hl hbridge hsubnet
  | greatest hm hn hg hsubnet =>
    simp only [hmem] at hm hn hg
    exact .greatest hm hn hg hsubnet

/-- Of files with different names there is only one choice. -/
theorem Chosen.eq (hd : (Table.keys files).Nodup) (h : Chosen settings files info)
    (h' : Chosen settings files info') : info = info' := by
  -- A file is known by its name, and what counts as a text of it is known by the file.
  have hfile {name : String} {file file' : Tree} (hm : (name, file) ∈ files)
      (hm' : (name, file') ∈ files) : file = file' :=
    Option.some.inj ((Table.get?_of_mem hd hm).symm.trans (Table.get?_of_mem hd hm'))
  have htext {file : Tree} {key content content' : String} (hc : file.CountsAs key content)
      (hc' : file.CountsAs key content') : content = content' :=
    (Tree.countsAs_iff.mp hc).trans (Tree.countsAs_iff.mp hc').symm
  cases h with
  | none h =>
    subst h
    cases h' with
    | none => rfl
    | least hm' => exact absurd hm' List.not_mem_nil
    | greatest hm' => exact absurd hm' List.not_mem_nil
  | least hm hb hl hbridge hsubnet =>
    cases h' with
    | none h' => exact absurd (h' ▸ hm) List.not_mem_nil
    | least hm' hb' hl' hbridge' hsubnet' =>
      obtain rfl := String.le_antisymm (hl _ hm' hb') (hl' _ hm hb)
      obtain rfl := hfile hm hm'
      rw [htext hbridge hbridge', htext hsubnet hsubnet']
    | greatest _ hn' => exact absurd hb (hn' _ hm)
  | greatest hm hn hg hsubnet =>
    cases h' with
    | none h' => exact absurd (h' ▸ hm) List.not_mem_nil
    | least hm' hb' => exact absurd hb' (hn _ hm')
    | greatest hm' _ hg' hsubnet' =>
      obtain rfl := String.le_antisymm (hg' _ hm) (hg _ hm')
      obtain rfl := hfile hm hm'
      rw [htext hsubnet hsubnet']

section

variable (host : Host) (hd : (Table.keys files).Nodup)
include hd

/-- What a scan on a host finds is chosen from the substituted files. -/
theorem chosen_infoOf_visitedOn :
    Chosen settings (Table.mapValues (Tree.substitute host) files)
      (infoOf settings (visitedOn settings host files)) := by
  have hsorted : (Table.mapValues (Tree.substitute host) (byName files)).Pairwise
      fun a b => a.1 < b.1 := pairwise_mapValues (pairwise_byName hd)
  have hperm : (Table.mapValues (Tree.substitute host) files).Perm
      (Table.mapValues (Tree.substitute host) (byName files)) :=
    ((byName_perm files).map _).symm
  exact (chosen_infoOf_visited hsorted).of_perm hperm

/-- Nothing else is chosen from the substituted files. -/
theorem chosen_substituted_iff :
    Chosen settings (Table.mapValues (Tree.substitute host) files) info ↔
      info = infoOf settings (visitedOn settings host files) := by
  have hd' : (Table.keys (Table.mapValues (Tree.substitute host) files)).Nodup := by
    rwa [Table.keys_mapValues]
  have hchosen : Chosen settings _ _ := chosen_infoOf_visitedOn host hd
  constructor
  · intro h
    exact h.eq hd' hchosen
  · rintro rfl
    exact hchosen

/-- A scan finds the same however the files are stored. -/
theorem infoOf_visitedOn_of_perm (hp : files'.Perm files) :
    infoOf settings (visitedOn settings host files') =
      infoOf settings (visitedOn settings host files) := by
  have hd' : (Table.keys files').Nodup := (hp.map Prod.fst).nodup_iff.mpr hd
  rw [← chosen_substituted_iff host hd]
  exact (chosen_infoOf_visitedOn host hd').of_perm (hp.map _).symm

end

end Bridge

namespace Network

variable {network : Network} {settings : Settings} {host : Host} {fragments : Fragments}

/-- The configuration files of a network; a network without any has none. -/
def configFiles (network : Network) (settings : Settings) : Table String Tree :=
  (network.cniConfig? settings).getD []

/-- A discovery finds the one bridge and subnet that are chosen from the substituted configuration
files of the network, and it finds the same however the files are stored. -/
theorem discoverBridge_chooses (hn : Record.isValid network = true)
    (hs : Record.isValid settings = true) (hd : network.HasDistinctFiles settings)
    (hh : Record.isValid host = true) (hf : fragments.size = 0) :
    ∃ info, (network.discoverBridge settings host fragments).1 = .ok info ∧
      (∀ other, Bridge.Chosen settings
        (Table.mapValues (Tree.substitute host) (network.configFiles settings)) other ↔
          other = info) ∧
      ∀ files files', network.cniConfig? settings = some files → files'.Perm files →
        ((network.withConfig settings (.mapping files')).discoverBridge settings host
          fragments).1 = .ok info := by
  have hm : network.configMisfit? settings = none := configMisfit?_eq_none hs hn
  have ht : Bridge.typeMisfit? settings = none := Record.lack?_eq_none hs _
  have hl : host.labelsMisfit? = none := Host.labelsMisfit?_of_isValid hh
  unfold configFiles
  cases hc : network.cniConfig? settings with
  | none =>
    have hnone : Bridge.infoOf settings (Bridge.visitedOn settings host []) = {} := by
      rw [Bridge.visitedOn, Bridge.byName, List.mergeSort_nil]
      rfl
    have hempty : (Table.keys ([] : Table String Tree)).Nodup := List.nodup_nil
    refine ⟨{}, by rw [discoverBridge_of_cniConfig?_eq_none hm hf hc], fun other => ?_,
      fun files _ hfiles _ => absurd hfiles.symm (Option.some_ne_none files)⟩
    rw [← hnone]
    exact Bridge.chosen_substituted_iff host hempty
  | some files =>
    refine ⟨_, by rw [discoverBridge_of_cniConfig?_eq_some hm hf ht hc hl], fun other => ?_, ?_⟩
    · exact Bridge.chosen_substituted_iff host (hd files hc)
    · intro files₀ files' hfiles hp
      obtain rfl := Option.some.inj hfiles
      have hc' : (network.withConfig settings (.mapping files')).cniConfig? settings =
          some files' :=
        cniConfig?_eq_some_iff.mpr (config?_withConfig (cniConfig?_eq_some_iff.mp hc) _)
      have hm' : (network.withConfig settings (.mapping files')).configMisfit? settings = none := by
        rw [configMisfit?_withConfig, hm]
      rw [discoverBridge_of_cniConfig?_eq_some hm' hf ht hc' hl,
        Bridge.infoOf_visitedOn_of_perm host (hd files hc) hp]

/-- Files in no order: the first by name is no mapping, and the type and the bridge of the next one
are references. -/
def jumbledFiles : Table String Tree :=
  [("b.conf", .mapping [("type", .text "rancher-bridge"), ("bridge", .text "br-late"),
      ("bridgeSubnet", .text "10.2.0.0/16")]),
    ("a.conf", .mapping [("bridgeSubnet", .number 16 0), ("type", .text "__host_label__: type"),
      ("bridge", .text "__host_label__: bridge")]),
    ("Z.conf", .text "__host_label__: bridge")]

/-- A network with these files. -/
def jumbled : Network where
  metadata := .mapping [("cniConfig", .mapping jumbledFiles)]

/-- On a host with both labels, the second file by name of the jumbled network decides; its subnet
is no text. The files may as well be stored the other way round. -/
theorem discoverBridge_chooses_jumbled :
    let host : Host :=
      { labels := .mapping [("bridge", .text "br-lab"), ("type", .text "rancher-bridge")] }
    Record.isValid jumbled = true ∧ Record.isValid ({} : Settings) = true ∧
      jumbled.HasDistinctFiles {} ∧ Record.isValid host = true ∧
      (jumbled.discoverBridge {} host {}).1 = .ok ⟨"br-lab", ""⟩ ∧
      ((jumbled.withConfig {} (.mapping jumbledFiles.reverse)).discoverBridge {} host {}).1 =
        .ok ⟨"br-lab", ""⟩ := by
  intro host
  have hn : Record.isValid jumbled = true := by decide
  have hs : Record.isValid ({} : Settings) = true := by decide
  have hh : Record.isValid host = true := by decide
  have hc : jumbled.cniConfig? {} = some jumbledFiles := rfl
  have hd : jumbled.HasDistinctFiles {} := by
    intro files hfiles
    rw [← Option.some.inj (hc.symm.trans hfiles)]
    decide
  have hchosen : Bridge.Chosen {} (Table.mapValues (Tree.substitute host) jumbledFiles)
      ⟨"br-lab", ""⟩ :=
    .least (List.mem_cons_of_mem _ List.mem_cons_self) (by decide) (by decide)
      (Tree.countsAs_iff.mpr (by decide)) (Tree.countsAs_iff.mpr (by decide))
  obtain ⟨info, hinfo, hchooses, hperm⟩ :=
    discoverBridge_chooses hn hs hd hh (rfl : Fragments.size {} = 0)
  obtain rfl := (hchooses _).mp hchosen
  exact ⟨hn, hs, hd, hh, hinfo, hperm _ _ hc (List.reverse_perm jumbledFiles)⟩

end Network

end HostOverlay
