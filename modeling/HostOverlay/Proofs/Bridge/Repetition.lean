import HostOverlay.Proofs.Bridge.Discovery
import HostOverlay.Proofs.Substitution.References

/-!
# Discoveries one after the other

A discovery leaves the files that it visited substituted, so what a later discovery on another host
finds depends on the earlier one. If the labels of the first host are final, that is if none of them
begins like a reference, then no reference is left in a visited file, and every later discovery,
whatever its host, visits the same files, finds the same bridge and changes nothing
(`Network.discoverBridge_discoverBridge`): the first host decides for all.

The second host may have labels of any kind, readable or not. What carries the proof is therefore
not a law of substitution but of the pass in place: through a tree without references it asks the
host for nothing (`Tree.pass_of_references_eq_nil`).
-/

namespace HostOverlay

open Schema

/-- Whether no label of a host has a text that begins with the keyword of references. A label that
the host lacks has the empty text. -/
def Host.HasFinalLabels (host : Host) : Prop :=
  ∀ name, ¬ Reference.keyword.toList <+: (host.labels.textAt name).toList

/-- On a valid host with final labels, no text becomes a reference. -/
theorem Host.ofText?_expandText {host : Host} (h : Record.isValid host = true)
    (hf : host.HasFinalLabels) (text : String) :
    Reference.ofText? (host.expandText text) = none := by
  cases hr : Reference.ofText? text with
  | none => rwa [expandText_of_ofText?_eq_none host hr]
  | some reference =>
    cases reference with
    | label name =>
      rw [expandText_of_ofText?_eq_label h hr, Reference.ofText?_eq_none_iff]
      exact hf name
    | nothing =>
      rw [expandText_of_ofText?_eq_nothing host hr]
      decide

namespace Tree

/-- Substitution on a host with final labels leaves no reference in a value that a mapping holds. -/
theorem heldReferences_substituteHeld {host : Host} (h : Record.isValid host = true)
    (hf : host.HasFinalLabels) (tree : Tree) : heldReferences (substituteHeld host tree) = [] := by
  induction tree using mappingInduction with
  | text value =>
    rw [substituteHeld, Host.expand_of_isValid h, heldReferences, Host.ofText?_expandText h hf]
    rfl
  | mapping entries ih =>
    rw [substituteHeld, heldReferences, List.eq_nil_iff_forall_not_mem]
    intro reference hr
    obtain ⟨entry, hm, hr⟩ := mem_entryReferences_iff.mp hr
    rw [substituteEntries_eq_mapValues] at hm
    obtain ⟨before, hb, rfl⟩ := List.mem_map.mp hm
    rw [ih before hb] at hr
    exact List.not_mem_nil hr
  | other tree ht hm => rw [substituteHeld_of_other host ht hm, heldReferences_of_other ht hm]

/-- Substitution on a host with final labels leaves no reference in a tree. -/
theorem references_substitute {host : Host} (h : Record.isValid host = true)
    (hf : host.HasFinalLabels) (tree : Tree) : (tree.substitute host).references = [] := by
  cases tree with
  | mapping entries =>
    rw [substitute, references_mapping, ← heldReferences_substituteHeld h hf (mapping entries),
      substituteHeld]
  | _ => simp [substitute, references]

mutual

/-- A pass through a held value without references changes nothing, on any host. -/
theorem passHeld_of_heldReferences_eq_nil (host : Host) {follow : Nat → Nat → Pass → Pass}
    {pass : Pass} (hf : ∀ level fragment, follow level fragment pass = pass)
    (hp : pass.failure? = none) : ∀ (level : Nat) (tree : Tree), heldReferences tree = [] →
      passHeld host follow level tree pass = (tree, pass)
  | level, text value, hr => by
    have ht : Reference.ofText? value = none := by
      rwa [heldReferences, Option.toList_eq_nil_iff] at hr
    simp [passHeld, Host.expandMisfit?, Host.expand, ht]
  | level, mapping entries, hr => by
    rw [heldReferences] at hr
    rw [passHeld, passEntries_of_entryReferences_eq_nil host hf hp (level + 1) entries hr]
  | level, link fragment, _ => by rw [passHeld, hf]
  | level, null, _ | level, bool _, _ | level, number .., _ | level, sequence _, _ => by
    rw [passHeld]

/-- A pass through entries without references changes nothing, on any host. -/
theorem passEntries_of_entryReferences_eq_nil (host : Host) {follow : Nat → Nat → Pass → Pass}
    {pass : Pass} (hf : ∀ level fragment, follow level fragment pass = pass)
    (hp : pass.failure? = none) : ∀ (level : Nat) (entries : List (String × Tree)),
      entryReferences entries = [] →
        passEntries host follow level entries pass = (entries, pass)
  | _, [], _ => by rw [passEntries]
  | level, (key, value) :: rest, hr => by
    rw [entryReferences, List.append_eq_nil_iff] at hr
    have hv := passHeld_of_heldReferences_eq_nil host hf hp level value hr.1
    have hrest := passEntries_of_entryReferences_eq_nil host hf hp level rest hr.2
    simp only [passEntries, hp, Option.isSome_none, Bool.false_eq_true, if_false, hv, hrest]

end

/-- Without fragments, a pass through a tree without references changes nothing, on any host. -/
theorem pass_of_references_eq_nil (host : Host) {pass : Pass} (hs : pass.fragments.size = 0)
    (hp : pass.failure? = none) (level : Nat) {tree : Tree} (hr : tree.references = []) :
    tree.pass host level pass = (tree, pass) := by
  have hf : ∀ level fragment, Fragments.followAt host level fragment pass = pass :=
    fun level fragment => Fragments.followAt_eq host level fragment hs
  cases tree with
  | mapping entries =>
    rw [references] at hr
    rw [Tree.pass, passEntries_of_entryReferences_eq_nil host hf hp level entries hr]
  | link fragment => rw [Tree.pass, hf]
  | _ => rw [Tree.pass] <;> simp

end Tree

/-- If no reference is in a file up to the first that qualifies, a scan on any host visits these
files and changes nothing. -/
theorem Bridge.scan_of_references_eq_nil {settings : Settings} (host : Host)
    (ht : typeMisfit? settings = none) {pass : Pass} (hs : pass.fragments.size = 0)
    (hp : pass.failure? = none) {files : Table String Tree}
    (hr : ∀ file ∈ visited settings files, file.2.references = []) :
    scan settings host files pass = (visited settings files, pass) := by
  induction files with
  | nil => rfl
  | cons first rest ih =>
    obtain ⟨name, file⟩ := first
    have hfile : (name, file) ∈ visited settings ((name, file) :: rest) := by
      rw [visited]
      split <;> exact List.mem_cons_self
    have hpass := Tree.pass_of_references_eq_nil host hs hp fileLevel (hr _ hfile)
    simp only [scan, hpass, ht, Pass.check_none, hp, Option.isSome_none, Bool.false_or,
      qualifies_target hs]
    rw [visited] at hr ⊢
    by_cases hq : qualifies settings file = true
    · rw [if_pos hq, if_pos hq]
    · rw [if_neg hq] at hr
      rw [if_neg hq, if_neg hq, ih fun other ho => hr other (List.mem_cons_of_mem _ ho)]

namespace Network

variable {network : Network} {settings : Settings}

/-- If no reference is in the files that a discovery visits, it finds what they declare and changes
nothing, on any host. -/
theorem discoverBridge_of_references_eq_nil (hm : network.configMisfit? settings = none)
    {fragments : Fragments} (hs : fragments.size = 0) (ht : Bridge.typeMisfit? settings = none)
    {files : Table String Tree} (hc : network.cniConfig? settings = some files)
    (hd : (Table.keys files).Nodup)
    (hr : ∀ file ∈ Bridge.visited settings (Bridge.byName files), file.2.references = [])
    (host : Host) :
    network.discoverBridge settings host fragments =
      (.ok (Bridge.infoOf settings (Bridge.visited settings (Bridge.byName files))), network,
        fragments) := by
  have hscan : Bridge.scan settings host (Bridge.byName files) { fragments } =
      (Bridge.visited settings (Bridge.byName files), { fragments }) :=
    Bridge.scan_of_references_eq_nil host ht hs rfl hr
  rw [discoverBridge_of_scan_eq hm hs hc hscan, Bridge.replace_eq_self hd,
    withConfig_eq_self (cniConfig?_eq_some_iff.mp hc)]
  intro file hfile
  exact (Bridge.byName_perm files).mem_iff.mp (Bridge.mem_of_mem_visited hfile)

/-- Discovery is decided by its first host: after a discovery on a host with final labels, a
discovery on any other host gives the same bridge and leaves the network as the first left it. -/
theorem discoverBridge_discoverBridge (hn : Record.isValid network = true)
    (hv : Record.isValid settings = true) (hd : network.HasDistinctFiles settings)
    {fragments : Fragments} (hs : fragments.size = 0) {first : Host}
    (hh : Record.isValid first = true) (hf : first.HasFinalLabels) (second : Host) :
    ∃ info changed,
      network.discoverBridge settings first fragments = (.ok info, changed, fragments) ∧
        changed.discoverBridge settings second fragments = (.ok info, changed, fragments) := by
  have hm : network.configMisfit? settings = none := configMisfit?_eq_none hv hn
  have ht : Bridge.typeMisfit? settings = none := Record.lack?_eq_none hv _
  cases hc : network.cniConfig? settings with
  | none =>
    exact ⟨{}, network, discoverBridge_of_cniConfig?_eq_none hm hs hc first,
      discoverBridge_of_cniConfig?_eq_none hm hs hc second⟩
  | some files =>
    have hfirst := discoverBridge_of_cniConfig?_eq_some hm hs ht hc
      (Host.labelsMisfit?_of_isValid hh)
    refine ⟨_, _, hfirst, ?_⟩
    -- The second scan reads the rewritten files and ends where the first did, although the files
    -- behind that place still have their references.
    have hvisited := Bridge.visited_byName_rewritten settings first (hd files hc)
    have hc' : (network.withConfig settings
        (.mapping (Bridge.rewritten settings first files))).cniConfig? settings =
          some (Bridge.rewritten settings first files) :=
      cniConfig?_eq_some_iff.mpr (config?_withConfig (cniConfig?_eq_some_iff.mp hc) _)
    have hd' : (Table.keys (Bridge.rewritten settings first files)).Nodup := by
      rw [Bridge.rewritten, Bridge.keys_replace]
      exact hd files hc
    have hsecond := discoverBridge_of_references_eq_nil
      (by rw [configMisfit?_withConfig, hm]) hs ht hc' hd' ?_ second
    · rwa [hvisited] at hsecond
    · -- A file that the first scan visited is the substitute of a file, so nothing in it refers.
      intro file hfile
      rw [hvisited] at hfile
      obtain ⟨before, -, rfl⟩ := List.mem_map.mp (Bridge.mem_of_mem_visited hfile)
      exact Tree.references_substitute hh hf before.2

/-- A file that refers to a bridge, and behind it one that comes first by name and does so too. -/
def referringFiles : Table String Tree :=
  [("20-late.conf", .mapping [("bridge", .text "__host_label__: bridge")]),
    ("10-early.conf", .mapping [("type", .text "rancher-bridge"),
      ("bridge", .text "__host_label__: bridge"), ("bridgeSubnet", .text "10.42.0.0/16")])]

/-- A network with these files. -/
def referring : Network where
  metadata := .mapping [("cniConfig", .mapping referringFiles)]

/-- The bridge of the referring network is that of the first host, also for a second host on which
the label is a reference. -/
theorem discoverBridge_discoverBridge_referring :
    let first : Host := { labels := .mapping [("bridge", .text "br-lab")] }
    let second : Host := { labels := .mapping [("bridge", .text "__host_label__: bridge")] }
    ∃ changed,
      referring.discoverBridge {} first {} = (.ok ⟨"br-lab", "10.42.0.0/16"⟩, changed, {}) ∧
        changed.discoverBridge {} second {} =
          (.ok ⟨"br-lab", "10.42.0.0/16"⟩, changed, {}) := by
  intro first second
  have hn : Record.isValid referring = true := by decide
  have hv : Record.isValid ({} : Settings) = true := by decide
  have hs : Fragments.size {} = 0 := rfl
  have hh : Record.isValid first = true := by decide
  have hf : first.HasFinalLabels := by
    intro name
    by_cases hname : name = "bridge" <;>
      simp [first, Tree.textAt, Tree.get?, Tree.entries?, Table.get?_cons, hname,
        Tree.textOrEmpty] <;> decide
  have hc : referring.cniConfig? {} = some referringFiles := rfl
  have hd : referring.HasDistinctFiles {} := by
    intro files hfiles
    rw [← Option.some.inj (hc.symm.trans hfiles)]
    decide
  have hsort : Bridge.byName referringFiles = referringFiles.reverse := by
    simp [Bridge.byName, referringFiles, List.mergeSort, List.MergeSort.Internal.splitInTwo]
  have hinfo : Bridge.infoOf {} (Bridge.visitedOn {} first referringFiles) =
      ⟨"br-lab", "10.42.0.0/16"⟩ := by
    rw [Bridge.visitedOn, hsort]
    decide
  obtain ⟨info, changed, h₁, h₂⟩ := discoverBridge_discoverBridge hn hv hd hs hh hf second
  have h := discoverBridge_of_cniConfig?_eq_some (configMisfit?_eq_none hv hn) hs
    (Record.lack?_eq_none hv _) hc (Host.labelsMisfit?_of_isValid hh)
  rw [hinfo, h₁, Prod.mk.injEq, Except.ok.injEq] at h
  rw [h.1] at h₁ h₂
  exact ⟨changed, h₁, h₂⟩

end Network

end HostOverlay
