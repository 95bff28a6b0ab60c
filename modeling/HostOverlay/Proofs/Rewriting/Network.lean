import HostOverlay.Proofs.Bridge.Discovery
import HostOverlay.Proofs.Rewriting.Tree
import Mathlib.Data.List.Forall2

/-!
# What substitution may change in a network

A network is rewritten to another if they differ at most inside the configuration files, and there
only as trees are rewritten. Discovery and the substitution of all the files on any valid host
rewrite the network in this sense (`discoverBridge_rewritesTo`, `substituteConfig_rewritesTo`). What
the resolution of a topology reads of a network is the same before and after: its identity, its
environment, and whether it has configuration files (`RewritesTo.isLocal_eq`). So is what later
operations rely on: that it is valid and that its files have different names.
-/

namespace HostOverlay.Network

open Schema

/-- Whether an entry of a network's metadata is rewritten to another: the key is the same, and so
is the value, unless it holds the configuration files. -/
structure EntryRewritesTo (settings : Settings) (before after : String × Tree) : Prop where
  /-- The key is the same. -/
  key_eq : after.1 = before.1
  /-- The value is rewritten at most. -/
  rewritesTo : before.2.RewritesTo after.2
  /-- A value that does not hold the configuration files is the same. -/
  eq_of_ne : settings.cniConfigKey ≠ .text before.1 → after.2 = before.2

/-- Whether a network is rewritten to another. -/
structure RewritesTo (settings : Settings) (before after : Network) : Prop where
  /-- The networks differ in their metadata at most. -/
  fields : after = { before with metadata := after.metadata }
  /-- The entries of the metadata are rewritten, in their order. -/
  metadata : Tree.AtRoot (List.Forall₂ (EntryRewritesTo settings)) before.metadata after.metadata

variable {settings : Settings} {before after : Network}

/-- An entry is rewritten to itself. -/
theorem EntryRewritesTo.refl (settings : Settings) (entry : String × Tree) :
    EntryRewritesTo settings entry entry :=
  ⟨rfl, .same _, fun _ => rfl⟩

/-- An entry that is rewritten twice is rewritten. -/
theorem EntryRewritesTo.trans {first second third : String × Tree}
    (h : EntryRewritesTo settings first second) (h' : EntryRewritesTo settings second third) :
    EntryRewritesTo settings first third where
  key_eq := h'.key_eq.trans h.key_eq
  rewritesTo := h.rewritesTo.trans h'.rewritesTo
  eq_of_ne hne := by
    have hne' : settings.cniConfigKey ≠ .text second.1 := by rwa [h.key_eq]
    rw [h'.eq_of_ne hne', h.eq_of_ne hne]

/-- Entries that are rewritten twice are rewritten. -/
theorem forall₂_entryRewritesTo_trans {first second third : Table String Tree}
    (h : List.Forall₂ (EntryRewritesTo settings) first second)
    (h' : List.Forall₂ (EntryRewritesTo settings) second third) :
    List.Forall₂ (EntryRewritesTo settings) first third := by
  induction h generalizing third with
  | nil => exact h'
  | cons h _ ih =>
    cases h' with
    | cons h' hr' => exact .cons (h.trans h') (ih hr')

/-- A network is rewritten to itself. -/
theorem RewritesTo.refl (settings : Settings) (network : Network) :
    network.RewritesTo settings network :=
  ⟨rfl, .same _⟩

/-- A network that is rewritten twice is rewritten. -/
theorem RewritesTo.trans {first second third : Network} (h : first.RewritesTo settings second)
    (h' : second.RewritesTo settings third) : first.RewritesTo settings third where
  fields := by
    rw [h'.fields, h.fields]
  metadata := h.metadata.trans h'.metadata fun _ _ _ => forall₂_entryRewritesTo_trans

/-- What rewritten entries hold under the key of the settings is rewritten. -/
theorem rel_get?_of_forall₂ {entries entries' : Table String Tree} {key : String}
    (h : List.Forall₂ (EntryRewritesTo settings) entries entries') :
    Option.Rel Tree.RewritesTo (Table.get? entries key) (Table.get? entries' key) := by
  induction h with
  | nil => exact .none
  | @cons entry entry' rest rest' h _ ih =>
    obtain ⟨k, v⟩ := entry
    obtain ⟨k', v'⟩ := entry'
    obtain rfl : k' = k := h.key_eq
    rw [Table.get?_cons, Table.get?_cons]
    by_cases hk : key = k'
    · rw [if_pos hk, if_pos hk]
      exact .some h.rewritesTo
    · rw [if_neg hk, if_neg hk]
      exact ih

/-- Steps that take related values to related ones do so where there may be no value. -/
theorem rel_bind {α β : Type} {related : α → α → Prop} {related' : β → β → Prop}
    {a? b? : Option α} (h : Option.Rel related a? b?) {f g : α → Option β}
    (hfg : ∀ a b, related a b → Option.Rel related' (f a) (g b)) :
    Option.Rel related' (a?.bind f) (b?.bind g) := by
  cases h with
  | none => exact .none
  | some h => exact hfg _ _ h

/-- The configuration files of a rewritten network are rewritten. -/
theorem RewritesTo.rel_config? (h : before.RewritesTo settings after) :
    Option.Rel Tree.RewritesTo (before.config? settings) (after.config? settings) := by
  have hentries : Option.Rel (List.Forall₂ (EntryRewritesTo settings))
      before.metadata.entries? after.metadata.entries? :=
    h.metadata.rel_entries? fun _ => List.forall₂_same.mpr fun _ _ => .refl settings _
  unfold config?
  split
  · exact rel_bind hentries fun _ _ hr => rel_get?_of_forall₂ hr
  · exact .none

/-- The configuration files of a rewritten network are rewritten, if there are any. -/
theorem RewritesTo.rel_cniConfig? (h : before.RewritesTo settings after) :
    Option.Rel Tree.EntriesRewriteTo (before.cniConfig? settings)
      (after.cniConfig? settings) :=
  rel_bind h.rel_config? fun _ _ hr => hr.rel_entries? Tree.EntriesRewriteTo.refl

/-- Rewriting keeps different names of the files different. -/
theorem RewritesTo.hasDistinctFiles (h : before.RewritesTo settings after)
    (hd : before.HasDistinctFiles settings) : after.HasDistinctFiles settings := by
  intro files' hfiles'
  have hrel := h.rel_cniConfig?
  rw [hfiles'] at hrel
  cases hfiles : before.cniConfig? settings with
  | none => simp [hfiles] at hrel
  | some files =>
    rw [hfiles, Option.rel_some_some] at hrel
    rw [hrel.keys_eq]
    exact hd files hfiles

/-- A rewritten network has configuration files exactly if the network had any. -/
theorem RewritesTo.isSome_cniConfig? (h : before.RewritesTo settings after) :
    (after.cniConfig? settings).isSome = (before.cniConfig? settings).isSome := by
  have hrel := h.rel_cniConfig?
  cases hb : before.cniConfig? settings <;> cases ha : after.cniConfig? settings <;>
    simp [hb, ha] at hrel ⊢

/-- A rewritten network is local to a host exactly if the network was. -/
theorem RewritesTo.isLocal_eq (h : before.RewritesTo settings after) (host : Host)
    (routers : Routers) :
    after.isLocal settings host routers = before.isLocal settings host routers := by
  have hu : after.uuid = before.uuid := by rw [h.fields]
  have he : after.environmentUuid = before.environmentUuid := by rw [h.fields]
  rw [isLocal, isLocal, h.isSome_cniConfig?, hu, he]

/-- Which entries the metadata of a network have does not matter to its being valid. -/
theorem isValid_congr_metadata (network : Network) (entries entries' : Table String Tree) :
    Record.isValid { network with metadata := .mapping entries' } =
      Record.isValid { network with metadata := .mapping entries } := by
  have hall (entries : Table String Tree) : (entries.all fun _ => true) = true :=
    List.all_eq_true.mpr fun _ _ => rfl
  simp [Record.isValid, Record.shape, Record.fields, Record.toTree, Record.margin, Shape.fits,
    Shape.fieldsFit, Table.get?_cons, Slot.text, Slot.dictionary, hall]

/-- Rewriting keeps a network valid. -/
theorem RewritesTo.isValid (h : before.RewritesTo settings after)
    (hv : Record.isValid before = true) : Record.isValid after = true := by
  have hm := h.metadata
  rw [h.fields]
  obtain ⟨entries, he⟩ := metadata_of_isValid hv
  cases hm' : after.metadata with
  | mapping entries' =>
    rw [isValid_congr_metadata before entries entries', ← he]
    exact hv
  | _ =>
    rw [he, hm'] at hm
    cases hm

/-- Storing a rewritten value under the key of the settings rewrites the entries. -/
theorem forall₂_put {entries : Table String Tree} {key : String} {config config' : Tree}
    (hk : settings.cniConfigKey = .text key) (hc : Table.get? entries key = some config)
    (h : config.RewritesTo config') :
    List.Forall₂ (EntryRewritesTo settings) entries (Table.put key config' entries) := by
  induction entries with
  | nil => simp at hc
  | cons entry rest ih =>
    obtain ⟨k, v⟩ := entry
    rw [Table.get?_cons] at hc
    by_cases hkey : key = k
    · rw [if_pos hkey, Option.some.injEq] at hc
      rw [Table.put, if_pos (by simp [hkey])]
      -- The entries behind the one that is stored are the same.
      refine .cons ⟨rfl, hc ▸ h, fun hne => ?_⟩ (List.forall₂_same.mpr fun _ _ => .refl settings _)
      exact absurd (hkey ▸ hk) hne
    · rw [if_neg hkey] at hc
      rw [Table.put, if_neg (by simpa using Ne.symm hkey)]
      exact .cons (.refl settings _) (ih hc)

/-- Putting rewritten configuration files in the place of those that a network has rewrites it. -/
theorem rewritesTo_withConfig {network : Network} {config config' : Tree}
    (hc : network.config? settings = some config) (h : config.RewritesTo config') :
    network.RewritesTo settings (network.withConfig settings config') := by
  obtain ⟨key, entries, hk, hm, hg⟩ := exists_entries_of_config?_eq_some hc
  rw [withConfig_eq hk hm]
  refine ⟨rfl, ?_⟩
  rw [hm]
  exact .mapping (forall₂_put hk hg h)

/-- A scan on a valid host rewrites the files. -/
theorem entriesRewriteTo_rewritten {host : Host} (hh : Record.isValid host = true)
    {files : Table String Tree} (hd : (Table.keys files).Nodup) :
    Tree.EntriesRewriteTo files (Bridge.rewritten settings host files) := by
  refine .map fun file hfile => ?_
  cases hv : Table.get? (Bridge.visitedOn settings host files) file.1 with
  | none => exact .same _
  | some value =>
    rw [Option.getD_some, Bridge.eq_substitute_of_get?_visitedOn hd hfile hv]
    exact (Tree.rewritesTo_substitute hh file.2).held

section

variable {network : Network} {host : Host} {fragments : Fragments}

/-- Without fragments, a discovery on a valid host finds a bridge or finds that there is none, and
rewrites the network. -/
theorem discoverBridge_rewritesTo (hs : Record.isValid settings = true)
    (hn : Record.isValid network = true) (hd : network.HasDistinctFiles settings)
    (hh : Record.isValid host = true) (hf : fragments.size = 0) :
    ∃ info changed, network.discoverBridge settings host fragments =
      (.ok info, changed, fragments) ∧ network.RewritesTo settings changed := by
  have hm := configMisfit?_eq_none hs hn
  cases hc : network.cniConfig? settings with
  | none =>
    exact ⟨_, _, discoverBridge_of_cniConfig?_eq_none hm hf hc host, .refl settings network⟩
  | some files =>
    refine ⟨_, _, discoverBridge_of_cniConfig?_eq_some hm hf (Record.lack?_eq_none hs _) hc
      (Host.labelsMisfit?_of_isValid hh), ?_⟩
    exact rewritesTo_withConfig (cniConfig?_eq_some_iff.mp hc)
      (.mapping (entriesRewriteTo_rewritten hh (hd files hc)))

/-- Without fragments, substituting all files on a valid host gives what became of them, and
rewrites the network. -/
theorem substituteConfig_rewritesTo (hs : Record.isValid settings = true)
    (hn : Record.isValid network = true) (hh : Record.isValid host = true)
    (hf : fragments.size = 0) :
    ∃ files changed, network.substituteConfig settings host fragments =
      (.ok files, changed, fragments) ∧ network.RewritesTo settings changed := by
  have hm := configMisfit?_eq_none hs hn
  have hl := Host.labelsMisfit?_of_isValid hh
  cases hc : network.config? settings with
  | none =>
    refine ⟨none, network, ?_, .refl settings network⟩
    rw [substituteConfig, hm, hc]
  | some config =>
    have hpass : config.pass host 1 { fragments } = (config.substitute host, { fragments }) :=
      Tree.pass_eq hl hf rfl 1 config
    refine ⟨_, _, by rw [substituteConfig, hm, hc]; simp only [hpass]; rfl, ?_⟩
    exact rewritesTo_withConfig hc (Tree.rewritesTo_substitute hh config)

end

end HostOverlay.Network
