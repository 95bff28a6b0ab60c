import HostOverlay.Proofs.Naming
import HostOverlay.Proofs.Substitution.References

/-!
# What a substitution depends on

`Tree.references` collects references as it goes through a tree. Said without that walk, they are
what is read off the texts that the tree holds: a mapping holds the values of its entries and
whatever these hold, and nothing else holds anything (`Tree.Holds`, `Tree.mem_references_iff`).
Sequences hold nothing, and a root that is a text is held by nothing.

The references of a tree are all that a substitution in it depends on. Two hosts substitute it in
the same way exactly if every reference stands for the same on both
(`Tree.substituteHeld_eq_substituteHeld_iff`), that is, if the labels that the tree refers to have
the same texts (`Tree.substitute_eq_substitute_iff`).
-/

namespace HostOverlay

open Schema

namespace Tree

/-- Whether a tree holds a value, in its root mapping or in one that is reached from it through
mappings only. -/
inductive Holds : Tree → Tree → Prop
  /-- A mapping holds the values of its entries. -/
  | value {entries : List (String × Tree)} {entry : String × Tree} (h : entry ∈ entries) :
      Holds (mapping entries) entry.2
  /-- A mapping holds what the values of its entries hold. -/
  | within {entries : List (String × Tree)} {entry : String × Tree} {value : Tree}
      (h : entry ∈ entries) (hv : Holds entry.2 value) : Holds (mapping entries) value

/-- Whether a tree refers to the label of a name: it holds a text that is a reference to it. -/
def RefersTo (tree : Tree) (name : String) : Prop :=
  ∃ value, tree.Holds (text value) ∧ Reference.Names value name

/-- What a mapping holds is the value of an entry, or the value of an entry holds it. -/
theorem holds_mapping_iff {entries : List (String × Tree)} {value : Tree} :
    Holds (mapping entries) value ↔ ∃ entry ∈ entries, entry.2 = value ∨ entry.2.Holds value := by
  constructor
  · intro h
    cases h with
    | value h => exact ⟨_, h, Or.inl rfl⟩
    | within h hv => exact ⟨_, h, Or.inr hv⟩
  · rintro ⟨entry, h, rfl | hv⟩
    · exact .value h
    · exact .within h hv

/-- What is no mapping holds nothing. -/
theorem not_holds_of_entries?_eq_none {tree value : Tree} (h : tree.entries? = none) :
    ¬ tree.Holds value := by
  rintro (_ | _) <;> simp [entries?] at h

/-- The references in a held value are read off the text that it is or the texts that it holds. -/
theorem mem_heldReferences_iff {reference : Reference} (tree : Tree) :
    reference ∈ heldReferences tree ↔
      ∃ value, (tree = text value ∨ tree.Holds (text value)) ∧
        Reference.ofText? value = some reference := by
  induction tree using mappingInduction with
  | text value =>
    -- A text holds nothing, so its references are those that it is itself.
    have hn (other : Tree) : ¬ (text value).Holds other := not_holds_of_entries?_eq_none rfl
    simp [heldReferences, hn]
  | mapping entries ih =>
    rw [heldReferences, mem_entryReferences_iff]
    constructor
    · rintro ⟨entry, hm, hr⟩
      obtain ⟨value, hv, hr⟩ := (ih entry hm).mp hr
      exact ⟨value, Or.inr (holds_mapping_iff.mpr ⟨entry, hm, hv⟩), hr⟩
    · rintro ⟨value, hv | hv, hr⟩
      · cases hv
      · obtain ⟨entry, hm, hv⟩ := holds_mapping_iff.mp hv
        exact ⟨entry, hm, (ih entry hm).mpr ⟨value, hv, hr⟩⟩
  | other tree ht hm =>
    have hn (value : Tree) : ¬ tree.Holds value := not_holds_of_entries?_eq_none hm
    simp [heldReferences_of_other ht hm, ht, hn]

/-- The references of a tree are read off the texts that it holds. -/
theorem mem_references_iff {reference : Reference} (tree : Tree) :
    reference ∈ tree.references ↔
      ∃ value, tree.Holds (text value) ∧ Reference.ofText? value = some reference := by
  cases tree with
  | mapping entries =>
    rw [references_mapping, mem_heldReferences_iff]
    simp
  | _ =>
    simp only [references, List.not_mem_nil, false_iff, not_exists, not_and]
    intro value hv
    cases hv

/-- The labels that the references of a tree name are those that it refers to. -/
theorem label_mem_references_iff {tree : Tree} {name : String} :
    .label name ∈ tree.references ↔ tree.RefersTo name := by
  simp only [mem_references_iff, Reference.ofText?_eq_label_iff]
  rfl

/-- Two hosts substitute a held value in the same way exactly if each of its references stands for
the same on both. -/
theorem substituteHeld_eq_substituteHeld_iff (first second : Host) (tree : Tree) :
    substituteHeld first tree = substituteHeld second tree ↔
      ∀ reference ∈ heldReferences tree, first.deref reference = second.deref reference := by
  refine iff_forall_mem_heldReferences
    (fun tree => substituteHeld first tree = substituteHeld second tree)
    (fun reference => first.deref reference = second.deref reference) ?_ ?_ ?_ tree
  · intro value
    cases hr : Reference.ofText? value <;> simp [substituteHeld, Host.expand, hr]
  · intro entries
    simp only [substituteHeld, mapping.injEq, substituteEntries_eq_mapValues,
      Table.mapValues_eq_mapValues_iff]
  · intro tree ht hm
    rw [substituteHeld_of_other first ht hm, substituteHeld_of_other second ht hm]

/-- Two hosts substitute a tree in the same way exactly if each of its references stands for the same
on both. -/
theorem substitute_eq_substitute_iff_deref (first second : Host) (tree : Tree) :
    tree.substitute first = tree.substitute second ↔
      ∀ reference ∈ tree.references, first.deref reference = second.deref reference := by
  cases tree with
  | mapping entries =>
    rw [references_mapping, substitute_mapping, substitute_mapping,
      substituteHeld_eq_substituteHeld_iff]
  | _ => simp [substitute, references]

end Tree

/-- On valid hosts, a reference to a label stands for the same exactly if the label has the same
text. -/
theorem Host.deref_label_eq_iff {first second : Host} (hf : Record.isValid first = true)
    (hs : Record.isValid second = true) (name : String) :
    first.deref (.label name) = second.deref (.label name) ↔
      first.labels.textAt name = second.labels.textAt name := by
  rw [deref_label_of_isValid hf, deref_label_of_isValid hs, Tree.text.injEq]

/-- Two valid hosts substitute a tree in the same way exactly if the labels that the tree refers to
have the same texts on both, where a label that a host lacks has the empty text. -/
theorem Tree.substitute_eq_substitute_iff {first second : Host}
    (hf : Record.isValid first = true) (hs : Record.isValid second = true) (tree : Tree) :
    tree.substitute first = tree.substitute second ↔
      ∀ name, tree.RefersTo name → first.labels.textAt name = second.labels.textAt name := by
  rw [substitute_eq_substitute_iff_deref]
  constructor
  · intro hall name hr
    exact (Host.deref_label_eq_iff hf hs name).mp (hall _ (label_mem_references_iff.mpr hr))
  · intro hall reference hr
    cases reference with
    | label name =>
      exact (Host.deref_label_eq_iff hf hs name).mpr (hall name (label_mem_references_iff.mp hr))
    -- A reference without a name is empty on every host.
    | nothing => rfl

/-- A host with a zone and a gateway without an address. -/
def Host.eastern : Host where
  uuid := .text "host-1"
  labels := .mapping [("bridge", .text "br-lab"), ("zone", .text "east"), ("gateway", .text "")]

/-- Another host in another zone, without a gateway. -/
def Host.western : Host where
  uuid := .text "host-2"
  labels := .mapping [("zone", .text "west"), ("bridge", .text "br-lab")]

/-- A tree that refers to a bridge and a gateway; the zone is named in a sequence only. -/
def Tree.zoned : Tree :=
  .mapping [("bridge", .text "__host_label__: bridge"), ("ipam", .mapping
    [("gateway", .text "__host_label__:gateway"), ("zones", .sequence [.text "__host_label__: zone"])])]

/-- The eastern and the western host substitute the zoned tree in the same way. -/
theorem Tree.substitute_eq_substitute_zoned :
    Record.isValid Host.eastern = true ∧ Record.isValid Host.western = true ∧
      Tree.zoned.substitute Host.eastern = Tree.zoned.substitute Host.western := by
  have he : Record.isValid Host.eastern = true := by decide
  have hw : Record.isValid Host.western = true := by decide
  refine ⟨he, hw, (Tree.substitute_eq_substitute_iff he hw Tree.zoned).mpr ?_⟩
  intro name hname
  have hm := Tree.label_mem_references_iff.mpr hname
  have hr : Tree.zoned.references = [.label "bridge", .label "gateway"] := rfl
  simp only [hr, List.mem_cons, Reference.label.injEq, List.not_mem_nil, or_false] at hm
  rcases hm with rfl | rfl <;> rfl

end HostOverlay
