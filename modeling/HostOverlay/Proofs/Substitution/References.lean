import HostOverlay.Proofs.Labels
import HostOverlay.Substitution

/-!
# What a tree refers to

Substitution replaces the references that the mappings of a tree hold directly, and nothing else.
What it puts in their place is the text of a label, which may be a reference again, so a second
substitution can change what the first one left. `substitute_substitute_eq_iff` says when it does
not, for any two hosts one after the other: when the second leaves alone what the first put in the
place of each reference. On one host, substitution is thus idempotent on exactly the trees that
refer to settled labels only (`substitute_substitute_eq_iff_isSettled`), and not on all trees
(`not_forall_substitute_substitute_eq`).
-/

namespace HostOverlay

open Schema

namespace Tree

mutual

/-- The references in a value that a mapping holds. -/
def heldReferences : Tree → List Reference
  | text value => (Reference.ofText? value).toList
  | mapping entries => entryReferences entries
  | null | bool _ | number .. | sequence _ | link _ => []

/-- The references in the entries of a mapping. -/
def entryReferences : List (String × Tree) → List Reference
  | [] => []
  | (_, value) :: rest => heldReferences value ++ entryReferences rest

end

/-- The references of a tree: those of the texts that a mapping holds, the root mapping or one that
is reached from it through mappings only. -/
def references : Tree → List Reference
  | mapping entries => entryReferences entries
  | _ => []

/-- The references of a root mapping are those that it has where a mapping holds it. -/
theorem references_mapping (entries : List (String × Tree)) :
    (mapping entries).references = heldReferences (mapping entries) := by
  rw [references, heldReferences]

/-- The references in entries are those in the value of each. -/
theorem mem_entryReferences_iff {reference : Reference} {entries : List (String × Tree)} :
    reference ∈ entryReferences entries ↔ ∃ entry ∈ entries, reference ∈ heldReferences entry.2 := by
  induction entries with
  | nil => simp [entryReferences]
  | cons entry rest ih => simp [entryReferences, ih]

/-- There are no references in a value that is neither a text nor a mapping. -/
theorem heldReferences_of_other {tree : Tree} (ht : ∀ value, tree ≠ text value)
    (hm : tree.entries? = none) : heldReferences tree = [] := by
  cases tree with
  | text value => exact absurd rfl (ht value)
  | mapping entries => simp [entries?] at hm
  | _ => rw [heldReferences]

/-- A property of held values is a condition on their references if it is one on the reference of a
text, if a mapping has it exactly if each of its values does, and if everything else has it. -/
theorem iff_forall_mem_heldReferences (property : Tree → Prop) (condition : Reference → Prop)
    (ht : ∀ value, property (text value) ↔
      ∀ reference, Reference.ofText? value = some reference → condition reference)
    (hm : ∀ entries, property (mapping entries) ↔
      ∀ entry ∈ (entries : List (String × Tree)), property entry.2)
    (ho : ∀ tree : Tree, (∀ value, tree ≠ text value) → tree.entries? = none → property tree)
    (tree : Tree) :
    property tree ↔ ∀ reference ∈ heldReferences tree, condition reference := by
  induction tree using mappingInduction with
  | text value => simp only [ht, heldReferences, Option.mem_toList]
  | mapping entries ih =>
    rw [hm, heldReferences]
    constructor
    · intro hall reference hr
      obtain ⟨entry, he, hr⟩ := mem_entryReferences_iff.mp hr
      exact (ih entry he).mp (hall entry he) reference hr
    · intro hall entry he
      exact (ih entry he).mpr fun reference hr =>
        hall reference (mem_entryReferences_iff.mpr ⟨entry, he, hr⟩)
  | other tree ht hm => simp [ho tree ht hm, heldReferences_of_other ht hm]

/-- A second substitution leaves a substituted value alone exactly if it leaves alone what was put
in the place of each of its references. -/
theorem substituteHeld_substituteHeld_eq_iff (first second : Host) (tree : Tree) :
    substituteHeld second (substituteHeld first tree) = substituteHeld first tree ↔
      ∀ reference ∈ heldReferences tree,
        substituteHeld second (first.deref reference) = first.deref reference := by
  refine iff_forall_mem_heldReferences
    (fun tree => substituteHeld second (substituteHeld first tree) = substituteHeld first tree)
    (fun reference => substituteHeld second (first.deref reference) = first.deref reference)
    ?_ ?_ ?_ tree
  · intro value
    cases hr : Reference.ofText? value <;> simp [substituteHeld, Host.expand, hr]
  · intro entries
    simp only [substituteHeld, mapping.injEq, substituteEntries_eq_mapValues,
      Table.mapValues_mapValues, Table.mapValues_eq_mapValues_iff]
  · intro tree ht hm
    rw [substituteHeld_of_other first ht hm, substituteHeld_of_other second ht hm]

/-- A second substitution leaves a substituted tree alone exactly if it leaves alone what was put in
the place of each of its references. -/
theorem substitute_substitute_eq_iff (first second : Host) (tree : Tree) :
    (tree.substitute first).substitute second = tree.substitute first ↔
      ∀ reference ∈ tree.references,
        substituteHeld second (first.deref reference) = first.deref reference := by
  cases tree with
  | mapping entries =>
    rw [references_mapping, ← substituteHeld_substituteHeld_eq_iff first second, ← substitute_mapping,
      substitute, substitute_mapping]
  | _ => simp [substitute, references]

end Tree

namespace Host

/-- Whether a label is settled: its text does not begin with the keyword of references, or it refers
to a label that has this very text. A label that the host lacks has the empty text. -/
def IsSettled (host : Host) (name : String) : Prop :=
  ¬ Reference.keyword.toList <+: (host.labels.textAt name).toList ∨
    ∃ other, Reference.ofText? (host.labels.textAt name) = some (.label other) ∧
      host.labels.textAt other = host.labels.textAt name

/-- On a valid host, the settled labels are those whose text expands to itself. -/
theorem isSettled_iff_expandText_eq {host : Host} (h : Record.isValid host = true)
    (name : String) :
    host.IsSettled name ↔
      host.expandText (host.labels.textAt name) = host.labels.textAt name := by
  unfold IsSettled
  rw [← Reference.ofText?_eq_none_iff]
  generalize host.labels.textAt name = text
  cases hr : Reference.ofText? text with
  | none => simp [expandText_of_ofText?_eq_none host hr]
  | some reference =>
    cases reference with
    | label other => simp [expandText_of_ofText?_eq_label h hr]
    | nothing =>
      -- The empty text that such a reference becomes is no reference, so the text is not empty.
      have hne : text ≠ "" := by
        rintro rfl
        exact absurd hr (by decide)
      simp [expandText_of_ofText?_eq_nothing host hr, hne.symm]

/-- On a valid host, substitution leaves what a label's reference became alone exactly if the label
is settled. -/
theorem substituteHeld_deref_label_eq_iff {host : Host} (h : Record.isValid host = true)
    (name : String) :
    Tree.substituteHeld host (host.deref (.label name)) = host.deref (.label name) ↔
      host.IsSettled name := by
  rw [deref_label_of_isValid h, Tree.substituteHeld, expand_of_isValid h, Tree.text.injEq,
    isSettled_iff_expandText_eq h]

end Host

/-- The exact condition for idempotence on one tree: on a valid host, a second substitution changes
nothing exactly if every label that the tree refers to is settled. -/
theorem Tree.substitute_substitute_eq_iff_isSettled {host : Host} (h : Record.isValid host = true)
    (tree : Tree) :
    (tree.substitute host).substitute host = tree.substitute host ↔
      ∀ name, .label name ∈ tree.references → host.IsSettled name := by
  rw [Tree.substitute_substitute_eq_iff]
  constructor
  · intro hall name hname
    exact (Host.substituteHeld_deref_label_eq_iff h name).mp (hall _ hname)
  · intro hall reference hmem
    cases reference with
    | label name => exact (Host.substituteHeld_deref_label_eq_iff h name).mpr (hall name hmem)
    | nothing => rfl

/-- A host whose label `first` refers to its label `second`, and whose label `self` refers to
itself. -/
def Host.chained : Host where
  labels := .mapping [("first", .text "__host_label__: second"), ("second", .text "br-lab"),
    ("self", .text "__host_label__: self")]

/-- A tree that refers to the settled labels of the chained host. -/
def Tree.settling : Tree :=
  .mapping [("bridge", .text "__host_label__: second"),
    ("ipam", .mapping [("gateway", .text "__host_label__: self")])]

/-- Substitution is idempotent on a tree that refers to the settled labels of the chained host. -/
theorem Tree.substitute_substitute_settling :
    Record.isValid Host.chained = true ∧
      (Tree.settling.substitute Host.chained).substitute Host.chained =
        Tree.settling.substitute Host.chained := by
  have h : Record.isValid Host.chained = true := by decide
  refine ⟨h, (Tree.substitute_substitute_eq_iff_isSettled h Tree.settling).mpr ?_⟩
  intro name hname
  have hr : Tree.settling.references = [.label "second", .label "self"] := rfl
  simp only [hr, List.mem_cons, Reference.label.injEq, List.not_mem_nil, or_false] at hname
  rcases hname with rfl | rfl
  · exact Or.inl (by decide)
  · exact Or.inr ⟨"self", by decide, rfl⟩

/-- Substitution is not idempotent on all trees: a reference to the label `first` of the chained
host first becomes a reference to `second`, and then the text of `second`. -/
theorem Tree.not_forall_substitute_substitute_eq :
    ¬ ∀ host : Host, Record.isValid host = true → ∀ tree : Tree,
      (tree.substitute host).substitute host = tree.substitute host := by
  intro hall
  have hs := hall Host.chained (by decide)
    (.mapping [("bridge", .text "__host_label__: first")])
  have h₁ : (Tree.mapping [("bridge", .text "__host_label__: first")]).substitute Host.chained =
      .mapping [("bridge", .text "__host_label__: second")] := rfl
  have h₂ : (Tree.mapping [("bridge", .text "__host_label__: second")]).substitute Host.chained =
      .mapping [("bridge", .text "br-lab")] := rfl
  rw [h₁, h₂] at hs
  simp at hs

end HostOverlay
