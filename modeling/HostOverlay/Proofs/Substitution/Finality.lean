import HostOverlay.Proofs.Substitution.Dependence

/-!
# When a substituted tree is final

A second substitution, on the same host or on another, leaves every substituted tree alone exactly if
it leaves alone what the first put in the place of each reference to a label
(`Tree.forall_substitute_substitute_eq_iff`). Of the labels only those with trimmed names can be
referred to, and all of them can: the tree that holds nothing but the written reference to a label
shows what becomes of the label's text.

Where both hosts are the same, this is the exact condition for idempotence on all trees: the labels
with trimmed names are settled (`Tree.forall_substitute_idempotent_iff`). Where the second host may
be any, a text that begins with the keyword is never final, for a host without labels makes it
empty; so no label with a trimmed name may have such a text (`Tree.forall_substitute_final_iff`).
-/

namespace HostOverlay

open Schema

namespace Host

/-- What a reference to a label became on one valid host becomes, on another, what the text of the
label does. -/
theorem substituteHeld_deref_label {first second : Host} (hf : Record.isValid first = true)
    (hs : Record.isValid second = true) (name : String) :
    Tree.substituteHeld second (first.deref (.label name)) =
      .text (second.expandText (first.labels.textAt name)) := by
  rw [deref_label_of_isValid hf, Tree.substituteHeld, expand_of_isValid hs]

/-- A host without labels expands every reference to the empty text. -/
theorem expandText_of_no_labels {text : String}
    (hk : Reference.keyword.toList <+: text.toList) : ({} : Host).expandText text = "" := by
  have hv : Record.isValid ({} : Host) = true := by decide
  cases hr : Reference.ofText? text with
  | none => exact absurd hk ((Reference.ofText?_eq_none_iff text).mp hr)
  | some reference =>
    cases reference with
    | nothing => exact expandText_of_ofText?_eq_nothing _ hr
    | label name =>
      rw [expandText_of_ofText?_eq_label hv hr]
      rfl

/-- A label that the host lacks has the empty text. -/
theorem textAt_of_not_mem_labelNames {host : Host} {name : String} (h : name ∉ host.labelNames) :
    host.labels.textAt name = "" := by
  by_contra hne
  exact h (mem_labelNames_of_textAt_ne hne)

end Host

namespace Tree

/-- The tree that holds nothing but the written reference to a label. -/
def referring (name : String) : Tree := mapping [("bridge", text (Reference.written name))]

/-- The tree with the written reference to a trimmed name has that reference only. -/
theorem references_referring {name : String} (h : Text.IsTrimmed name.toList) :
    (referring name).references = [.label name] := by
  have hr : Reference.ofText? (Reference.written name) = some (.label name) :=
    Reference.ofText?_eq_label_iff.mpr (Reference.names_written h)
  simp [referring, references, entryReferences, heldReferences, hr]

/-- A tree refers to trimmed names only. -/
theorem isTrimmed_of_label_mem_references {tree : Tree} {name : String}
    (h : .label name ∈ tree.references) : Text.IsTrimmed name.toList := by
  obtain ⟨_, _, hn⟩ := label_mem_references_iff.mp h
  exact hn.1

/-- A second substitution leaves every substituted tree alone exactly if it leaves alone what was
put in the place of the references to trimmed names. -/
theorem forall_substitute_substitute_eq_iff (first second : Host) :
    (∀ tree : Tree, (tree.substitute first).substitute second = tree.substitute first) ↔
      ∀ name : String, Text.IsTrimmed name.toList →
        substituteHeld second (first.deref (.label name)) = first.deref (.label name) := by
  constructor
  · intro hall name ht
    have hr := (substitute_substitute_eq_iff first second (referring name)).mp (hall _)
    rw [references_referring ht] at hr
    exact hr _ List.mem_cons_self
  · intro hall tree
    refine (substitute_substitute_eq_iff first second tree).mpr fun reference hm => ?_
    cases reference with
    | label name => exact hall name (isTrimmed_of_label_mem_references hm)
    | nothing => rfl

end Tree

/-- The exact condition for idempotence on all trees: on a valid host, a second substitution changes
no substituted tree exactly if every label with a trimmed name is settled. -/
theorem Tree.forall_substitute_idempotent_iff {host : Host} (h : Record.isValid host = true) :
    (∀ tree : Tree, (tree.substitute host).substitute host = tree.substitute host) ↔
      ∀ name ∈ host.labelNames, Text.IsTrimmed name.toList → host.IsSettled name := by
  rw [Tree.forall_substitute_substitute_eq_iff]
  constructor
  · intro hall name _ ht
    exact (Host.substituteHeld_deref_label_eq_iff h name).mp (hall name ht)
  · intro hall name ht
    refine (Host.substituteHeld_deref_label_eq_iff h name).mpr ?_
    by_cases hm : name ∈ host.labelNames
    · exact hall name hm ht
    · -- A missing label counts as one with the empty text, which is settled.
      refine Or.inl ?_
      rw [Host.textAt_of_not_mem_labelNames hm]
      decide

/-- A host with two labels of the very same text, which refers to the second of them, and one label
out of reach, whose name begins with a blank and whose text refers to the last label. -/
def Host.padded : Host where
  labels := .mapping [("first", .text "__host_label__: second"),
    ("second", .text "__host_label__: second"), (" third", .text "__host_label__: last"),
    ("last", .text "br-lab")]

/-- Substitution on the padded host is idempotent on all trees. -/
theorem Tree.forall_substitute_idempotent_padded :
    Record.isValid Host.padded = true ∧
      ∀ tree : Tree, (tree.substitute Host.padded).substitute Host.padded =
        tree.substitute Host.padded := by
  have h : Record.isValid Host.padded = true := by decide
  refine ⟨h, (Tree.forall_substitute_idempotent_iff h).mpr ?_⟩
  intro name hm ht
  have hnames : Host.padded.labelNames = ["first", "second", " third", "last"] := rfl
  simp only [hnames, List.mem_cons, List.not_mem_nil, or_false] at hm
  rcases hm with rfl | rfl | rfl | rfl
  · exact Or.inr ⟨"second", by decide, rfl⟩
  · exact Or.inr ⟨"second", by decide, rfl⟩
  · exact absurd ht (by decide)
  · exact Or.inl (by decide)

/-- The exact condition for finality: what a valid host substitutes, no valid host changes any more,
exactly if no label with a trimmed name has a text that begins with the keyword. -/
theorem Tree.forall_substitute_final_iff {host : Host} (h : Record.isValid host = true) :
    (∀ other : Host, Record.isValid other = true → ∀ tree : Tree,
        (tree.substitute host).substitute other = tree.substitute host) ↔
      ∀ name ∈ host.labelNames, Text.IsTrimmed name.toList →
        ¬ Reference.keyword.toList <+: (host.labels.textAt name).toList := by
  constructor
  · -- The host without labels tells whether a text is still a reference.
    intro hall name _ ht hk
    have hv : Record.isValid ({} : Host) = true := by decide
    have hsame := (Tree.forall_substitute_substitute_eq_iff host {}).mp (hall {} hv) name ht
    rw [Host.substituteHeld_deref_label h hv, Host.deref_label_of_isValid h, Tree.text.injEq,
      Host.expandText_of_no_labels hk] at hsame
    -- The empty text does not begin with the keyword.
    rw [← hsame] at hk
    exact absurd hk (by decide)
  · intro hfinal other hv
    refine (Tree.forall_substitute_substitute_eq_iff host other).mpr fun name ht => ?_
    have hk : ¬ Reference.keyword.toList <+: (host.labels.textAt name).toList := by
      by_cases hm : name ∈ host.labelNames
      · exact hfinal name hm ht
      · rw [Host.textAt_of_not_mem_labelNames hm]
        decide
    rw [Host.substituteHeld_deref_label h hv, Host.deref_label_of_isValid h,
      Host.expandText_of_ofText?_eq_none other ((Reference.ofText?_eq_none_iff _).mpr hk)]

/-- A host with a bridge, and a label out of reach whose text refers to it. -/
def Host.reserved : Host where
  labels := .mapping [("bridge", .text "br-lab"), ("reserve ", .text "__host_label__: bridge")]

/-- What the reserved host substitutes, no valid host changes any more. -/
theorem Tree.forall_substitute_final_reserved :
    Record.isValid Host.reserved = true ∧
      ∀ other : Host, Record.isValid other = true → ∀ tree : Tree,
        (tree.substitute Host.reserved).substitute other = tree.substitute Host.reserved := by
  have h : Record.isValid Host.reserved = true := by decide
  refine ⟨h, (Tree.forall_substitute_final_iff h).mpr ?_⟩
  intro name hm ht
  have hnames : Host.reserved.labelNames = ["bridge", "reserve "] := rfl
  simp only [hnames, List.mem_cons, List.not_mem_nil, or_false] at hm
  rcases hm with rfl | rfl
  · decide
  · exact absurd ht (by decide)

end HostOverlay
