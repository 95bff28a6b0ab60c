import HostOverlay.Proofs.Substitution.Dependence
import HostOverlay.Proofs.Substitution.Paths

/-!
# How the reference to a label can be spelled

A reference to a label may have anything without a colon between the keyword and the colon, and blanks
around the name. All these spellings stand for the label, also if its name has colons in it or is empty
(`Reference.names_spelled`). A name that begins or ends with a blank cannot be spelled, so a
substitution has no use for the label of such a name, and two hosts that have the same labels under
all other names substitute every tree in the same way (`Tree.substitute_spelled`).
-/

namespace HostOverlay

open Schema

/-- A reference to the label of a name, with something in front of the colon and something around the
name. -/
def Reference.spelled (middle left name right : String) : String :=
  keyword ++ middle ++ ":" ++ left ++ name ++ right

/-- A reference names the label whose name has blanks around it in the spelling. -/
theorem Reference.names_spelled {middle left name right : String}
    (hn : Text.strip name.toList = name.toList) (hm : ':' ∉ middle.toList)
    (hl : Text.AreBlank left.toList) (hr : Text.AreBlank right.toList) :
    Names (spelled middle left name right) name := by
  refine ⟨Text.isTrimmed_iff_strip_eq.mpr hn, _, _, _, hm, hl, hr, ?_⟩
  simp [spelled]

/-- The names of the labels that a tree refers to have no blanks at their ends. -/
theorem Tree.RefersTo.strip_eq {tree : Tree} {name : String} (h : tree.RefersTo name) :
    Text.strip name.toList = name.toList := by
  obtain ⟨value, -, hn⟩ := h
  exact Text.isTrimmed_iff_strip_eq.mp hn.1

/-- Where a mapping holds a reference to a label, a valid host puts the text of the label. -/
theorem Tree.valueAt?_substitute_of_names {host : Host} (h : Record.isValid host = true)
    {content name : String} (hn : Reference.Names content name) {tree : Tree} {path : List String}
    (hp : path ≠ []) (hv : tree.valueAt? path = some (.text content)) :
    (tree.substitute host).valueAt? path = some (.text (host.labels.textAt name)) := by
  rw [valueAt?_substitute h tree hp, hv, Option.map_some, substituteHeld, Host.expand_of_names h hn]

/-- Every spelling of a reference to a label is replaced by the value of the label, which is the empty
text if the host lacks the label. Labels whose names begin or end with a blank are out of reach: two
hosts whose labels under all other names have the same texts substitute every tree in the same way. -/
theorem Tree.substitute_spelled {host : Host} (h : Record.isValid host = true) :
    (∀ middle left name right : String, Text.strip name.toList = name.toList →
      ':' ∉ middle.toList → Text.AreBlank left.toList → Text.AreBlank right.toList →
        ∀ (tree : Tree) (path : List String), path ≠ [] →
          tree.valueAt? path = some (.text (Reference.spelled middle left name right)) →
            (∀ value, host.labels.get? name = some value →
              (tree.substitute host).valueAt? path = some value) ∧
            (host.labels.get? name = none →
              (tree.substitute host).valueAt? path = some (.text ""))) ∧
    ∀ other : Host, Record.isValid other = true →
      (∀ name : String, Text.strip name.toList = name.toList →
        host.labels.textAt name = other.labels.textAt name) →
          ∀ tree : Tree, tree.substitute host = tree.substitute other := by
  constructor
  · intro middle left name right hn hm hl hr tree path hp hv
    rw [valueAt?_substitute_of_names h (Reference.names_spelled hn hm hl hr) hp hv]
    constructor
    · intro value hvalue
      obtain ⟨text, rfl⟩ := Host.eq_text_of_label h hvalue
      rw [Tree.textAt, hvalue]
      rfl
    · intro hnone
      rw [Tree.textAt, hnone]
      rfl
  · -- Both hosts are only asked for labels that the tree refers to, and their names are trimmed.
    intro other ho hsame tree
    rw [substitute_eq_substitute_iff_deref]
    intro reference hr
    cases reference with
    | label name =>
      rw [Host.deref_label_eq_iff h ho]
      exact hsame name (label_mem_references_iff.mp hr).strip_eq
    -- A reference without a name is empty on every host.
    | nothing => rfl

/-- A host with a label whose name has a colon, and one whose name begins with a blank. -/
def Host.northern : Host where
  labels := .mapping [(" zone", .text "north"), ("net: bridge", .text "br-lab")]

/-- A host that differs in the label whose name begins with a blank. -/
def Host.southern : Host where
  labels := .mapping [(" zone", .text "south"), ("net: bridge", .text "br-lab")]

/-- A tree in which the reference to a bridge has a remark, and that to a zone has blanks. -/
def Tree.remarked : Tree :=
  .mapping [("zone", .text "__host_label__:  zone"),
    ("bridge", .text "__host_label__ of the lab:\t net: bridge\u00A0")]

/-- The reference to the bridge is replaced, and both hosts substitute the remarked tree in the same
way. -/
theorem Tree.substitute_spelled_remarked :
    Record.isValid Host.northern = true ∧ Record.isValid Host.southern = true ∧
      (Tree.remarked.substitute Host.northern).valueAt? ["bridge"] = some (.text "br-lab") ∧
      Tree.remarked.substitute Host.northern = Tree.remarked.substitute Host.southern := by
  have hn : Record.isValid Host.northern = true := by decide
  have hs : Record.isValid Host.southern = true := by decide
  obtain ⟨hspelled, hsame⟩ := Tree.substitute_spelled hn
  refine ⟨hn, hs, ?_, hsame Host.southern hs ?_ Tree.remarked⟩
  · have hv : Tree.remarked.valueAt? ["bridge"] =
        some (.text (Reference.spelled " of the lab" "\t " "net: bridge" "\u00A0")) := by
      have hspelling : Reference.spelled " of the lab" "\t " "net: bridge" "\u00A0" =
          "__host_label__ of the lab:\t net: bridge\u00A0" := by decide
      rw [hspelling]
      rfl
    exact (hspelled _ _ _ _ (by decide) (by decide) (by decide) (by decide) _ _ (by decide) hv).1 _
      rfl
  · intro name htrimmed
    have hzone : (name == " zone") = false := by
      rw [beq_eq_false_iff_ne]
      rintro rfl
      exact absurd htrimmed (by decide)
    simp [Host.northern, Host.southern, Tree.textAt, Tree.get?, Tree.entries?, Table.get?,
      List.lookup_cons, hzone]

end HostOverlay
