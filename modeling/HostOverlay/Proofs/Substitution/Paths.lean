import HostOverlay.Proofs.Naming
import HostOverlay.Substitution

/-!
# Substitution path by path

A path of keys leads from the root of a tree through mappings to a value. Substitution keeps the
paths: at the end of each stands the substituted value, under the same keys in the same order
(`Tree.valueAt?_substitute`, `Tree.keysAt?_substitute`). What becomes of a value that is no mapping
is listed case by case in `Host.Becomes`, from the text of the reference and the labels of the host
alone, and `Host.becomes_iff` shows that substitution keeps to the list.
`Tree.substitute_becomes` puts the two together.
-/

namespace HostOverlay

open Schema

namespace Tree

/-- The value at the end of a path of keys, if the path leads to one through mappings. -/
def valueAt? : Tree → List String → Option Tree
  | tree, [] => some tree
  | tree, key :: path => (tree.get? key).bind fun value => value.valueAt? path

/-- The keys of a mapping, in their order. -/
def keys? (tree : Tree) : Option (List String) := tree.entries?.map Table.keys

/-- The keys of the mapping at the end of a path, in their order. -/
def keysAt? (tree : Tree) (path : List String) : Option (List String) :=
  (tree.valueAt? path).bind keys?

/-- A value of a substituted tree is the substituted value. -/
theorem get?_substitute (host : Host) (tree : Tree) (key : String) :
    (tree.substitute host).get? key = (tree.get? key).map (substituteHeld host) := by
  unfold get?
  rw [entries?_substitute]
  cases tree.entries? with
  | none => rfl
  | some entries =>
    rw [Option.map_some, Option.bind_some, Option.bind_some, substituteEntries_eq_mapValues,
      Table.get?_mapValues]

/-- Substitution keeps the keys at the root, and their order. -/
theorem keys?_substitute (host : Host) (tree : Tree) : (tree.substitute host).keys? = tree.keys? := by
  unfold keys?
  rw [entries?_substitute, Option.map_map]
  exact congrArg (tree.entries?.map ·) (funext fun entries => keys_substituteEntries host entries)

section

variable {host : Host} (h : Record.isValid host = true)
include h

/-- The entries of a substituted value are the substituted entries. -/
theorem entries?_substituteHeld (tree : Tree) :
    (substituteHeld host tree).entries? = tree.entries?.map (substituteEntries host) := by
  cases tree with
  | text value =>
    rw [substituteHeld, Host.expand_of_isValid h]
    rfl
  | _ => rw [substituteHeld]; rfl

/-- A substituted value has the entries that it has if it is substituted as a whole. -/
theorem entries?_substituteHeld_eq (tree : Tree) :
    (substituteHeld host tree).entries? = (tree.substitute host).entries? := by
  rw [entries?_substituteHeld h, entries?_substitute]

/-- What a substituted value has under a key is the substituted value. -/
theorem get?_substituteHeld (tree : Tree) (key : String) :
    (substituteHeld host tree).get? key = (tree.get? key).map (substituteHeld host) := by
  rw [← get?_substitute, get?, get?, entries?_substituteHeld_eq h]

/-- At the end of a path through a substituted value stands the substituted value. -/
theorem valueAt?_substituteHeld (path : List String) (tree : Tree) :
    (substituteHeld host tree).valueAt? path = (tree.valueAt? path).map (substituteHeld host) := by
  -- Each key of the path leads to another value, so the claim is on all values at once.
  induction path generalizing tree with
  | nil => rfl
  | cons key path ih =>
    rw [valueAt?, valueAt?, get?_substituteHeld h]
    cases tree.get? key with
    | none => rfl
    | some value =>
      rw [Option.map_some, Option.bind_some, Option.bind_some]
      exact ih value

/-- At the end of a path of one or more keys through a substituted tree stands the substituted
value. -/
theorem valueAt?_substitute (tree : Tree) {path : List String} (hp : path ≠ []) :
    (tree.substitute host).valueAt? path = (tree.valueAt? path).map (substituteHeld host) := by
  cases path with
  | nil => exact absurd rfl hp
  | cons key path =>
    rw [← valueAt?_substituteHeld h, valueAt?, valueAt?, get?_substituteHeld h, get?_substitute]

/-- Substitution keeps the keys of every mapping that a path leads to, and their order. -/
theorem keysAt?_substitute (tree : Tree) (path : List String) :
    (tree.substitute host).keysAt? path = tree.keysAt? path := by
  unfold keysAt?
  cases path with
  -- The root is not held by anything: a text there is no mapping, before or after.
  | nil => exact keys?_substitute host tree
  | cons key path =>
    have hkeys (value : Tree) : (substituteHeld host value).keys? = value.keys? := by
      rw [← keys?_substitute host value, keys?, keys?, entries?_substituteHeld_eq h]
    rw [valueAt?_substitute h tree (List.cons_ne_nil key path), Option.bind_map]
    exact congrArg ((tree.valueAt? (key :: path)).bind ·) (funext hkeys)

end

end Tree

namespace Host

/-- What a value that is no mapping becomes on a host where a mapping holds it. -/
inductive Becomes (host : Host) : Tree → Tree → Prop
  /-- A value that is no text stays. -/
  | other {value : Tree} (h : ∀ content, value ≠ .text content) : Becomes host value value
  /-- A text that does not begin with the keyword stays. -/
  | plain {content : String} (h : ¬ Reference.keyword.toList <+: content.toList) :
      Becomes host (.text content) (.text content)
  /-- A reference without a colon becomes the empty text. -/
  | unnamed {content : String} (hk : Reference.keyword.toList <+: content.toList)
      (hc : ':' ∉ content.toList) : Becomes host (.text content) .emptyText
  /-- A reference to a label of the host becomes the value of the label. -/
  | label {content name : String} {value : Tree} (hn : Reference.Names content name)
      (hv : host.labels.get? name = some value) : Becomes host (.text content) value
  /-- A reference to a label that the host lacks becomes the empty text. -/
  | missing {content name : String} (hn : Reference.Names content name)
      (hv : host.labels.get? name = none) : Becomes host (.text content) .emptyText

/-- A valid host expands a reference to the text of the label that it names. -/
theorem expand_of_names {host : Host} (h : Record.isValid host = true) {content name : String}
    (hn : Reference.Names content name) :
    host.expand content = .text (host.labels.textAt name) := by
  rw [expand_of_isValid h, expandText_of_ofText?_eq_label h (Reference.ofText?_eq_label_iff.mpr hn)]

/-- What the cases say of a value is what a valid host substitutes for it. -/
theorem Becomes.eq_substituteHeld {host : Host} (h : Record.isValid host = true)
    {value after : Tree} (hm : value.entries? = none) (hb : host.Becomes value after) :
    after = Tree.substituteHeld host value := by
  cases hb with
  | other ht => rw [Tree.substituteHeld_of_other host ht hm]
  | plain hk =>
    rw [Tree.substituteHeld, expand, (Reference.ofText?_eq_none_iff _).mpr hk]
  | unnamed hk hc =>
    rw [Tree.substituteHeld, expand, Reference.ofText?_eq_nothing_iff.mpr ⟨hk, hc⟩]
    rfl
  | label hn hv =>
    obtain ⟨text, rfl⟩ := eq_text_of_label h hv
    rw [Tree.substituteHeld, expand_of_names h hn, Tree.textAt, hv]
    rfl
  | missing hn hv =>
    rw [Tree.substituteHeld, expand_of_names h hn, Tree.textAt, hv]
    rfl

/-- There is a case for every value that is no mapping. -/
theorem becomes_substituteHeld {host : Host} (h : Record.isValid host = true) {value : Tree}
    (hm : value.entries? = none) : host.Becomes value (Tree.substituteHeld host value) := by
  cases value with
  | mapping entries => simp [Tree.entries?] at hm
  | text content =>
    cases hr : Reference.ofText? content with
    | none =>
      have hk := (Reference.ofText?_eq_none_iff content).mp hr
      rw [Tree.substituteHeld, expand, hr]
      exact .plain hk
    | some reference =>
      cases reference with
      | nothing =>
        obtain ⟨hk, hc⟩ := Reference.ofText?_eq_nothing_iff.mp hr
        rw [Tree.substituteHeld, expand, hr]
        exact .unnamed hk hc
      | label name =>
        have hn := Reference.ofText?_eq_label_iff.mp hr
        rw [Tree.substituteHeld, expand_of_names h hn, Tree.textAt]
        cases hv : host.labels.get? name with
        | none => exact .missing hn hv
        | some value =>
          obtain ⟨text, rfl⟩ := eq_text_of_label h hv
          exact .label hn hv
  | _ =>
    rw [Tree.substituteHeld]
    exact .other (by simp)

/-- The cases say of a value that is no mapping what a valid host substitutes for it, and nothing
else. -/
theorem becomes_iff {host : Host} (h : Record.isValid host = true) {value after : Tree}
    (hm : value.entries? = none) :
    host.Becomes value after ↔ after = Tree.substituteHeld host value := by
  constructor
  · intro hb
    exact hb.eq_substituteHeld h hm
  · rintro rfl
    exact becomes_substituteHeld h hm

end Host

/-- Substitution on a valid host, path by path: every mapping that is reached through mappings only
keeps its keys in their order; where a value stood that is no mapping, at the end of one or more
keys, stands the one value that it becomes; and a root that is no mapping stays as it is. -/
theorem Tree.substitute_becomes {host : Host} (h : Record.isValid host = true) (tree : Tree) :
    (∀ path, (tree.substitute host).keysAt? path = tree.keysAt? path) ∧
      (∀ path value, path ≠ [] → tree.valueAt? path = some value → value.entries? = none →
        ∃ after, (tree.substitute host).valueAt? path = some after ∧
          ∀ other, host.Becomes value other ↔ other = after) ∧
      (tree.entries? = none → tree.substitute host = tree) := by
  refine ⟨keysAt?_substitute h tree, ?_, ?_⟩
  · intro path value hp hv hm
    refine ⟨substituteHeld host value, ?_, fun other => Host.becomes_iff h hm⟩
    rw [valueAt?_substitute h tree hp, hv, Option.map_some]
  · intro hm
    cases tree with
    | mapping entries => simp [entries?] at hm
    | _ => rfl

/-- A host with a bridge among its labels. -/
def Host.bridged : Host where
  labels := .mapping [("zone", .text "east"), ("bridge", .text "br-lab")]

/-- A tree with references in an inner mapping, some of them in a sequence. -/
def Tree.nested : Tree :=
  .mapping [("type", .text "rancher-bridge"), ("ipam", .mapping
    [("routes", .sequence [.text "__host_label__: bridge",
      .mapping [("via", .text "__host_label__: bridge")]]),
      ("gateway", .text "__host_label__ of the lab:\t bridge\u00A0")])]

/-- On the bridged host, the gateway of the nested tree becomes the text of the label, and the routes
stay as they are. -/
theorem Tree.substitute_becomes_nested :
    Record.isValid Host.bridged = true ∧
      (Tree.nested.substitute Host.bridged).valueAt? ["ipam", "gateway"] = some (.text "br-lab") ∧
      (Tree.nested.substitute Host.bridged).valueAt? ["ipam", "routes"] =
        Tree.nested.valueAt? ["ipam", "routes"] := by
  have h : Record.isValid Host.bridged = true := by decide
  obtain ⟨-, hvalue, -⟩ := Tree.substitute_becomes h Tree.nested
  refine ⟨h, ?_, ?_⟩
  · obtain ⟨after, hv, hb⟩ := hvalue ["ipam", "gateway"] _ (by decide) rfl rfl
    have hn : Reference.Names "__host_label__ of the lab:\t bridge\u00A0" "bridge" :=
      ⟨by decide, " of the lab".toList, "\t ".toList, "\u00A0".toList, by decide,
        by decide, by decide, by decide⟩
    rw [hv, ← (hb (.text "br-lab")).mp (.label hn rfl)]
  · obtain ⟨after, hv, hb⟩ := hvalue ["ipam", "routes"] _ (by decide) rfl rfl
    rw [hv, ← (hb _).mp (.other (by simp))]
    rfl

end HostOverlay
