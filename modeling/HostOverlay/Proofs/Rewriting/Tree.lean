import HostOverlay.Proofs.Labels
import HostOverlay.Substitution

/-!
# What substitution may change in a tree

A tree is rewritten to another if they differ at most in texts that a mapping holds directly and
that begin with the keyword in the first. Keys and their order, sequences with everything in them,
and all other values are the same, and a root that is no mapping is the same as a whole. Every
substitution on a valid host rewrites its tree in this sense (`rewritesTo_substitute`), and so does
any number of substitutions on any hosts, since the relation is transitive: a text that comes from a
reference may be rewritten again, but it began with the keyword before the first substitution.
-/

namespace HostOverlay.Tree

open Schema

mutual

/-- Whether a value that a mapping holds is rewritten to another. -/
inductive HeldRewritesTo : Tree → Tree → Prop
  /-- The value stays. -/
  | same (tree : Tree) : HeldRewritesTo tree tree
  /-- A text that begins with the keyword becomes any text. -/
  | reference {before : String} (h : Reference.keyword.toList <+: before.toList)
      (after : String) : HeldRewritesTo (text before) (text after)
  /-- The entries of a mapping are rewritten. -/
  | mapping {before after : Table String Tree} (h : EntriesRewriteTo before after) :
      HeldRewritesTo (mapping before) (mapping after)

/-- Whether entries are rewritten to others, under the same keys in the same order. -/
inductive EntriesRewriteTo : Table String Tree → Table String Tree → Prop
  /-- There are no entries. -/
  | nil : EntriesRewriteTo [] []
  /-- The value of the first entry is rewritten, and so are the other entries. -/
  | cons (key : String) {before after : Tree} {rest rest' : Table String Tree}
      (h : HeldRewritesTo before after) (hr : EntriesRewriteTo rest rest') :
      EntriesRewriteTo ((key, before) :: rest) ((key, after) :: rest')

end

/-- Lifts a relation between entries to trees: the trees are the same, or they are mappings with
related entries. -/
inductive AtRoot (related : Table String Tree → Table String Tree → Prop) : Tree → Tree → Prop
  /-- The trees are the same. -/
  | same (tree : Tree) : AtRoot related tree tree
  /-- The trees are mappings with related entries. -/
  | mapping {before after : Table String Tree} (h : related before after) :
      AtRoot related (mapping before) (mapping after)

/-- Whether a whole tree is rewritten to another. -/
def RewritesTo : Tree → Tree → Prop := AtRoot EntriesRewriteTo

/-- A relation that is lifted to trees is transitive if it is transitive between entries. -/
theorem AtRoot.trans {related : Table String Tree → Table String Tree → Prop}
    {first second third : Tree} (h : AtRoot related first second)
    (h' : AtRoot related second third)
    (ht : ∀ first second third, related first second → related second third →
      related first third) : AtRoot related first third := by
  cases h with
  | same => exact h'
  | mapping h =>
    cases h' with
    | same => exact .mapping h
    | mapping h' => exact .mapping (ht _ _ _ h h')

/-- A lifted relation holds only between trees of which both or none is a mapping. -/
theorem AtRoot.rel_entries? {related : Table String Tree → Table String Tree → Prop}
    (hrefl : ∀ entries, related entries entries) {before after : Tree}
    (h : AtRoot related before after) :
    Option.Rel related before.entries? after.entries? := by
  cases h with
  | same =>
    cases before with
    | mapping entries => exact .some (hrefl entries)
    | _ => exact .none
  | mapping h => exact .some h

/-- Entries are rewritten to themselves. -/
theorem EntriesRewriteTo.refl : ∀ entries : Table String Tree, EntriesRewriteTo entries entries
  | [] => .nil
  | (key, value) :: rest => .cons key (.same value) (refl rest)

mutual

/-- A value that is rewritten twice is rewritten. -/
theorem HeldRewritesTo.trans : ∀ {first second third : Tree},
    HeldRewritesTo first second → HeldRewritesTo second third → HeldRewritesTo first third
  | _, _, _, .same _, h' => h'
  | _, _, _, .reference h _, h' => by
    -- Only the text before the first change has to begin with the keyword.
    cases h' with
    | same => exact .reference h _
    | reference _ after => exact .reference h after
  | _, _, _, .mapping h, h' => by
    cases h' with
    | same => exact .mapping h
    | mapping h' => exact .mapping (EntriesRewriteTo.trans h h')

/-- Entries that are rewritten twice are rewritten. -/
theorem EntriesRewriteTo.trans : ∀ {first second third : Table String Tree},
    EntriesRewriteTo first second → EntriesRewriteTo second third →
      EntriesRewriteTo first third
  | _, _, _, .nil, h' => h'
  | _, _, _, .cons key h hr, h' => by
    cases h' with
    | cons _ h' hr' => exact .cons key (HeldRewritesTo.trans h h') (EntriesRewriteTo.trans hr hr')

end

/-- Entries are rewritten if the value of each is. -/
theorem EntriesRewriteTo.map {change : String × Tree → Tree} :
    ∀ {entries : Table String Tree},
      (∀ entry ∈ entries, HeldRewritesTo entry.2 (change entry)) →
        EntriesRewriteTo entries (entries.map fun entry => (entry.1, change entry))
  | [], _ => .nil
  | (key, value) :: _, h =>
    .cons key (h (key, value) List.mem_cons_self)
      (EntriesRewriteTo.map fun entry hm => h entry (List.mem_cons_of_mem _ hm))

/-- A tree that is rewritten twice is rewritten. -/
theorem RewritesTo.trans {first second third : Tree} (h : RewritesTo first second)
    (h' : RewritesTo second third) : RewritesTo first third :=
  AtRoot.trans h h' fun _ _ _ => EntriesRewriteTo.trans

/-- Rewriting keeps the keys and their order. -/
theorem EntriesRewriteTo.keys_eq {before after : Table String Tree}
    (h : EntriesRewriteTo before after) : Table.keys after = Table.keys before := by
  induction before generalizing after with
  | nil =>
    cases h
    rfl
  | cons entry rest ih =>
    cases h with
    | cons key _ hr =>
      rw [Table.keys, List.map_cons, ← Table.keys, ih hr]
      rfl

/-- Substitution on a valid host rewrites a value that a mapping holds. -/
theorem heldRewritesTo_substituteHeld {host : Host} (h : Record.isValid host = true)
    (tree : Tree) : HeldRewritesTo tree (substituteHeld host tree) := by
  induction tree using mappingInduction with
  | text value =>
    rw [substituteHeld, Host.expand_of_isValid h]
    by_cases hk : Reference.keyword.toList <+: value.toList
    · exact .reference hk _
    · rw [Host.expandText_of_ofText?_eq_none host ((Reference.ofText?_eq_none_iff value).mpr hk)]
      exact .same _
  | mapping entries ih =>
    rw [substituteHeld, substituteEntries_eq_mapValues]
    exact .mapping (.map ih)
  | other tree ht hm =>
    rw [substituteHeld_of_other host ht hm]
    exact .same _

/-- Substitution on a valid host rewrites a tree. -/
theorem rewritesTo_substitute {host : Host} (h : Record.isValid host = true) (tree : Tree) :
    RewritesTo tree (tree.substitute host) := by
  cases tree with
  | mapping entries =>
    rw [substitute, substituteEntries_eq_mapValues]
    exact .mapping (.map fun entry _ => heldRewritesTo_substituteHeld h entry.2)
  | _ => exact .same _

/-- A tree that is rewritten as a whole is rewritten where a mapping holds it. -/
theorem RewritesTo.held {before after : Tree} (h : RewritesTo before after) :
    HeldRewritesTo before after := by
  cases h with
  | same => exact .same _
  | mapping h => exact .mapping h

end HostOverlay.Tree
