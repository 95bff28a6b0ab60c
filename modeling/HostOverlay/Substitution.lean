import HostOverlay.Reference

/-!
# Substitution of host labels

Substitution expands the texts that a configuration tree holds directly in a mapping, in the root
mapping and in every mapping reached from it through mappings only. The keys, the order of the
entries, sequences with everything in them and all other values stay as they are, and so does a
root that is no mapping. A link stays a link; what it leads to is no part of the tree.
-/

namespace HostOverlay.Tree

mutual

/-- Substitution in a value that a mapping holds. -/
def substituteHeld (host : Host) : Tree → Tree
  | text value => host.expand value
  | mapping entries => mapping (substituteEntries host entries)
  | null => null
  | bool value => bool value
  | number mantissa exponent => number mantissa exponent
  | sequence items => sequence items
  | link fragment => link fragment

/-- Substitution in the entries of a mapping. -/
def substituteEntries (host : Host) : List (String × Tree) → List (String × Tree)
  | [] => []
  | (key, value) :: rest => (key, substituteHeld host value) :: substituteEntries host rest

end

/-- Substitution in a whole tree. -/
def substitute (host : Host) : Tree → Tree
  | mapping entries => mapping (substituteEntries host entries)
  | tree => tree

/-- The trees after one, two, and up to `times` substitutions. -/
def substitutions (host : Host) : Nat → Tree → List Tree
  | 0, _ => []
  | times + 1, tree => tree.substitute host :: substitutions host times (tree.substitute host)

/-- Substituting in entries is substituting in the value of each. -/
theorem substituteEntries_eq_mapValues (host : Host) : ∀ entries : Table String Tree,
    substituteEntries host entries = Table.mapValues (substituteHeld host) entries
  | [] => by rw [substituteEntries, Table.mapValues, List.map_nil]
  | (key, value) :: rest => by
    rw [substituteEntries, substituteEntries_eq_mapValues host rest]
    rfl

/-- Substitution keeps the keys. -/
theorem keys_substituteEntries (host : Host) (entries : Table String Tree) :
    Table.keys (substituteEntries host entries) = Table.keys entries := by
  rw [substituteEntries_eq_mapValues, Table.keys_mapValues]

/-- A root mapping is substituted as it would be where a mapping holds it. -/
theorem substitute_mapping (host : Host) (entries : List (String × Tree)) :
    (mapping entries).substitute host = substituteHeld host (mapping entries) := by
  rw [substitute, substituteHeld]

/-- The entries of a substituted tree are the substituted entries. -/
theorem entries?_substitute (host : Host) (tree : Tree) :
    (tree.substitute host).entries? = tree.entries?.map (substituteEntries host) := by
  cases tree <;> rfl

/-- A value that is neither a text nor a mapping stays where a mapping holds it. -/
theorem substituteHeld_of_other (host : Host) {tree : Tree} (ht : ∀ value, tree ≠ .text value)
    (hm : tree.entries? = none) : substituteHeld host tree = tree := by
  cases tree with
  | text value => exact absurd rfl (ht value)
  | mapping entries => simp [entries?] at hm
  | _ => rw [substituteHeld]

end HostOverlay.Tree
