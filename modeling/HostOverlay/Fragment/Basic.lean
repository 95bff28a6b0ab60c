import HostOverlay.Store.Pool
import HostOverlay.Tree

/-!
# Fragments

A label may be assigned a mapping. A reference to such a label puts the mapping itself into a
configuration and not a copy of it, so a later substitution inside it shows in the label and in
every configuration that refers to it. Such a mapping is a fragment, and so is every mapping inside
it that is reached through mappings only: it is kept in a pool, and whatever holds it has a link to
it. Reading a tree plainly puts the fragments in the place of the links. A fragment can become part
of itself, if it refers to its own label, and then it cannot be read plainly: a link that leads to
such a fragment stays where it is, and everything beside it is read all the same.
-/

namespace HostOverlay

/-- The mappings that links lead to. -/
abbrev Fragments := Pool (Table String Tree)

namespace Tree

mutual

/-- Puts a value in the place of every link, if there is one for each. -/
def graft? (value : Nat → Option Tree) : Tree → Option Tree
  | link fragment => value fragment
  | sequence items => (graftItems? value items).map sequence
  | mapping entries => (graftEntries? value entries).map mapping
  | null => some null
  | bool truth => some (bool truth)
  | number mantissa exponent => some (number mantissa exponent)
  | text content => some (text content)

/-- Puts a value in the place of every link in a list of values. -/
def graftItems? (value : Nat → Option Tree) : List Tree → Option (List Tree)
  | [] => some []
  | item :: rest =>
    (graft? value item).bind fun item => (graftItems? value rest).map (item :: ·)

/-- Puts a value in the place of every link in the values of entries. -/
def graftEntries? (value : Nat → Option Tree) :
    List (String × Tree) → Option (List (String × Tree))
  | [] => some []
  | (key, item) :: rest =>
    (graft? value item).bind fun item => (graftEntries? value rest).map ((key, item) :: ·)

end

mutual

/-- A tree without links stays as it is. -/
theorem graft?_of_isPlain (value : Nat → Option Tree) :
    ∀ tree : Tree, tree.isPlain = true → tree.graft? value = some tree
  | link _, h => by simp [isPlain] at h
  | sequence items, h => by
    simp only [isPlain] at h
    simp [graft?, graftItems?_of_areItemsPlain value items h]
  | mapping entries, h => by
    simp only [isPlain] at h
    simp [graft?, graftEntries?_of_areEntriesPlain value entries h]
  | null, _ | bool _, _ | number .., _ | text _, _ => by simp [graft?]

/-- Items without links stay as they are. -/
theorem graftItems?_of_areItemsPlain (value : Nat → Option Tree) :
    ∀ items : List Tree, areItemsPlain items = true → graftItems? value items = some items
  | [], _ => by simp [graftItems?]
  | item :: rest, h => by
    simp only [areItemsPlain, Bool.and_eq_true] at h
    simp [graftItems?, graft?_of_isPlain value item h.1,
      graftItems?_of_areItemsPlain value rest h.2]

/-- Entries without links stay as they are. -/
theorem graftEntries?_of_areEntriesPlain (value : Nat → Option Tree) :
    ∀ entries : List (String × Tree), areEntriesPlain entries = true →
      graftEntries? value entries = some entries
  | [], _ => by simp [graftEntries?]
  | (key, item) :: rest, h => by
    simp only [areEntriesPlain, Bool.and_eq_true] at h
    simp [graftEntries?, graft?_of_isPlain value item h.1,
      graftEntries?_of_areEntriesPlain value rest h.2]

end

mutual

/-- A tree in which every link stays is the same. -/
theorem graft?_some_link : ∀ tree : Tree,
    graft? (fun fragment => some (link fragment)) tree = some tree
  | link _ | null | bool _ | number .. | text _ => by simp [graft?]
  | sequence items => by simp [graft?, graftItems?_some_link items]
  | mapping entries => by simp [graft?, graftEntries?_some_link entries]

/-- Items in which every link stays are the same. -/
theorem graftItems?_some_link : ∀ items : List Tree,
    graftItems? (fun fragment => some (link fragment)) items = some items
  | [] => by simp [graftItems?]
  | item :: rest => by
    simp [graftItems?, graft?_some_link item, graftItems?_some_link rest]

/-- Entries in which every link stays are the same. -/
theorem graftEntries?_some_link : ∀ entries : List (String × Tree),
    graftEntries? (fun fragment => some (link fragment)) entries = some entries
  | [] => by simp [graftEntries?]
  | (key, item) :: rest => by
    simp [graftEntries?, graft?_some_link item, graftEntries?_some_link rest]

end

end Tree

namespace Fragments

/-- The number of fragments. -/
def size (fragments : Fragments) : Nat := fragments.objects.length

/-- The entries of a fragment. -/
def entries (fragments : Fragments) (fragment : Nat) : Table String Tree :=
  fragments.get ⟨fragment⟩

/-- Stores a value in a fragment. -/
def put (fragments : Fragments) (fragment : Nat) (key : String) (value : Tree) : Fragments :=
  fragments.set ⟨fragment⟩ (Table.put key value (fragments.entries fragment))

/-- The mapping that a link leads to; any other value is itself. -/
def target (fragments : Fragments) : Tree → Tree
  | .link fragment => .mapping (fragments.entries fragment)
  | tree => tree

/-- Reads a tree with the fragments in the place of its links, if no way through the links is
longer than a number of them. -/
def plainWithin? (fragments : Fragments) : Nat → Tree → Option Tree
  | 0, tree => tree.graft? fun _ => none
  | depth + 1, tree =>
    tree.graft? fun fragment => fragments.plainWithin? depth (.mapping (fragments.entries fragment))

/-- Reads a tree with the fragments in the place of its links, unless it is part of itself: a way
through the links that is longer than there are fragments comes to one of them twice. -/
def plain? (fragments : Fragments) (tree : Tree) : Option Tree :=
  fragments.plainWithin? fragments.size tree

/-- Reads a tree with the fragments in the place of its links; only a link that leads to something
that is part of itself stays. -/
def plain (fragments : Fragments) (tree : Tree) : Tree :=
  (tree.graft? fun fragment =>
    (fragments.plain? (.link fragment)).or (some (.link fragment))).getD tree

mutual

/-- What a label that is assigned a value holds: every mapping that is reached through mappings
only becomes a fragment, unless it is empty and nothing can change in it. -/
def adopt : Tree → Fragments → Tree × Fragments
  | .mapping entries, fragments =>
    if entries.isEmpty then (.mapping entries, fragments)
    else
      let (entries, fragments) := adoptEntries entries fragments
      (.link fragments.size, fragments.add entries)
  | .null, fragments => (.null, fragments)
  | .bool value, fragments => (.bool value, fragments)
  | .number mantissa exponent, fragments => (.number mantissa exponent, fragments)
  | .text value, fragments => (.text value, fragments)
  | .sequence items, fragments => (.sequence items, fragments)
  | .link fragment, fragments => (.link fragment, fragments)

/-- What entries hold of which each is adopted. -/
def adoptEntries : List (String × Tree) → Fragments → List (String × Tree) × Fragments
  | [], fragments => ([], fragments)
  | (name, value) :: rest, fragments =>
    let (value, fragments) := adopt value fragments
    let (rest, fragments) := adoptEntries rest fragments
    ((name, value) :: rest, fragments)

end

/-- What a host that is assigned a value for its labels holds. -/
def adoptLabels (fragments : Fragments) (labels : Tree) : Tree × Fragments :=
  match labels with
  | .mapping entries =>
    let (entries, fragments) := adoptEntries entries fragments
    (.mapping entries, fragments)
  | labels => (labels, fragments)

/-- Labels that are texts are held as they are. -/
theorem adoptEntries_of_texts (fragments : Fragments) {labels : Table String Tree}
    (h : ∀ label ∈ labels, ∃ text, label.2 = .text text) :
    adoptEntries labels fragments = (labels, fragments) := by
  induction labels with
  | nil => rfl
  | cons label rest ih =>
    obtain ⟨name, value⟩ := label
    obtain ⟨text, rfl⟩ := h (name, value) List.mem_cons_self
    simp only [adoptEntries, adopt, ih fun other ho => h other (List.mem_cons_of_mem _ ho)]

/-- Where there are no fragments, every fragment reads as empty. -/
theorem entries_of_size_eq_zero {fragments : Fragments} (h : fragments.size = 0)
    (fragment : Nat) : fragments.entries fragment = [] := by
  have ho : fragments.objects = [] := List.length_eq_zero_iff.mp h
  simp only [entries, Pool.get, ho, List.getD_nil]
  rfl

/-- Where there are no fragments, what a value leads to has the texts of the value. -/
theorem textAt_target {fragments : Fragments} (h : fragments.size = 0) (tree : Tree)
    (key : String) : (fragments.target tree).textAt key = tree.textAt key := by
  cases tree with
  | link fragment =>
    rw [target, entries_of_size_eq_zero h]
    rfl
  | _ => rfl

/-- A tree without links reads as it stands. -/
theorem plain_of_isPlain (fragments : Fragments) {tree : Tree} (h : tree.isPlain = true) :
    fragments.plain tree = tree := by
  simp [plain, Tree.graft?_of_isPlain _ tree h]

/-- Where there are no fragments, every tree reads as it stands. -/
theorem plain_of_size_eq_zero {fragments : Fragments} (h : fragments.size = 0) (tree : Tree) :
    fragments.plain tree = tree := by
  have hlink (fragment : Nat) : fragments.plain? (.link fragment) = none := by
    rw [plain?, h, plainWithin?, Tree.graft?]
  simp only [plain, hlink, Option.none_or, Tree.graft?_some_link, Option.getD_some]

end Fragments

end HostOverlay
