import HostOverlay.Table

/-!
# Configuration trees

A network's metadata is a tree of text-keyed mappings with arbitrary leaves. Mappings keep the
order of their entries, and numbers are decimals of any size, so a tree that is only passed
through comes out exactly as it went in. A link stands for a mapping that is kept elsewhere and
belongs to several trees at once; a tree that was just read has none.
-/

namespace HostOverlay

/-- A configuration value. -/
inductive Tree where
  /-- The absent value. -/
  | null
  /-- A truth value. -/
  | bool (value : Bool)
  /-- The decimal number `mantissa * 10 ^ (-exponent)`. -/
  | number (mantissa : Int) (exponent : Nat)
  /-- A text. -/
  | text (value : String)
  /-- A sequence of values. -/
  | sequence (items : List Tree)
  /-- A mapping from texts to values, in the order of its entries. -/
  | mapping (entries : List (String × Tree))
  /-- The mapping that is kept as the fragment of this number. -/
  | link (fragment : Nat)
deriving Inhabited

namespace Tree

/-- The entries of a mapping. -/
def entries? : Tree → Option (Table String Tree)
  | mapping entries => some entries
  | _ => none

/-- The entries of a mapping; any other value counts as a mapping without entries. -/
def entriesOrNone (tree : Tree) : Table String Tree := tree.entries?.getD []

/-- The items of a sequence. -/
def items? : Tree → Option (List Tree)
  | sequence items => some items
  | _ => none

/-- The value under a key, if the tree is a mapping that has it. -/
def get? (tree : Tree) (key : String) : Option Tree :=
  tree.entries?.bind fun entries => Table.get? entries key

/-- The value under a key, or another value if there is none. -/
def getD (tree : Tree) (key : String) (fallback : Tree) : Tree := (tree.get? key).getD fallback

/-- Stores a value in a mapping; any other value stays as it is. -/
def put (tree : Tree) (key : String) (value : Tree) : Tree :=
  match tree with
  | mapping entries => mapping (Table.put key value entries)
  | tree => tree

/-- The text itself; any other value counts as the empty text. -/
def textOrEmpty : Tree → String
  | text value => value
  | _ => ""

/-- The text under a key; a missing key and a value that is no text count as the empty text. -/
def textAt (tree : Tree) (key : String) : String :=
  ((tree.get? key).map textOrEmpty).getD ""

/-- The empty text. -/
def emptyText : Tree := text ""

/-- The mapping without entries. -/
def emptyMapping : Tree := mapping []

/-- Whether a value says nothing: the absent value, falsehood, zero, the empty text, and the
sequence and the mapping with nothing in them. -/
def isVoid : Tree → Bool
  | null => true
  | bool value => !value
  | number mantissa _ => mantissa == 0
  | text value => value == ""
  | sequence items => items.isEmpty
  | mapping entries => entries.isEmpty
  | link _ => false

mutual

/-- Whether a tree has no link in it. -/
def isPlain : Tree → Bool
  | link _ => false
  | sequence items => areItemsPlain items
  | mapping entries => areEntriesPlain entries
  | null | bool _ | number .. | text _ => true

/-- Whether no item has a link in it. -/
def areItemsPlain : List Tree → Bool
  | [] => true
  | item :: rest => isPlain item && areItemsPlain rest

/-- Whether no value of an entry has a link in it. -/
def areEntriesPlain : List (String × Tree) → Bool
  | [] => true
  | (_, value) :: rest => isPlain value && areEntriesPlain rest

end

mutual

/-- Induction through the mappings of a tree: what holds of every text, of a mapping if it holds of
the values in it, and of everything that is neither, holds of every tree. -/
theorem mappingInduction {motive : Tree → Prop} (text : ∀ value : String, motive (text value))
    (mapping : ∀ entries : List (String × Tree), (∀ entry ∈ entries, motive entry.2) →
      motive (mapping entries))
    (other : ∀ tree : Tree, (∀ value, tree ≠ .text value) → tree.entries? = none → motive tree) :
    ∀ tree : Tree, motive tree
  | .text value => text value
  | .mapping entries => mapping entries (entryInduction text mapping other entries)
  | .null => other .null nofun rfl
  | .bool value => other (.bool value) nofun rfl
  | .number mantissa exponent => other (.number mantissa exponent) nofun rfl
  | .sequence items => other (.sequence items) nofun rfl
  | .link fragment => other (.link fragment) nofun rfl

/-- The same for the values of entries. -/
theorem entryInduction {motive : Tree → Prop} (text : ∀ value : String, motive (text value))
    (mapping : ∀ entries : List (String × Tree), (∀ entry ∈ entries, motive entry.2) →
      motive (mapping entries))
    (other : ∀ tree : Tree, (∀ value, tree ≠ .text value) → tree.entries? = none → motive tree) :
    ∀ entries : List (String × Tree), ∀ entry ∈ entries, motive entry.2
  | [], _, hm => absurd hm List.not_mem_nil
  | (_, value) :: rest, entry, hm =>
    match List.mem_cons.mp hm with
    | .inl he => he ▸ mappingInduction text mapping other value
    | .inr hr => entryInduction text mapping other rest entry hr

end

end Tree

end HostOverlay
