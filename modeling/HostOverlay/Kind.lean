import HostOverlay.Tree

/-!
# Kinds of values
-/

namespace HostOverlay

/-- The kinds of values. -/
inductive Kind where
  /-- The absent value. -/
  | absent
  /-- Truth values. -/
  | truth
  /-- Whole numbers. -/
  | whole
  /-- Numbers with decimal places. -/
  | decimal
  /-- Texts. -/
  | text
  /-- Lists. -/
  | list
  /-- Dictionaries. -/
  | dictionary
  /-- Records of the given name. -/
  | record (name : String)
deriving DecidableEq, Repr

/-- The written name of a kind. -/
def Kind.label : Kind → String
  | absent => "NoneType"
  | truth => "bool"
  | whole => "int"
  | decimal => "float"
  | text => "str"
  | list => "list"
  | dictionary => "dict"
  | record name => name

/-- The kind of a value. -/
def Tree.kind : Tree → Kind
  | null => .absent
  | bool _ => .truth
  | number _ exponent => if exponent = 0 then .whole else .decimal
  | text _ => .text
  | sequence _ => .list
  | mapping _ | link _ => .dictionary

end HostOverlay
