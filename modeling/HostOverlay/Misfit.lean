import HostOverlay.Kind

/-!
# Misfits

A field that was assigned without validation may hold any value, so an operation can meet a value
that it has no use for. A misfit says what was asked of the value and what kind of value it was.
-/

namespace HostOverlay

/-- What was being done at a position that a list or a text does not have. -/
inductive Access where
  /-- An element of a list was looked at. -/
  | element
  /-- An element of a list was removed. -/
  | removal
  /-- A character of a text was looked at. -/
  | character
deriving DecidableEq, Repr

/-- What was asked of a value that has no answer to it. -/
inductive Misfit where
  /-- A member of this name. -/
  | noMember (kind : Kind) (member : String)
  /-- A field that a record does not hold, though it has spare values for other fields. -/
  | notSpare (record field : String)
  /-- To assign a fixed attribute. -/
  | fixed (kind : Kind) (name : String)
  /-- To assign an attribute that is computed from the value. -/
  | computed (kind : Kind) (name : String)
  /-- To be the class of another value. -/
  | notClass (kind : Kind)
  /-- To be the name of an attribute. -/
  | notName (kind : Kind)
  /-- To be called. -/
  | notCallable (kind : Kind)
  /-- Its length. -/
  | noLength (kind : Kind)
  /-- Its elements, one by one. -/
  | notIterable (kind : Kind)
  /-- To be the key of a table. -/
  | notKey (kind : Kind)
  /-- The element at a position. -/
  | notIndexed (kind : Kind)
  /-- To store an entry. -/
  | notAssignable (kind : Kind)
  /-- To remove an element. -/
  | notRemovable (kind : Kind)
  /-- To remove a character of a text. -/
  | textRemoval
  /-- To be a position in a list. -/
  | notPosition (kind : Kind)
  /-- To be a position in a text. -/
  | notTextPosition (kind : Kind)
  /-- To be the position of an insertion. -/
  | notWhole (kind : Kind)
  /-- To be a position, though no list is as long as that. -/
  | farPosition
  /-- To be the position of an insertion, though no list is as long as that. -/
  | farInsertion
  /-- To take an element out of a list with one argument too many. -/
  | surplusArgument
  /-- The field of this name. -/
  | noField (record field : String)
  /-- To assign a property that a record computes. -/
  | computedProperty (record property : String)
  /-- To give a call one of its arguments twice. -/
  | repeatedArgument (call argument : String)
  /-- To be the fields of a record, all at once. -/
  | notFields (kind : Kind)
  /-- What is at a position beyond the ends. -/
  | outOfRange (access : Access)
  /-- The entry of a dictionary under a key, which is given as messages write it. -/
  | noEntry (key : String)
  /-- To be shown, though the value is part of itself. -/
  | circular
  /-- To be walked through, though the value is part of itself or nested too deep. -/
  | endless
deriving DecidableEq, Repr

namespace Misfit

/-- The misfit from which a misfit follows, if it is not the first: an entry that is missing from
the spare values. -/
def cause? : Misfit → Option Misfit
  | notSpare _ field => some (noEntry ("'" ++ field ++ "'"))
  | _ => none

/-- The message of a misfit. -/
def message : Misfit → String
  | noMember kind member =>
    "'" ++ kind.label ++ "' object has no attribute '" ++ member ++ "'"
  | notSpare record field => "'" ++ record ++ "' object has no attribute '" ++ field ++ "'"
  | fixed kind name =>
    "'" ++ kind.label ++ "' object attribute '" ++ name ++ "' is read-only"
  | computed kind name =>
    "attribute '" ++ name ++ "' of '" ++ kind.label ++ "' objects is not writable"
  | notClass kind => "__class__ must be set to a class, not '" ++ kind.label ++ "' object"
  | notName kind => "attribute name must be string, not '" ++ kind.label ++ "'"
  | notCallable kind => "'" ++ kind.label ++ "' object is not callable"
  | noLength kind => "object of type '" ++ kind.label ++ "' has no len()"
  | notIterable kind => "'" ++ kind.label ++ "' object is not iterable"
  | notKey kind => "unhashable type: '" ++ kind.label ++ "'"
  | notIndexed kind => "'" ++ kind.label ++ "' object is not subscriptable"
  | notAssignable kind => "'" ++ kind.label ++ "' object does not support item assignment"
  | notRemovable kind => "'" ++ kind.label ++ "' object does not support item deletion"
  | textRemoval => "'str' object doesn't support item deletion"
  | notPosition kind => "list indices must be integers or slices, not " ++ kind.label
  | notTextPosition kind => "string indices must be integers, not '" ++ kind.label ++ "'"
  | notWhole kind => "'" ++ kind.label ++ "' object cannot be interpreted as an integer"
  | farPosition => "cannot fit 'int' into an index-sized integer"
  | farInsertion => "Python int too large to convert to C ssize_t"
  | surplusArgument => "pop expected at most 1 argument, got 2"
  | noField record field => "\"" ++ record ++ "\" object has no field \"" ++ field ++ "\""
  | computedProperty record property =>
    "property '" ++ property ++ "' of '" ++ record ++ "' object has no setter"
  | repeatedArgument call argument =>
    call ++ "() got multiple values for argument '" ++ argument ++ "'"
  | notFields kind => "__dict__ must be set to a dictionary, not a '" ++ kind.label ++ "'"
  | outOfRange .element => "list index out of range"
  | outOfRange .removal => "list assignment index out of range"
  | outOfRange .character => "string index out of range"
  | noEntry key => key
  | circular => "Circular reference detected"
  | endless => "maximum recursion depth exceeded while calling a Python object"

end Misfit

namespace Tree

/-- Why a value cannot be the key of a table: lists and dictionaries cannot. -/
def keyMisfit? : Tree → Option Misfit
  | tree@(sequence _) | tree@(mapping _) | tree@(link _) => some (.notKey tree.kind)
  | null | bool _ | number .. | text _ => none

end Tree

end HostOverlay
