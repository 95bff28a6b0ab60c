import HostOverlay.Schema.Record

/-!
# Validators

The records only declare what they are. That a value is what a record declares is found out by a
library, the validator, which is a parameter here: given a shape, it makes an object of a value or
reports everything that is wrong with the value, and it writes an object as a value again.
`Validator.Spec` says what is documented of the validators that the agent works with. They convert
nothing, they go on after the first fault, they pass over keys that are no fields, and they take the
default of a field that is missing as it is declared. Every line of it is about one value and what
stands directly inside it.
-/

namespace HostOverlay.Schema

/-- A library that validates values. -/
class Validator where
  /-- What the validator makes of values. -/
  Object : Type
  /-- Makes an object of a value that has a shape, or lists what is wrong with the value. -/
  validate : Shape → Tree → Except (List Violation) Object
  /-- Writes an object as a value. -/
  dump : Object → Tree

namespace Validator

/-- Everything that a validator reports of a value. -/
def violations (validator : Validator) (shape : Shape) (tree : Tree) : List Violation :=
  match validator.validate shape tree with
  | .ok _ => []
  | .error violations => violations

/-- What the object is written as that a validator makes of a value, if it makes one. -/
def written? (validator : Validator) (shape : Shape) (tree : Tree) : Option Tree :=
  match validator.validate shape tree with
  | .ok object => some (validator.dump object)
  | .error _ => none

/-- What a field of an object is written as, if the field is missing or there is an object of what
the value holds in it. -/
def writtenField? (validator : Validator) (field : Slot Shape) : Option Tree → Option Tree
  | some value => validator.written? field.shape value
  | none => some field.default

/-- What is documented of a validator. -/
structure Spec (validator : Validator) : Prop where
  /-- A value is refused only for something that is reported. -/
  ne_nil_of_validate_eq_error {shape : Shape} {tree : Tree} {violations : List Violation}
    (h : validator.validate shape tree = .error violations) : violations ≠ []
  /-- A value that is not of the kind that is asked for is refused for that and nothing else. -/
  validate_of_fault {shape : Shape} {tree : Tree} {fault : Fault}
    (h : shape.fault? tree = some fault) : validator.validate shape tree = .error [⟨[], fault⟩]
  /-- Where anything is asked for, a value is kept as it is. -/
  written?_anything (tree : Tree) : validator.written? .anything tree = some tree
  /-- A text is kept as it is. -/
  written?_text (content : String) :
    validator.written? .text (.text content) = some (.text content)
  /-- The values of a dictionary are validated one by one, and kept under their keys. -/
  written?_dictionary (shape : Shape) (entries : Table String Tree) :
    validator.written? (.dictionary shape) (.mapping entries) =
      (entries.mapM fun entry => (validator.written? shape entry.2).map (entry.1, ·)).map .mapping
  /-- What is wrong in a dictionary is reported entry by entry, under the keys. -/
  violations_dictionary (shape : Shape) (entries : Table String Tree) :
    validator.violations (.dictionary shape) (.mapping entries) =
      entries.flatMap fun entry =>
        (validator.violations shape entry.2).map (.under (.key entry.1))
  /-- The items of a list are validated one by one, and kept in their order. -/
  written?_list (item : Shape) (items : List Tree) :
    validator.written? (.list item) (.sequence items) =
      (items.mapM (validator.written? item)).map .sequence
  /-- What is wrong in a list is reported item by item, under the positions. -/
  violations_list (item : Shape) (items : List Tree) :
    validator.violations (.list item) (.sequence items) =
      items.zipIdx.flatMap fun entry =>
        (validator.violations item entry.1).map (.under (.index entry.2))
  /-- The fields of a record are validated one by one, and those that are missing have their
  defaults. -/
  written?_record (name : String) (fields : Fields) (entries : Table String Tree) :
    validator.written? (.record name fields) (.mapping entries) =
      (fields.mapM fun field =>
        (validator.writtenField? field.2 (Table.get? entries field.1)).map
          (field.1, ·)).map .mapping
  /-- What is wrong in a record is reported field by field, as the fields are declared, and nothing
  is reported of a field that is missing. -/
  violations_record (name : String) (fields : Fields) (entries : Table String Tree) :
    validator.violations (.record name fields) (.mapping entries) =
      fields.flatMap fun field =>
        (Table.get? entries field.1).elim [] fun value =>
          (validator.violations field.2.shape value).map (.under (.key field.1))

end Validator

namespace Record

variable {α : Type} [Record α] [validator : Validator]

/-- Reads a value as a record by the shape that is declared for it, or tells what is wrong with the
value. -/
def validate (tree : Tree) : Except Invalid α :=
  match validator.validate (shape α) tree with
  | .ok object => .ok (ofTree (validator.dump object))
  | .error violations => .error ⟨name α, violations⟩

end Record

end HostOverlay.Schema
