import HostOverlay.Tree

/-!
# Shapes and their violations

A shape says what a configuration value has to be: a text, a dictionary or a list whose members
have a shape of their own, or a record with named fields. A field that is missing has its default
and violates nothing, and keys that no field names play no part. `fits` says which values have a
shape, and `fault?` what is wrong with a value itself, whatever is inside it.
-/

namespace HostOverlay.Schema

/-- How a field of a record is declared. -/
structure Slot (σ : Type) where
  /-- What the field has to be. -/
  shape : σ
  /-- What the field is if it is missing. -/
  default : Tree

/-- What a configuration value has to be. -/
inductive Shape where
  /-- Any value at all. -/
  | anything
  /-- A text. -/
  | text
  /-- A mapping whose values all have one shape. -/
  | dictionary (value : Shape)
  /-- A sequence whose items all have one shape. -/
  | list (item : Shape)
  /-- A mapping read as the record `name`, with the fields in their declared order. -/
  | record (name : String) (fields : List (String × Slot Shape))

/-- The fields of a record by their names, in the order in which they are declared. -/
abbrev Fields := Table String (Slot Shape)

namespace Slot

/-- A text, which is empty if it is missing. -/
def text : Slot Shape := ⟨.text, .emptyText⟩

/-- A dictionary, which is empty if it is missing. -/
def dictionary (value : Shape) : Slot Shape := ⟨.dictionary value, .emptyMapping⟩

/-- A list, which is empty if it is missing. -/
def list (item : Shape) : Slot Shape := ⟨.list item, .sequence []⟩

end Slot

/-- One step from a value to a value inside it. -/
inductive Step where
  /-- To the value under a key of a mapping. -/
  | key (name : String)
  /-- To the item at a position of a sequence. -/
  | index (position : Nat)
deriving DecidableEq, Repr

/-- What is wrong with a value. -/
inductive Fault where
  /-- A text was wanted. -/
  | notText
  /-- A dictionary was wanted. -/
  | notDictionary
  /-- A list was wanted. -/
  | notList
  /-- The record of this name was wanted. -/
  | notRecord (name : String)
  /-- The value has no field to go to. -/
  | unknownField
deriving DecidableEq, Repr

namespace Fault

/-- The short name of a fault. -/
def kind : Fault → String
  | notText => "string_type"
  | notDictionary => "dict_type"
  | notList => "list_type"
  | notRecord _ => "model_type"
  | unknownField => "extra_forbidden"

/-- The sentence that reports a fault. -/
def message : Fault → String
  | notText => "Input should be a valid string"
  | notDictionary => "Input should be a valid dictionary"
  | notList => "Input should be a valid list"
  | notRecord name => "Input should be a valid dictionary or instance of " ++ name
  | unknownField => "Extra inputs are not permitted"

end Fault

/-- A fault and the way to the value that has it. -/
structure Violation where
  /-- The steps from the checked value to the faulty one. -/
  path : List Step
  /-- What is wrong there. -/
  fault : Fault
deriving DecidableEq, Repr

/-- The same fault seen from a value one step further out. -/
def Violation.under (step : Step) (violation : Violation) : Violation :=
  { violation with path := step :: violation.path }

namespace Shape

mutual

/-- Whether a value has a shape. -/
def fits : Shape → Tree → Bool
  | anything, _ => true
  | text, .text _ => true
  | dictionary value, .mapping entries => entries.all fun entry => fits value entry.2
  | list item, .sequence items => items.all fun value => fits item value
  | record _ fields, .mapping entries => fieldsFit fields entries
  | _, _ => false

/-- Whether what a mapping holds under the names of fields has the shapes of the fields. -/
def fieldsFit : List (String × Slot Shape) → Table String Tree → Bool
  | [], _ => true
  | (name, field) :: rest, entries =>
    (match Table.get? entries name with
      | none => true
      | some value => fits field.shape value)
    && fieldsFit rest entries

end

/-- What is wrong with a value itself, whatever is inside it. -/
def fault? : Shape → Tree → Option Fault
  | anything, _ => none
  | text, .text _ => none
  | text, _ => some .notText
  | dictionary _, .mapping _ => none
  | dictionary _, _ => some .notDictionary
  | list _, .sequence _ => none
  | list _, _ => some .notList
  | record .., .mapping _ => none
  | record name _, _ => some (.notRecord name)

/-- A mapping fits the fields of a record exactly if what it holds under their names has their
shapes. -/
theorem fieldsFit_iff {fields : Fields} {entries : Table String Tree} :
    fieldsFit fields entries = true ↔ ∀ field ∈ fields, ∀ value,
      Table.get? entries field.1 = some value → field.2.shape.fits value = true := by
  induction fields with
  | nil => simp [fieldsFit]
  | cons first rest ih =>
    obtain ⟨name, first⟩ := first
    rw [fieldsFit, Bool.and_eq_true, ih, List.forall_mem_cons]
    cases Table.get? entries name <;> simp

/-- Only a text has the shape of a text. -/
theorem fits_text_iff {tree : Tree} :
    text.fits tree = true ↔ ∃ content, tree = .text content := by
  cases tree <;> simp [fits]

/-- Only a mapping has the shape of a dictionary, and its values have theirs. -/
theorem fits_dictionary_iff {value : Shape} {tree : Tree} :
    (dictionary value).fits tree = true ↔
      ∃ entries, tree = .mapping entries ∧ ∀ entry ∈ entries, value.fits entry.2 = true := by
  cases tree <;> simp [fits]

/-- Only a sequence has the shape of a list, and its items have theirs. -/
theorem fits_list_iff {item : Shape} {tree : Tree} :
    (list item).fits tree = true ↔
      ∃ items, tree = .sequence items ∧ ∀ value ∈ items, item.fits value = true := by
  cases tree <;> simp [fits]

/-- Only a mapping has the shape of a record, and what it holds under the names of fields has the
shapes of the fields. -/
theorem fits_record_iff {name : String} {fields : Fields} {tree : Tree} :
    (record name fields).fits tree = true ↔
      ∃ entries, tree = .mapping entries ∧ ∀ field ∈ fields, ∀ value,
        Table.get? entries field.1 = some value → field.2.shape.fits value = true := by
  cases tree <;> simp [fits, fieldsFit_iff]

end Shape

end HostOverlay.Schema
