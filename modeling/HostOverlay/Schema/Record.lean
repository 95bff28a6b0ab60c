import HostOverlay.Failure
import HostOverlay.Kind.Attributes
import HostOverlay.Schema.Margin
import HostOverlay.Schema.Shape

/-!
# Records

A record type declares its fields, and a record is the values of these fields. It can be told as the
mapping of its fields and made of one, where a field that the mapping does not hold takes its
default. `assign` replaces one field by its written name and asks for nothing, so after it the field
may hold a value of any shape. It can also replace everything that a record holds; fields that the
record then lacks cannot be read, and a record that lacks one cannot be shown.
-/

namespace HostOverlay.Schema

/-- Types of records with declared fields. -/
class Record (α : Type) where
  /-- The name of the record. -/
  name : String
  /-- The fields in their declared order. -/
  fields : Fields
  /-- The record whose fields a tree holds, with defaults in place of what it does not hold. -/
  ofTree : Tree → α
  /-- The mapping of all the fields. -/
  toTree : α → Tree
  /-- The record with a value in the field of the given written name, if it has such a field. -/
  assign? : α → String → Tree → Option α
  /-- What the record holds besides its fields. -/
  margin : α → Margin
  /-- The record with another margin. -/
  withMargin : α → Margin → α

/-- Why a tree is no record: the record's name and everything that is wrong with the tree. -/
structure Invalid where
  /-- The name of the record. -/
  title : String
  /-- The places where the tree departs from the record's shape. -/
  violations : List Violation
deriving DecidableEq, Repr

/-- Whether a field of this name would be private: such a field belongs to whoever assigns it and
is no part of the record. -/
def isPrivate (field : String) : Bool := field.toList.head? == some '_'

/-- The properties that every record computes. -/
def computedProperties : List String :=
  ["__fields__", "__fields_set__", "model_extra", "model_fields_set"]

/-- The name under which everything that a record holds is assigned at once. -/
def contentsName : String := "__dict__"

/-- The name of what every record knows of those that refer to it. -/
def referrersName : String := "__weakref__"

/-- Why something that belongs to every record and is no field of it cannot be assigned a value. -/
def propertyMisfit? (record property : String) (value : Tree) : Option Misfit :=
  if property = Kind.classAttribute then some (.notClass value.kind)
  else if property ∈ computedProperties then some (.computedProperty record property)
  else if property = referrersName then some (.computed (.record record) property)
  else if property = contentsName ∧ value.kind ≠ .dictionary then some (.notFields value.kind)
  else none

namespace Record

variable {α : Type} [Record α]

/-- The shape that is declared for the record. -/
def shape (α : Type) [Record α] : Shape := .record (name α) (fields α)

/-- The written names of the fields. -/
def fieldNames (α : Type) [Record α] : List String := (fields α).map Prod.fst

/-- Whether a record holds all its fields and nothing else, and they have the shapes that they are
declared with. -/
def isValid (record : α) : Bool :=
  (margin record).isClear && (shape α).fits (toTree record)

/-- Why a field of a record cannot be read. -/
def lack? (record : α) (field : String) : Option Misfit := (margin record).lack? (name α) field

/-- Why a record cannot be shown: the first of its fields that cannot be read. -/
def gap? (record : α) : Option Misfit := (fieldNames α).findSome? (lack? record)

/-- The value of a field, which the record may lack. -/
def read (record : α) (field : String) : Except Misfit Tree :=
  match lack? record field with
  | some cause => .error cause
  | none => .ok ((toTree record).getD field .null)

/-- Fills in the fields for which there are spare values and no others. -/
def fill (record : α) : α :=
  (margin record).absent.foldl
    (fun record field =>
      (((margin record).spare.get? field).bind (assign? record field)).getD record)
    record

/-- Replaces everything that a record holds. -/
def replace (record : α) (entries : Table String Tree) : α :=
  let fresh := entries.foldl
    (fun record entry => (assign? record entry.1 entry.2).getD record) (ofTree .emptyMapping)
  fill (withMargin fresh ((margin record).replace (fieldNames α) entries))

/-- The record after something is assigned that is no field and belongs to whoever assigns it. -/
def assignPrivate (record : α) (name : String) (value : Tree) : α :=
  if name = contentsName then replace record value.entriesOrNone
  else fill (withMargin record ((margin record).put name value))

/-- Assigns a value to what has the given written name. Gives the record afterwards, and why the
assignment failed, if it did; a field may be assigned all the same. -/
def assign (record : α) (name : String) (value : Tree) : α × Option Misfit :=
  match (margin record).assignerMisfit? name ((fieldNames α).contains name),
    assign? record name value with
  | some cause, _ => (record, some cause)
  | none, some assigned =>
    (withMargin assigned ((margin record).supply name), (margin record).noteMisfit?)
  | none, none =>
    match propertyMisfit? (Record.name α) name value with
    | some cause => (record, some cause)
    | none =>
      if isPrivate name then (assignPrivate record name value, none)
      else (record, some (.noField (Record.name α) name))

/-- Assigns a value to what a value names, which has to be a text. -/
def assignNamed (record : α) (name value : Tree) : α × Option Misfit :=
  match name with
  | .text name => assign record name value
  | _ => (record, some (.notName name.kind))

/-- A valid record lacks no field. -/
theorem lack?_eq_none {record : α} (h : isValid record = true) (field : String) :
    lack? record field = none := by
  simp only [isValid, Bool.and_eq_true] at h
  exact Margin.lack?_eq_none h.1 (name α) field

/-- A valid record has values of the declared shapes in its fields. -/
theorem fits_of_isValid {record : α} (h : isValid record = true) (name : String)
    {field : Slot Shape} (hf : Table.get? (fields α) name = some field) {value : Tree}
    (hv : (toTree record).get? name = some value) : field.shape.fits value = true := by
  obtain ⟨entries, he, hv⟩ := Option.bind_eq_some_iff.mp hv
  rw [isValid, Bool.and_eq_true] at h
  obtain ⟨held, hh, hfields⟩ := Shape.fits_record_iff.mp h.2
  rw [hh] at he
  obtain rfl : held = entries := Option.some.inj he
  exact hfields (name, field) (Table.mem_of_get?_eq_some hf) value hv

end Record

end HostOverlay.Schema
