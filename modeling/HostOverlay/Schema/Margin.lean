import HostOverlay.Misfit

/-!
# Margins

A record that was read holds a value for each of its fields and nothing else. But a private name
may be assigned any value, and everything that a record holds may be replaced at once, by a
dictionary that need not name all the fields. The margin of a record says which fields it does not
hold, and what it holds under names that are no fields. Nothing is ever shown of a margin; it only
decides whether a field can be read and whether a name can be assigned.
-/

namespace HostOverlay.Schema

/-- What a record holds besides its fields, and which of them it does not hold. -/
structure Margin where
  /-- The fields for which the record holds no value. -/
  absent : List String := []
  /-- What the record holds under names that are no fields. -/
  loose : Table String Tree := []
deriving Inhabited

namespace Margin

/-- The name under which a record notes the fields that were assigned. -/
def noteName : String := "__pydantic_fields_set__"

/-- The name under which a record holds values for fields that it does not hold itself. -/
def spareName : String := "__pydantic_extra__"

/-- The names that keep what they hold when everything else is replaced. -/
def lastingNames : List String := [noteName, spareName, "__pydantic_private__"]

/-- The name under which a record finds how a name is assigned. -/
def assignerName : String := "_setattr_handler"

/-- The name under which a record finds how the names are assigned that it knows already. -/
def assignersName : String := "__pydantic_setattr_handlers__"

/-- Whether a record holds all its fields and nothing else. -/
def isClear (margin : Margin) : Bool := margin.absent.isEmpty && margin.loose.isEmpty

/-- What a record holds under a name that is no field. -/
def get? (margin : Margin) (name : String) : Option Tree := Table.get? margin.loose name

/-- Puts a value under a name that is no field. -/
def put (margin : Margin) (name : String) (value : Tree) : Margin :=
  { margin with loose := Table.put name value margin.loose }

/-- The values for fields that the record does not hold itself. -/
def spare (margin : Margin) : Tree := (margin.get? spareName).getD .null

/-- Why a field cannot be read from the record of the given name. A field that the record does not
hold is looked for among the spare values, if there are any. -/
def lack? (margin : Margin) (record field : String) : Option Misfit :=
  if field ∈ margin.absent then
    if margin.spare.isVoid then some (.noMember (.record record) field)
    else
      match margin.spare with
      | .mapping entries =>
        if (Table.get? entries field).isSome then none else some (.notSpare record field)
      | .text _ => some (.notTextPosition .text)
      | .sequence _ => some (.notPosition .text)
      | spare => some (.notIndexed spare.kind)
  else none

/-- Why a name cannot be assigned at all: what the record holds in place of its own means of
assignment is of no use. Its own means know the names of the fields already. -/
def assignerMisfit? (margin : Margin) (name : String) (isField : Bool) : Option Misfit :=
  let unknown := (margin.get? assignerName).map fun assigner => .notCallable assigner.kind
  match margin.get? assignersName with
  | none => if isField then none else unknown
  | some (.mapping known) =>
    match Table.get? known name with
    | none | some .null => unknown
    | some assigner => some (.notCallable assigner.kind)
  | some assigners => some (.noMember assigners.kind "get")

/-- Why the assignment of a field cannot be noted: what took the place of the notes takes none. -/
def noteMisfit? (margin : Margin) : Option Misfit :=
  (margin.get? noteName).map fun notes => .noMember notes.kind "add"

/-- The margin of a record after a field is assigned. -/
def supply (margin : Margin) (field : String) : Margin :=
  { margin with absent := margin.absent.filter (· != field) }

/-- The margin of a record with the given fields after all that it holds is replaced. -/
def replace (margin : Margin) (fields : List String) (entries : Table String Tree) : Margin where
  absent := fields.filter fun field => (Table.get? entries field).isNone
  loose :=
    margin.loose.filter (fun entry => lastingNames.contains entry.1)
      ++ entries.filter fun entry => !(fields ++ lastingNames).contains entry.1

/-- A clear margin lacks no field. -/
theorem lack?_eq_none {margin : Margin} (h : margin.isClear = true) (record field : String) :
    margin.lack? record field = none := by
  simp only [isClear, Bool.and_eq_true, List.isEmpty_iff] at h
  simp [lack?, h.1]

end Margin

end HostOverlay.Schema
