import HostOverlay.Schema.Validator

/-!
# The strict validator

The validator with which the agent is run. It converts nothing and collects everything that is
wrong with a value, depth first. Its objects are values themselves, in which the fields of records
are complete and stand in their declared order.
-/

namespace HostOverlay.Schema

namespace Shape

mutual

/-- The places where a value departs from a shape. -/
def collect : Shape → Tree → List Violation
  | dictionary value, .mapping entries =>
    entries.flatMap fun entry => (collect value entry.2).map (.under (.key entry.1))
  | list item, .sequence items =>
    items.zipIdx.flatMap fun entry => (collect item entry.1).map (.under (.index entry.2))
  | record _ fields, .mapping entries => collectFields fields entries
  | shape, tree => (shape.fault? tree).toList.map (⟨[], ·⟩)

/-- The places where the entries of a mapping depart from the fields of a record. -/
def collectFields : List (String × Slot Shape) → Table String Tree → List Violation
  | [], _ => []
  | (name, field) :: rest, entries =>
    (match Table.get? entries name with
      | some value => (collect field.shape value).map (.under (.key name))
      | none => [])
    ++ collectFields rest entries

end

mutual

/-- A value with complete records and nothing else in them. -/
def complete : Shape → Tree → Tree
  | dictionary value, .mapping entries =>
    .mapping (entries.map fun entry => (entry.1, complete value entry.2))
  | list item, .sequence items => .sequence (items.map (complete item))
  | record _ fields, .mapping entries => .mapping (completeFields fields entries)
  | _, tree => tree

/-- The fields of a record, with their defaults where a mapping does not hold them. -/
def completeFields : List (String × Slot Shape) → Table String Tree → Table String Tree
  | [], _ => []
  | (name, field) :: rest, entries =>
    (name, match Table.get? entries name with
      | some value => complete field.shape value
      | none => field.default) :: completeFields rest entries

end

end Shape

/-- The strict validator. -/
instance Validator.strict : Validator where
  Object := Tree
  validate shape tree :=
    match shape.collect tree with
    | [] => .ok (shape.complete tree)
    | violations => .error violations
  dump := id

end HostOverlay.Schema
