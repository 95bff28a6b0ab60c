import HostOverlay.Schema.Strict
import HostOverlay.Proofs.Validation.Models

/-!
# The strict validator keeps the specification

The strict validator collects what is wrong with a value by recursion on the shape, and makes its
objects by another recursion. It is told here one value at a time what either comes to, and it is
what `Validator.Spec` asks for (`Validator.strict_spec`).
-/

namespace HostOverlay.Schema

namespace Shape

/-- Of a value of the wrong kind only that is collected. -/
theorem collect_of_fault {shape : Shape} {tree : Tree} {fault : Fault}
    (h : shape.fault? tree = some fault) : shape.collect tree = [⟨[], fault⟩] := by
  unfold fault? at h
  split at h <;> simp_all [collect, fault?]

/-- What is collected of the fields of a record is collected field by field. -/
theorem collectFields_eq (fields : Fields) (entries : Table String Tree) :
    collectFields fields entries = fields.flatMap fun field =>
      (Table.get? entries field.1).elim [] fun value =>
        (field.2.shape.collect value).map (.under (.key field.1)) := by
  induction fields with
  | nil => rfl
  | cons field rest ih =>
    rw [collectFields, ih, List.flatMap_cons]
    cases Table.get? entries field.1 <;> rfl

end Shape

namespace Validator

/-- The strict validator makes a complete object of a value of which nothing is collected. -/
theorem validate_strict (shape : Shape) (tree : Tree) :
    strict.validate shape tree =
      if shape.collect tree = [] then .ok (shape.complete tree)
      else .error (shape.collect tree) := by
  cases h : shape.collect tree <;> simp [validate, h]

/-- The strict validator reports what it collects. -/
theorem violations_strict (shape : Shape) (tree : Tree) :
    strict.violations shape tree = shape.collect tree := by
  rw [violations, validate_strict]
  by_cases h : shape.collect tree = [] <;> simp [h]

/-- The objects of the strict validator are written as they are. -/
theorem written?_strict (shape : Shape) (tree : Tree) :
    strict.written? shape tree =
      if shape.collect tree = [] then some (shape.complete tree) else none := by
  rw [written?, validate_strict]
  by_cases h : shape.collect tree = []
  · rw [if_pos h, if_pos h]
    rfl
  · rw [if_neg h, if_neg h]

/-- What is read of each item under a condition is read of all if the condition holds of all. -/
theorem mapM_ite {α β : Type} (p : α → Prop) [DecidablePred p] (f : α → β) (l : List α) :
    (l.mapM fun a => if p a then some (f a) else none) =
      if ∀ a ∈ l, p a then some (l.map f) else none := by
  induction l with
  | nil => simp
  | cons a rest ih =>
    rw [List.mapM_cons, ih]
    by_cases ha : p a
    · by_cases hrest : ∀ b ∈ rest, p b
      · rw [if_pos ha, if_pos hrest, if_pos (List.forall_mem_cons.mpr ⟨ha, hrest⟩)]
        rfl
      · rw [if_neg hrest, if_neg fun h => hrest (List.forall_mem_cons.mp h).2]
        simp
    · simp [ha]

/-- The fields of a record are read if nothing is collected of them. -/
theorem mapM_writtenField?_strict (fields : Fields) (entries : Table String Tree) :
    (fields.mapM fun field =>
        (strict.writtenField? field.2 (Table.get? entries field.1)).map (field.1, ·)) =
      if Shape.collectFields fields entries = [] then
        some (Shape.completeFields fields entries) else none := by
  induction fields with
  | nil => rfl
  | cons field rest ih =>
    obtain ⟨name, field⟩ := field
    rw [List.mapM_cons, ih, Shape.collectFields, Shape.completeFields]
    cases hv : Table.get? entries name with
    | none => by_cases hrest : Shape.collectFields rest entries = [] <;> simp [writtenField?, hrest]
    | some value =>
      by_cases hvalue : field.shape.collect value = []
      · by_cases hrest : Shape.collectFields rest entries = [] <;>
          simp [writtenField?, written?_strict, hvalue, hrest]
      · simp [writtenField?, written?_strict, hvalue]

/-- The strict validator does what is documented of validators. -/
theorem strict_spec : strict.Spec where
  ne_nil_of_validate_eq_error {shape tree violations} h := by
    rw [validate_strict] at h
    split at h
    · simp at h
    · exact Except.error.inj h ▸ ‹_›
  validate_of_fault h := by simp [validate_strict, Shape.collect_of_fault h]
  written?_anything tree := by cases tree <;> rfl
  written?_text content := rfl
  written?_dictionary shape entries := by
    have hentry (entry : String × Tree) :
        (strict.written? shape entry.2).map (entry.1, ·) =
          if shape.collect entry.2 = [] then some (entry.1, shape.complete entry.2) else none := by
      rw [written?_strict]
      split <;> rfl
    rw [written?_strict, Shape.collect, Shape.complete]
    simp only [hentry, mapM_ite, List.flatMap_eq_nil_iff, List.map_eq_nil_iff]
    split <;> rfl
  violations_dictionary shape entries := by simp only [violations_strict, Shape.collect]
  written?_list item items := by
    have hread := mapM_ite (item.collect · = []) item.complete items
    simp only [← written?_strict] at hread
    rw [hread, written?_strict, Shape.collect, Shape.complete]
    simp only [List.flatMap_eq_nil_iff, List.map_eq_nil_iff,
      Shape.forall_mem_zipIdx_iff items (item.collect · = [])]
    split <;> rfl
  violations_list item items := by simp only [violations_strict, Shape.collect]
  written?_record name fields entries := by
    rw [mapM_writtenField?_strict, written?_strict, Shape.collect, Shape.complete]
    split <;> rfl
  violations_record name fields entries := by
    simp only [violations_strict, Shape.collect, Shape.collectFields_eq]

end Validator

end HostOverlay.Schema
