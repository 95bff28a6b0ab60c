import HostOverlay.Proofs.Validation.Paths
import HostOverlay.Schema.Validator
import Mathlib.Data.List.Basic

/-!
# What a validator reports of a value

Which values have a shape is told here by the values directly inside them (`Shape.fits_iff`), and so
is what a validator reports: `Validator.Spec.violations_eq` splits it into what is wrong with the
value itself and what is wrong inside, whatever the value is. So nothing is reported exactly of the
values that have the shape (`Validator.Spec.violations_eq_nil_iff`), and a violation at the end of a
path exactly where the value at its end is not of the kind that is asked for there
(`Validator.Spec.mem_violations_iff`).
-/

namespace HostOverlay

open Schema

/-- A value directly inside another. -/
structure Schema.Inner where
  /-- The step that leads to the value. -/
  step : Step
  /-- The shape that is asked of the value. -/
  shape : Shape
  /-- The value. -/
  value : Tree

namespace Schema.Shape

/-- The values directly inside a value of which something is asked, as the shape or the value lists
them. -/
def inner : Shape → Tree → List Inner
  | dictionary value, .mapping entries =>
    entries.map fun entry => ⟨.key entry.1, value, entry.2⟩
  | list item, .sequence items => items.zipIdx.map fun entry => ⟨.index entry.2, item, entry.1⟩
  | record _ fields, .mapping entries =>
    fields.filterMap fun field =>
      (Table.get? entries field.1).map fun value => ⟨.key field.1, field.2.shape, value⟩
  | _, _ => []

/-- The shapes that are asked of what is inside a value. -/
def parts : Shape → List Shape
  | dictionary value => [value]
  | list item => [item]
  | record _ fields => fields.map fun field => field.2.shape
  | anything | text => []

/-- The parts of a shape are smaller than the shape. -/
theorem sizeOf_lt_of_mem_parts {shape part : Shape} (h : part ∈ shape.parts) :
    sizeOf part < sizeOf shape := by
  cases shape with
  | anything => simp [parts] at h
  | text => simp [parts] at h
  | dictionary value => simp [List.mem_singleton.mp h]
  | list item => simp [List.mem_singleton.mp h]
  | record name fields =>
    obtain ⟨⟨key, shape, default⟩, hf, rfl⟩ := List.mem_map.mp h
    have hlt := List.sizeOf_lt_of_mem hf
    simp only [Prod.mk.sizeOf_spec, Slot.mk.sizeOf_spec] at hlt
    simp only [record.sizeOf_spec]
    omega

/-- Induction over the parts of a shape: what holds of a shape if it holds of its parts holds of
every shape. -/
theorem partInduction {motive : Shape → Prop}
    (h : ∀ shape, (∀ part ∈ shape.parts, motive part) → motive shape) (shape : Shape) :
    motive shape :=
  h shape fun part hp =>
    have := sizeOf_lt_of_mem_parts hp
    partInduction h part
termination_by sizeOf shape

/-- What is asked of a value directly inside another is part of what is asked of the other. -/
theorem shape_mem_parts {shape : Shape} {tree : Tree} {part : Inner}
    (h : part ∈ shape.inner tree) : part.shape ∈ shape.parts := by
  unfold inner at h
  split at h
  · obtain ⟨entry, -, rfl⟩ := List.mem_map.mp h
    exact List.mem_singleton_self _
  · obtain ⟨entry, -, rfl⟩ := List.mem_map.mp h
    exact List.mem_singleton_self _
  · obtain ⟨field, hf, hp⟩ := List.mem_filterMap.mp h
    obtain ⟨value, -, rfl⟩ := Option.map_eq_some_iff.mp hp
    exact List.mem_map_of_mem hf
  · simp at h

/-- Induction over the values inside a value: what holds of a value if it holds of those directly
inside it holds of every value. -/
theorem innerInduction {motive : Shape → Tree → Prop}
    (h : ∀ shape tree, (∀ part ∈ shape.inner tree, motive part.shape part.value) →
      motive shape tree) (shape : Shape) (tree : Tree) : motive shape tree := by
  induction shape using partInduction generalizing tree with
  | h shape ih => exact h shape tree fun part hp => ih part.shape (shape_mem_parts hp) part.value

/-- Nothing is asked of what is inside a value that is not of the kind that is asked for. -/
theorem inner_eq_nil {shape : Shape} {tree : Tree} {fault : Fault}
    (h : shape.fault? tree = some fault) : shape.inner tree = [] := by
  unfold fault? at h
  unfold inner
  split at h <;> simp_all

/-- What holds of the items of a list holds of them in whatever place they stand. -/
theorem forall_mem_zipIdx_iff {α : Type} (l : List α) (p : α → Prop) :
    (∀ entry ∈ l.zipIdx, p entry.1) ↔ ∀ a ∈ l, p a := by
  rw [← List.forall_mem_map, List.zipIdx_map_fst]

/-- A value has a shape if it is of the kind that is asked for and the values directly inside it
have theirs. -/
theorem fits_iff {shape : Shape} {tree : Tree} :
    shape.fits tree = true ↔ shape.fault? tree = none ∧
      ∀ part ∈ shape.inner tree, part.shape.fits part.value = true := by
  cases shape with
  | anything => simp [fits, fault?, inner]
  | text => cases tree <;> simp [fits, fault?, inner]
  | dictionary value =>
    cases tree with
    | mapping entries =>
      simp only [fits, fault?, inner, List.forall_mem_map, List.all_eq_true, true_and]
    | _ => simp [fits, fault?]
  | list item =>
    cases tree with
    | sequence items =>
      simp only [fits, fault?, inner, List.forall_mem_map, List.all_eq_true, true_and]
      exact (forall_mem_zipIdx_iff items fun value => item.fits value = true).symm
    | _ => simp [fits, fault?]
  | record name fields =>
    cases tree with
    | mapping entries =>
      rw [fits, fieldsFit_iff]
      simp only [fault?, inner, true_and, List.forall_mem_filterMap, Option.map_eq_some_iff]
      refine forall₂_congr fun field _ => ⟨?_, fun h value hv => h _ ⟨value, hv, rfl⟩⟩
      rintro h part ⟨value, hv, rfl⟩
      exact h value hv
    | _ => simp [fits, fault?]

/-- Where keys are different, the values directly inside a dictionary are told by their keys. -/
theorem mem_inner_dictionary_iff {shape : Shape} {entries : Table String Tree}
    (hd : (Table.keys entries).Nodup) {step : Step} {wanted : Shape} {value : Tree} :
    ⟨step, wanted, value⟩ ∈ (dictionary shape).inner (.mapping entries) ↔
      (dictionary shape).step? step = some wanted ∧
        (Tree.mapping entries).step? step = some value := by
  cases step with
  | key name =>
    have hread : (Tree.mapping entries).step? (.key name) = Table.get? entries name := rfl
    rw [hread, ← Table.mem_iff_get?_eq_some hd]
    simp only [inner, Shape.step?, List.mem_map, Inner.mk.injEq, Step.key.injEq,
      Option.some.injEq]
    constructor
    · rintro ⟨entry, he, rfl, rfl, rfl⟩
      exact ⟨rfl, he⟩
    · rintro ⟨rfl, he⟩
      exact ⟨_, he, rfl, rfl, rfl⟩
  | index position => simp [inner, Shape.step?]

/-- The values directly inside a list are told by their positions. -/
theorem mem_inner_list_iff {item : Shape} {items : List Tree} {step : Step} {wanted : Shape}
    {value : Tree} :
    ⟨step, wanted, value⟩ ∈ (list item).inner (.sequence items) ↔
      (list item).step? step = some wanted ∧ (Tree.sequence items).step? step = some value := by
  cases step with
  | key name => simp [inner, Shape.step?]
  | index position =>
    have hread : (Tree.sequence items).step? (.index position) = items[position]? := rfl
    rw [hread]
    simp only [inner, Shape.step?, List.mem_map, List.mem_zipIdx_iff_getElem?, Inner.mk.injEq,
      Step.index.injEq, Option.some.injEq]
    constructor
    · rintro ⟨entry, he, rfl, rfl, rfl⟩
      exact ⟨rfl, he⟩
    · rintro ⟨rfl, he⟩
      exact ⟨(value, position), he, rfl, rfl, rfl⟩

/-- Where the names of fields are different, the values directly inside a record are told by the
names of their fields. -/
theorem mem_inner_record_iff {name : String} {fields : Fields} (hd : (Table.keys fields).Nodup)
    {entries : Table String Tree} {step : Step} {wanted : Shape} {value : Tree} :
    ⟨step, wanted, value⟩ ∈ (record name fields).inner (.mapping entries) ↔
      (record name fields).step? step = some wanted ∧
        (Tree.mapping entries).step? step = some value := by
  cases step with
  | key key =>
    have hread : (Tree.mapping entries).step? (.key key) = Table.get? entries key := rfl
    have hfield : (record name fields).step? (.key key) =
      (Table.get? fields key).map Slot.shape := rfl
    rw [hread, hfield, Option.map_eq_some_iff]
    simp only [inner, List.mem_filterMap, Option.map_eq_some_iff, Inner.mk.injEq, Step.key.injEq]
    constructor
    · rintro ⟨field, hf, held, hv, rfl, rfl, rfl⟩
      exact ⟨⟨field.2, Table.get?_of_mem hd hf, rfl⟩, hv⟩
    · rintro ⟨⟨field, hf, rfl⟩, hv⟩
      exact ⟨(key, field), Table.mem_of_get?_eq_some hf, value, hv, rfl, rfl, rfl⟩
  | index position => simp [inner, Shape.step?]

/-- Where the names of fields and the keys of mappings are different, the values directly inside a
value are told by the steps that lead to them. -/
theorem mem_inner_iff {shape : Shape} (hs : shape.hasDistinctFields = true) {tree : Tree}
    (ht : tree.hasDistinctKeys = true) {part : Inner} :
    part ∈ shape.inner tree ↔
      shape.step? part.step = some part.shape ∧ tree.step? part.step = some part.value := by
  obtain ⟨step, wanted, value⟩ := part
  -- Nothing is inside a value of another kind than the shape asks for, and no step leads there.
  cases shape with
  | anything => simp [inner, Shape.step?]
  | text => simp [inner, Shape.step?]
  | dictionary shape =>
    cases tree with
    | mapping entries => exact mem_inner_dictionary_iff (Tree.nodup_keys_of_hasDistinctKeys ht)
    | _ => cases step <;> simp [inner, Shape.step?, Tree.step?, Tree.get?, Tree.entries?]
  | list item =>
    cases tree with
    | sequence items => exact mem_inner_list_iff
    | _ => cases step <;> simp [inner, Shape.step?, Tree.step?, Tree.items?]
  | record name fields =>
    cases tree with
    | mapping entries => exact mem_inner_record_iff (nodup_keys_of_hasDistinctFields hs)
    | _ => cases step <;> simp [inner, Shape.step?, Tree.step?, Tree.get?, Tree.entries?]

end Schema.Shape

namespace Schema.Validator

variable {validator : Validator}

/-- Nothing is reported of a value of which an object is made. -/
theorem violations_eq_nil_of_written? {shape : Shape} {tree written : Tree}
    (h : validator.written? shape tree = some written) : validator.violations shape tree = [] := by
  unfold written? at h
  unfold violations
  split at h
  · simp [*]
  · simp at h

namespace Spec

/-- What is reported of a value that cannot be what is asked for, whatever is inside it. -/
theorem violations_of_fault (spec : validator.Spec) {shape : Shape} {tree : Tree} {fault : Fault}
    (h : shape.fault? tree = some fault) : validator.violations shape tree = [⟨[], fault⟩] := by
  rw [violations, spec.validate_of_fault h]

/-- What is reported of a value that is of the kind that is asked for is what is wrong inside. -/
theorem violations_of_fault?_eq_none (spec : validator.Spec) {shape : Shape} {tree : Tree}
    (h : shape.fault? tree = none) :
    validator.violations shape tree = (shape.inner tree).flatMap fun part =>
      (validator.violations part.shape part.value).map (.under part.step) := by
  unfold Shape.fault? at h
  split at h
  · exact violations_eq_nil_of_written? (spec.written?_anything _)
  · exact violations_eq_nil_of_written? (spec.written?_text _)
  · simp at h
  · rw [spec.violations_dictionary, Shape.inner, List.flatMap_map]
  · simp at h
  · rw [spec.violations_list, Shape.inner, List.flatMap_map]
  · simp at h
  · rename_i name fields entries
    rw [spec.violations_record, Shape.inner, List.filterMap_eq_flatMap_toList, List.flatMap_assoc]
    congr
    funext field
    cases Table.get? entries field.1 <;> simp
  · simp at h

/-- What is reported of a value is what is wrong with the value itself, and what is wrong with the
values directly inside it. -/
theorem violations_eq (spec : validator.Spec) (shape : Shape) (tree : Tree) :
    validator.violations shape tree = (shape.fault? tree).toList.map (⟨[], ·⟩) ++
      (shape.inner tree).flatMap fun part =>
        (validator.violations part.shape part.value).map (.under part.step) := by
  cases h : shape.fault? tree with
  | none => exact spec.violations_of_fault?_eq_none h
  | some fault => simp [spec.violations_of_fault h, Shape.inner_eq_nil h]

/-- Nothing is reported exactly of the values that have the shape. -/
theorem violations_eq_nil_iff (spec : validator.Spec) (shape : Shape) (tree : Tree) :
    validator.violations shape tree = [] ↔ shape.fits tree = true := by
  induction shape, tree using Shape.innerInduction with
  | h shape tree ih =>
    rw [spec.violations_eq, Shape.fits_iff, List.append_eq_nil_iff, List.map_eq_nil_iff,
      Option.toList_eq_nil_iff, List.flatMap_eq_nil_iff]
    simp only [List.map_eq_nil_iff]
    exact and_congr_right fun _ => forall₂_congr ih

/-- There is an object exactly of the values that have the shape. -/
theorem exists_validate_eq_ok_iff (spec : validator.Spec) (shape : Shape) (tree : Tree) :
    (∃ object, validator.validate shape tree = .ok object) ↔ shape.fits tree = true := by
  rw [← spec.violations_eq_nil_iff, violations]
  cases h : validator.validate shape tree with
  | ok object => simp
  | error violations => simpa using spec.ne_nil_of_validate_eq_error h

/-- What is reported of a value is what the validator refuses it for, if there is anything. -/
theorem validate_eq_error_iff (spec : validator.Spec) {shape : Shape} {tree : Tree}
    {violations : List Violation} :
    validator.validate shape tree = .error violations ↔
      violations ≠ [] ∧ validator.violations shape tree = violations := by
  rw [Validator.violations]
  cases h : validator.validate shape tree with
  | ok object => simp +contextual [eq_comm]
  | error found => 
    have hne := spec.ne_nil_of_validate_eq_error h
    constructor
    · rintro ⟨rfl⟩
      exact ⟨hne, rfl⟩
    · rintro ⟨-, rfl⟩
      rfl

/-- A fault is reported at the end of a path exactly where something is asked of the value at its
end, and this value itself has the fault. -/
theorem mem_violations_iff (spec : validator.Spec) {shape : Shape}
    (hs : shape.hasDistinctFields = true) {tree : Tree} (ht : tree.hasDistinctKeys = true)
    {path : List Step} {fault : Fault} :
    ⟨path, fault⟩ ∈ validator.violations shape tree ↔
      ∃ wanted value, shape.follow? path = some wanted ∧ tree.follow? path = some value ∧
        wanted.fault? value = some fault := by
  induction path generalizing shape tree with
  | nil =>
    rw [spec.violations_eq, List.mem_append]
    simp [Shape.follow?, Tree.follow?, Violation.under]
  | cons step path ih =>
    -- Only what is reported of the value to which the first step leads has a path beyond that step.
    have hsplit : ⟨step :: path, fault⟩ ∈ validator.violations shape tree ↔
        ∃ part ∈ shape.inner tree, part.step = step ∧
          ⟨path, fault⟩ ∈ validator.violations part.shape part.value := by
      rw [spec.violations_eq, List.mem_append, List.mem_flatMap]
      simp only [List.mem_map, Violation.under, Violation.mk.injEq, List.cons.injEq, reduceCtorEq,
        false_and, and_false, exists_false, false_or]
      constructor
      · rintro ⟨part, hp, ⟨path', fault'⟩, hv, ⟨rfl, rfl⟩, rfl⟩
        exact ⟨part, hp, rfl, hv⟩
      · rintro ⟨part, hp, rfl, hv⟩
        exact ⟨part, hp, _, hv, ⟨rfl, rfl⟩, rfl⟩
    rw [hsplit]
    constructor
    · rintro ⟨part, hp, rfl, hv⟩
      obtain ⟨hws, hwt⟩ := (Shape.mem_inner_iff hs ht).mp hp
      have hfound := ih (Shape.hasDistinctFields_of_step? hs hws)
        (Tree.hasDistinctKeys_of_step? ht hwt)
      simpa [Shape.follow?, Tree.follow?, hws, hwt] using hfound.mp hv
    · rintro ⟨wanted, value, hfs, hft, hfault⟩
      obtain ⟨inner, hws, hfs⟩ := Option.bind_eq_some_iff.mp hfs
      obtain ⟨held, hwt, hft⟩ := Option.bind_eq_some_iff.mp hft
      have hfound := ih (Shape.hasDistinctFields_of_step? hs hws)
        (Tree.hasDistinctKeys_of_step? ht hwt)
      exact ⟨⟨step, inner, held⟩, (Shape.mem_inner_iff hs ht).mpr ⟨hws, hwt⟩, rfl,
        hfound.mpr ⟨wanted, value, hfs, hft, hfault⟩⟩

end Spec

end Schema.Validator

end HostOverlay
