import HostOverlay.Proofs.Validation.Models
import HostOverlay.Proofs.Validation.Strict

/-!
# What is reported of a value that is no record

A value offends if it does not have the shape that is asked of it, and it is a culprit if it offends
and no value inside it does: it is not even of the kind that is asked for. What a validator reports
of any value by any shape is what `Shape.Reports` says (`Validator.Spec.reports_violations`): the
culprits are reported, each once and with what is wrong with it, in the order in which the shape and
the value list them. So the fields of a record come as they are declared, and what a dictionary or a
list holds as it stands there, with everything inside one of these before the next.
-/

namespace HostOverlay

open Schema

namespace Schema.Shape

/-- Whether something is asked of the value at the end of a path that the value does not fit. -/
def Offends (shape : Shape) (tree : Tree) (path : List Step) : Prop :=
  ∃ wanted value, shape.follow? path = some wanted ∧ tree.follow? path = some value ∧
    wanted.fits value = false

/-- Whether the value at the end of a path offends and none inside it does. -/
def IsCulprit (shape : Shape) (tree : Tree) (path : List Step) : Prop :=
  shape.Offends tree path ∧ ∀ further ≠ [], ¬shape.Offends tree (path ++ further)

/-- Whether the value at the end of a path offends is told from any value that is passed. -/
theorem offends_append {shape wanted : Shape} {tree value : Tree} {path : List Step}
    (hs : shape.follow? path = some wanted) (ht : tree.follow? path = some value)
    (further : List Step) :
    shape.Offends tree (path ++ further) ↔ wanted.Offends value further := by
  simp [Offends, follow?_append, Tree.follow?_append, hs, ht]

/-- A value offends and none inside it does exactly if it is not of the kind that is asked for. -/
theorem isCulprit_nil_iff {shape : Shape} (hs : shape.hasDistinctFields = true) {tree : Tree}
    (ht : tree.hasDistinctKeys = true) :
    shape.IsCulprit tree [] ↔ ∃ fault, shape.fault? tree = some fault := by
  rw [← Option.ne_none_iff_exists']
  constructor
  · rintro ⟨⟨wanted, value, hws, hwt, hfit⟩, hinside⟩ hfault
    obtain rfl := Option.some.inj hws
    obtain rfl := Option.some.inj hwt
    -- What is directly inside the value has its shape, so the value has its own.
    refine Bool.eq_false_iff.mp hfit (fits_iff.mpr ⟨hfault, fun part hp => ?_⟩)
    by_contra hpart
    obtain ⟨hws, hwt⟩ := (mem_inner_iff hs ht).mp hp
    exact hinside [part.step] (List.cons_ne_nil _ _) ⟨part.shape, part.value,
      by simp [follow?, hws], by simp [Tree.follow?, hwt], Bool.eq_false_iff.mpr hpart⟩
  · intro hfault
    refine ⟨⟨shape, tree, rfl, rfl, Bool.eq_false_iff.mpr fun h => hfault (fits_iff.mp h).1⟩, ?_⟩
    rintro (_ | ⟨step, path⟩) hne ⟨wanted, value, hws, hwt, -⟩
    · exact hne rfl
    · -- Nothing is asked of what is inside a value of the wrong kind.
      obtain ⟨inner, hi, -⟩ := Option.bind_eq_some_iff.mp hws
      obtain ⟨held, hh, -⟩ := Option.bind_eq_some_iff.mp hwt
      have hm : (⟨step, inner, held⟩ : Inner) ∈ shape.inner tree :=
        (mem_inner_iff hs ht).mpr ⟨hi, hh⟩
      obtain ⟨fault, hf⟩ := Option.ne_none_iff_exists'.mp hfault
      simp [inner_eq_nil hf] at hm

/-- The culprits are the values that are not of the kind that is asked for. -/
theorem isCulprit_iff {shape : Shape} (hs : shape.hasDistinctFields = true) {tree : Tree}
    (ht : tree.hasDistinctKeys = true) {path : List Step} :
    shape.IsCulprit tree path ↔ ∃ fault wanted value, shape.follow? path = some wanted ∧
      tree.follow? path = some value ∧ wanted.fault? value = some fault := by
  -- A culprit is a culprit as seen from itself.
  have hself {wanted : Shape} {value : Tree} (hws : shape.follow? path = some wanted)
      (hwt : tree.follow? path = some value) :
      shape.IsCulprit tree path ↔ ∃ fault, wanted.fault? value = some fault := by
    rw [← isCulprit_nil_iff (hasDistinctFields_of_follow? hs hws)
      (Tree.hasDistinctKeys_of_follow? ht hwt)]
    have hpath := offends_append hws hwt []
    rw [List.append_nil] at hpath
    simp only [IsCulprit, List.nil_append, hpath, offends_append hws hwt]
  constructor
  · intro h
    obtain ⟨wanted, value, hws, hwt, -⟩ := h.1
    obtain ⟨fault, hfault⟩ := (hself hws hwt).mp h
    exact ⟨fault, wanted, value, hws, hwt, hfault⟩
  · rintro ⟨fault, wanted, value, hws, hwt, hfault⟩
    exact (hself hws hwt).mpr ⟨fault, hfault⟩

/-- The place of a value among those directly inside another: that of its field among the fields, or
that of its key or its position in the value. -/
def rank : Shape → Tree → Step → Nat
  | record _ fields, _, .key name => (Table.keys fields).idxOf name
  | dictionary _, .mapping entries, .key name => (Table.keys entries).idxOf name
  | list _, _, .index position => position
  | _, _, _ => 0

/-- Whether one path comes before another, at the first step in which they differ. -/
inductive Precedes : Shape → Tree → List Step → List Step → Prop
  /-- The paths differ in their first steps. -/
  | first {shape : Shape} {tree : Tree} {step step' : Step}
      (h : shape.rank tree step < shape.rank tree step') (path path' : List Step) :
      Precedes shape tree (step :: path) (step' :: path')
  /-- The paths share their first step and differ in a later one. -/
  | later {shape wanted : Shape} {tree value : Tree} {step : Step} {path path' : List Step}
      (hs : shape.step? step = some wanted) (ht : tree.step? step = some value)
      (h : Precedes wanted value path path') : Precedes shape tree (step :: path) (step :: path')

/-- A path that comes before another differs from it. -/
theorem Precedes.ne {shape : Shape} {tree : Tree} {path path' : List Step}
    (h : shape.Precedes tree path path') : path ≠ path' := by
  induction h with
  | first h path path' =>
    intro he
    rw [(List.cons.inj he).1] at h
    exact Nat.lt_irrefl _ h
  | later hs ht h ih => simpa using ih

/-- The keys of a table stand in it in the order of its entries. -/
theorem pairwise_idxOf_keys {α : Type} {table : Table String α} (h : (Table.keys table).Nodup) :
    table.Pairwise fun entry entry' =>
      (Table.keys table).idxOf entry.1 < (Table.keys table).idxOf entry'.1 := by
  rw [List.pairwise_iff_getElem]
  intro i j hi hj hij
  have hidx (k : Nat) (hk : k < table.length) : (Table.keys table).idxOf table[k].1 = k := by
    have hlen : k < (Table.keys table).length := by rwa [Table.keys, List.length_map]
    have hkey : (Table.keys table)[k] = table[k].1 := List.getElem_map Prod.fst
    rw [← hkey, h.idxOf_getElem]
  rwa [hidx i hi, hidx j hj]

/-- The values directly inside a value are listed in the order of their places. -/
theorem pairwise_rank_inner {shape : Shape} (hs : shape.hasDistinctFields = true) {tree : Tree}
    (ht : tree.hasDistinctKeys = true) :
    (shape.inner tree).Pairwise fun part part' =>
      shape.rank tree part.step < shape.rank tree part'.step := by
  unfold inner
  split
  · rw [List.pairwise_map]
    exact pairwise_idxOf_keys (Tree.nodup_keys_of_hasDistinctKeys ht)
  · rw [List.pairwise_map, List.pairwise_iff_getElem]
    intro i j hi hj hij
    simpa [rank] using hij
  · rw [List.pairwise_filterMap]
    refine (pairwise_idxOf_keys (nodup_keys_of_hasDistinctFields hs)).imp ?_
    intro field field' hlt part hp part' hp'
    obtain ⟨value, -, rfl⟩ := Option.map_eq_some_iff.mp hp
    obtain ⟨value', -, rfl⟩ := Option.map_eq_some_iff.mp hp'
    exact hlt
  · exact List.Pairwise.nil

/-- What a report of a value says of it, if it lists all that keeps the value from fitting. -/
structure Reports (shape : Shape) (tree : Tree) (violations : List Violation) : Prop where
  /-- The places that are reported are those of the culprits. -/
  mem_iff (path : List Step) :
    path ∈ violations.map Violation.path ↔ shape.IsCulprit tree path
  /-- Every path leads to a value of which something is asked, and which has the fault. -/
  located : ∀ violation ∈ violations, ∃ wanted value,
    shape.follow? violation.path = some wanted ∧ tree.follow? violation.path = some value ∧
      wanted.fault? value = some violation.fault
  /-- No place is reported twice. -/
  nodup : (violations.map Violation.path).Nodup
  /-- The places are reported in order. -/
  ordered : (violations.map Violation.path).Pairwise (shape.Precedes tree)

end Schema.Shape

namespace Schema.Validator.Spec

variable {validator : Validator}

/-- A value is reported on in the order of the paths. -/
theorem pairwise_precedes_violations (spec : validator.Spec) {shape : Shape}
    (hs : shape.hasDistinctFields = true) {tree : Tree} (ht : tree.hasDistinctKeys = true) :
    (validator.violations shape tree).Pairwise fun violation violation' =>
      shape.Precedes tree violation.path violation'.path := by
  induction shape, tree using Shape.innerInduction with
  | h shape tree ih =>
    rw [spec.violations_eq, List.pairwise_append, List.pairwise_flatMap]
    refine ⟨?_, ⟨fun part hp => ?_, ?_⟩, ?_⟩
    · cases shape.fault? tree <;> simp
    · obtain ⟨hws, hwt⟩ := (Shape.mem_inner_iff hs ht).mp hp
      rw [List.pairwise_map]
      exact (ih part hp (Shape.hasDistinctFields_of_step? hs hws)
        (Tree.hasDistinctKeys_of_step? ht hwt)).imp (.later hws hwt)
    · refine (Shape.pairwise_rank_inner hs ht).imp fun hlt violation hv violation' hv' => ?_
      obtain ⟨inside, -, rfl⟩ := List.mem_map.mp hv
      obtain ⟨inside', -, rfl⟩ := List.mem_map.mp hv'
      exact .first hlt inside.path inside'.path
    · -- If something is wrong with the value itself, nothing is asked of what is inside.
      cases hf : shape.fault? tree with
      | none => simp
      | some fault => simp [Shape.inner_eq_nil hf]

/-- Of every value the culprits are reported, each once and in order. -/
theorem reports_violations (spec : validator.Spec) {shape : Shape}
    (hs : shape.hasDistinctFields = true) {tree : Tree} (ht : tree.hasDistinctKeys = true) :
    shape.Reports tree (validator.violations shape tree) := by
  have hordered : ((validator.violations shape tree).map Violation.path).Pairwise
      (shape.Precedes tree) := by
    rw [List.pairwise_map]
    exact spec.pairwise_precedes_violations hs ht
  refine ⟨fun path => ?_, fun violation hv => (spec.mem_violations_iff hs ht).mp hv, ?_, hordered⟩
  · rw [Shape.isCulprit_iff hs ht, List.mem_map]
    simp only [← spec.mem_violations_iff hs ht]
    constructor
    · rintro ⟨⟨path, fault⟩, hv, rfl⟩
      exact ⟨fault, hv⟩
    · rintro ⟨fault, hv⟩
      exact ⟨_, hv, rfl⟩
  · exact hordered.imp Shape.Precedes.ne

end Schema.Validator.Spec

namespace Model

/-- Whether a mapping is right for a model in the field that does not hold a text, if it has it. -/
def AdmitsRest (validator : Validator) (model : Model) (entries : Table String Tree) : Prop :=
  match model with
  | host => ∀ value, Table.get? entries "labels" = some value →
    ∃ labels, value = .mapping labels ∧ ∀ label ∈ labels, ∃ content, label.2 = .text content
  | container => True
  | service => ∀ value, Table.get? entries "containers" = some value →
    ∃ items, value = .sequence items ∧
      ∀ item ∈ items, ∃ object, validator.validate container.shape item = .ok object
  | network => ∀ value, Table.get? entries "metadata" = some value →
    ∃ metadata, value = .mapping metadata

/-- Whether a value is one of those of which an object of the model is made: a mapping with the
right values in those fields of the model that it has. -/
def Admits (validator : Validator) (model : Model) (tree : Tree) : Prop :=
  ∃ entries, tree = .mapping entries ∧
    (∀ name ∈ model.textFields, ∀ value, Table.get? entries name = some value →
      ∃ content, value = .text content) ∧
    model.AdmitsRest validator entries

/-- What a model admits is what has its shape. -/
theorem admits_iff_fits {validator : Validator} (spec : validator.Spec) (model : Model)
    (tree : Tree) : model.Admits validator tree ↔ model.shape.fits tree = true := by
  have hrest (entries : Table String Tree) : model.AdmitsRest validator entries ↔
      ∀ field ∈ model.restFields, ∀ value, Table.get? entries field.1 = some value →
        field.2.shape.fits value = true := by
    cases model <;>
      simp [AdmitsRest, restFields, Slot.dictionary, Slot.list, Shape.fits_dictionary_iff,
        Shape.fits_list_iff, Shape.fits_text_iff, Shape.fits, spec.exists_validate_eq_ok_iff]
  simp only [shape, Record.shape, Shape.fits_record_iff, fields_eq, List.forall_mem_append,
    List.forall_mem_map, Slot.text, Shape.fits_text_iff, Admits, hrest]

/-- An object is made of a value whose mappings have different keys exactly if the model admits it.
Of any other the culprits are reported, each once and in order, and what stands under keys that are
no fields makes no difference to what is reported. -/
theorem validate_reports {validator : Validator} (spec : validator.Spec) (model : Model)
    {tree : Tree} (hd : tree.hasDistinctKeys = true) :
    ((∃ object, validator.validate model.shape tree = .ok object) ↔
      model.Admits validator tree) ∧
    ∀ violations,
      (validator.validate model.shape tree = .error violations →
        model.shape.Reports tree violations) ∧
      ∀ tree', model.shape.Agrees tree tree' →
        (validator.validate model.shape tree' = .error violations ↔
          validator.validate model.shape tree = .error violations) := by
  refine ⟨?_, fun violations => ⟨fun h => ?_, fun tree' ha => ?_⟩⟩
  · rw [admits_iff_fits spec, spec.exists_validate_eq_ok_iff]
  · rw [← (spec.validate_eq_error_iff.mp h).2]
    exact spec.reports_violations model.hasDistinctFields_shape hd
  · rw [spec.validate_eq_error_iff, spec.validate_eq_error_iff, spec.violations_congr ha]

/-- A service in which two texts are none, and of whose containers the second is no mapping and the
third has two texts that are none. -/
def malformedService : Tree :=
  .mapping [
    ("containers", .sequence [
      .mapping [("uuid", .text "c1"), ("ports", .sequence [.null])],
      .text "c2",
      .mapping [("state", .null), ("weight", .mapping [("state", .null)]), ("name", .number 3 0)]]),
    ("kind", .bool true),
    ("region", .number 7 0),
    ("uuid", .null),
    ("name", .text "web")]

/-- Of the malformed service everything that is wrong with it is reported in the order in which the
fields are declared, and what stands under a key that is no field can as well be left out. -/
theorem validate_reports_malformed :
    Validator.strict.Spec ∧ malformedService.hasDistinctKeys = true ∧
    ¬service.Admits Validator.strict malformedService ∧
    ∃ violations : List Violation,
      violations.map Violation.path =
        [[.key "uuid"], [.key "kind"], [.key "containers", .index 1],
          [.key "containers", .index 2, .key "name"],
          [.key "containers", .index 2, .key "state"]] ∧
      service.shape.Reports malformedService violations ∧
      Validator.strict.validate service.shape
        (.mapping (Table.erase "region" malformedService.entriesOrNone)) = .error violations := by
  have hd : malformedService.hasDistinctKeys = true := by decide +kernel
  have hv : Validator.strict.validate service.shape malformedService =
      .error (service.shape.collect malformedService) := rfl
  have herase : service.shape.Agrees malformedService
      (.mapping (Table.erase "region" malformedService.entriesOrNone)) :=
    Shape.agrees_erase "Service" (by decide) malformedService.entriesOrNone
  obtain ⟨hok, herror⟩ := validate_reports Validator.strict_spec service hd
  refine ⟨Validator.strict_spec, hd, fun h => ?_, _, by decide +kernel, (herror _).1 hv,
    ((herror _).2 _ herase).mpr hv⟩
  obtain ⟨object, ho⟩ := hok.mpr h
  simp [hv] at ho

end Model

end HostOverlay
