import HostOverlay.Cluster.Host
import HostOverlay.Cluster.Network
import HostOverlay.Cluster.Service
import HostOverlay.Proofs.Validation.Fitting

/-!
# Models, and values that agree for them

The cluster is described by four types of records, and what holds of their validation is stated for
all four of them at once. Two values agree for a shape if they differ at most in what the shape does
not name: in what stands under other keys than those of fields, and in the places of the fields, in
the value itself or in the records in it. Changes of what is under such a key lead to a value that
agrees (`Shape.agrees_put`, `Shape.agrees_erase`), and a validator cannot tell values that agree
apart (`Validator.Spec.violations_congr`, `Validator.Spec.written?_congr`).
-/

namespace HostOverlay

open Schema

/-- The types of records that describe the cluster. -/
inductive Model where
  /-- The host on which the agent runs. -/
  | host
  /-- A container of a service. -/
  | container
  /-- A service of a stack. -/
  | service
  /-- An overlay network. -/
  | network

namespace Model

/-- The records of a model. -/
abbrev Carrier : Model → Type
  | host => Host
  | container => Container
  | service => Service
  | network => Network

instance (model : Model) : Record model.Carrier :=
  match model with
  | host => inferInstanceAs (Record Host)
  | container => inferInstanceAs (Record Container)
  | service => inferInstanceAs (Record Service)
  | network => inferInstanceAs (Record Network)

/-- The shape that a value must have to be read as a record of the model. -/
def shape (model : Model) : Shape := Record.shape model.Carrier

/-- The names of the fields of a model that hold texts. -/
def textFields : Model → List String
  | host => ["uuid", "environment_uuid", "name", "hostname", "agent_ip"]
  | container => ["uuid", "name", "host_uuid", "network_uuid", "state", "primary_ip"]
  | service => ["uuid", "stack_uuid", "stack_name", "kind", "name", "primary_service_name"]
  | network => ["uuid", "environment_uuid", "name"]

/-- The fields of a model that do not hold texts. -/
def restFields : Model → Fields
  | host => [("labels", .dictionary .text)]
  | container => []
  | service => [("containers", .list container.shape)]
  | network => [("metadata", .dictionary .anything)]

/-- In every model the fields that hold texts come first, and they are empty if they are missing. -/
theorem fields_eq (model : Model) :
    Record.fields model.Carrier = model.textFields.map (·, Slot.text) ++ model.restFields := by
  cases model <;> rfl

/-- The fields of a model have different names, and so do those of the records in it. -/
theorem hasDistinctFields_shape (model : Model) : model.shape.hasDistinctFields = true := by
  cases model <;> decide +kernel

end Model

namespace Schema.Shape

/-- Whether two values differ at most in what a shape does not name. -/
inductive Agrees : Shape → Tree → Tree → Prop
  /-- A value agrees with itself. -/
  | refl (shape : Shape) (value : Tree) : Agrees shape value value
  /-- Lists agree if they are of one length and the items at each position agree. -/
  | list {item : Shape} {items items' : List Tree} (hl : items.length = items'.length)
      (h : ∀ (position : Nat) value value', items[position]? = some value →
        items'[position]? = some value' → Agrees item value value') :
      Agrees (list item) (.sequence items) (.sequence items')
  /-- Mappings agree as records if they have the same fields, and the values of each agree. -/
  | record (name : String) {fields : Fields} {entries entries' : Table String Tree}
      (hf : ∀ field ∈ fields,
        Table.get? entries field.1 = none ↔ Table.get? entries' field.1 = none)
      (h : ∀ field ∈ fields, ∀ value value', Table.get? entries field.1 = some value →
        Table.get? entries' field.1 = some value' → Agrees field.2.shape value value') :
      Agrees (record name fields) (.mapping entries) (.mapping entries')

/-- Mappings that hold the same under the names of fields agree as records. -/
theorem agrees_of_get?_eq (name : String) {fields : Fields}
    {entries entries' : Table String Tree}
    (h : ∀ key ∈ Table.keys fields, Table.get? entries' key = Table.get? entries key) :
    (record name fields).Agrees (.mapping entries) (.mapping entries') := by
  have hget (field : String × Slot Shape) (hf : field ∈ fields) :=
    h field.1 (List.mem_map_of_mem hf)
  refine .record name (fun field hf => by rw [hget field hf]) fun field hf held held' hv hv' => ?_
  rw [hget field hf, hv, Option.some.injEq] at hv'
  exact hv' ▸ .refl _ _

/-- What is stored under a key that is no field makes no difference to a record. -/
theorem agrees_put (name : String) {key : String} {fields : Fields}
    (hk : key ∉ Table.keys fields) (value : Tree) (entries : Table String Tree) :
    (record name fields).Agrees (.mapping entries) (.mapping (Table.put key value entries)) :=
  agrees_of_get?_eq name fun _ hm =>
    Table.get?_put_of_ne (ne_of_mem_of_not_mem hm hk) value entries

/-- Removing a key that is no field makes no difference to a record. -/
theorem agrees_erase (name : String) {key : String} {fields : Fields}
    (hk : key ∉ Table.keys fields) (entries : Table String Tree) :
    (record name fields).Agrees (.mapping entries) (.mapping (Table.erase key entries)) :=
  agrees_of_get?_eq name fun _ hm =>
    Table.get?_erase_of_ne (ne_of_mem_of_not_mem hm hk) entries

/-- Storing under a field a value that agrees with the one that is there makes no difference to a
record. -/
theorem agrees_put_field (name : String) {key : String} {fields : Fields}
    (hd : (Table.keys fields).Nodup) {field : Slot Shape} (hs : Table.get? fields key = some field)
    {entries : Table String Tree} {value value' : Tree} (hv : Table.get? entries key = some value)
    (h : field.shape.Agrees value value') :
    (record name fields).Agrees (.mapping entries) (.mapping (Table.put key value' entries)) := by
  refine .record name (fun field hf => ?_) fun field hf held held' hh hh' => ?_
  -- Only the field that is stored under is read in another way than before.
  all_goals by_cases hk : field.1 = key
  · rw [hk, hv, Table.get?_put_self]
    simp
  · rw [Table.get?_put_of_ne hk]
  · rw [hk, hv, Option.some.injEq] at hh
    rw [hk, Table.get?_put_self, Option.some.injEq] at hh'
    have hfield := Table.get?_of_mem hd hf
    rw [hk, hs, Option.some.injEq] at hfield
    exact hfield ▸ hh ▸ hh' ▸ h
  · rw [Table.get?_put_of_ne hk, hh, Option.some.injEq] at hh'
    exact hh' ▸ .refl _ _

/-- Lists agree if their first items and the lists of the others do. -/
theorem agrees_cons {item : Shape} {value value' : Tree} (h : item.Agrees value value')
    {items items' : List Tree} (hi : (list item).Agrees (.sequence items) (.sequence items')) :
    (list item).Agrees (.sequence (value :: items)) (.sequence (value' :: items')) := by
  cases hi with
  | refl =>
    refine .list rfl fun position held held' hh hh' => ?_
    cases position with
    | zero => exact Option.some.inj hh ▸ Option.some.inj hh' ▸ h
    | succ position => exact Option.some.inj (hh.symm.trans hh') ▸ .refl _ _
  | list hl hi =>
    refine .list (congrArg (· + 1) hl) fun position held held' hh hh' => ?_
    cases position with
    | zero => exact Option.some.inj hh ▸ Option.some.inj hh' ▸ h
    | succ position => exact hi position held held' hh hh'

/-- What a function makes of the values of a field is the same in two mappings if they both have the
field or both lack it, and it makes the same of the values that they have. -/
theorem map_eq_map_of_none_iff {β : Type} {f : Tree → β} {held held' : Option Tree}
    (hn : held = none ↔ held' = none)
    (h : ∀ value value', held = some value → held' = some value' → f value = f value') :
    held.map f = held'.map f := by
  cases held with
  | none => rw [hn.mp rfl]
  | some value =>
    cases held' with
    | none => simp at hn
    | some value' => exact congrArg some (h value value' rfl rfl)

/-- What a function makes of the items of two lists of one length is the same if it makes the same
of the items at each position. -/
theorem map_eq_map_of_length_eq {β : Type} {f : Tree → β} {items items' : List Tree}
    (hl : items.length = items'.length)
    (h : ∀ (position : Nat) value value', items[position]? = some value →
      items'[position]? = some value' → f value = f value') :
    items.map f = items'.map f := by
  refine List.ext_getElem (by simp [hl]) fun i hi hi' => ?_
  rw [List.length_map] at hi hi'
  simpa using h i _ _ (List.getElem?_eq_getElem hi) (List.getElem?_eq_getElem hi')

/-- What is read of the items of two lists is the same if the same is read of each. -/
theorem mapM_eq_mapM_of_map_eq {α α' β : Type} {f : α → Option β} {f' : α' → Option β} {l : List α}
    {l' : List α'} (h : l.map f = l'.map f') : l.mapM f = l'.mapM f' := by
  calc l.mapM f = (l.map f).mapM id := by rw [List.mapM_map, Function.id_comp]
    _ = (l'.map f').mapM id := by rw [h]
    _ = l'.mapM f' := by rw [List.mapM_map, Function.id_comp]

end Schema.Shape

namespace Schema.Validator.Spec

variable {validator : Validator}

/-- The same is reported of values that agree. -/
theorem violations_congr (spec : validator.Spec) {shape : Shape} {tree tree' : Tree}
    (h : shape.Agrees tree tree') :
    validator.violations shape tree = validator.violations shape tree' := by
  induction h with
  | refl => rfl
  | @list item items items' hl h ih =>
    have hitems := Shape.map_eq_map_of_length_eq hl ih
    -- What is reported of a list is told by what is reported of its items and by their positions.
    have hreport (held : List Tree) : validator.violations (.list item) (.sequence held) =
        (held.map (validator.violations item)).zipIdx.flatMap fun entry =>
          entry.1.map (.under (.index entry.2)) := by
      rw [spec.violations_list, List.zipIdx_map, List.flatMap_map]
      rfl
    rw [hreport, hreport, hitems]
  | @record name fields entries entries' hf h ih =>
    rw [spec.violations_record, spec.violations_record]
    refine List.flatMap_congr fun field hm => ?_
    have hfield := Shape.map_eq_map_of_none_iff (hf field hm) (ih field hm)
    cases hv : Table.get? entries field.1 <;> cases hv' : Table.get? entries' field.1 <;> simp_all

/-- Of values that agree an object is made that is written alike, or none of either. -/
theorem written?_congr (spec : validator.Spec) {shape : Shape} {tree tree' : Tree}
    (h : shape.Agrees tree tree') :
    validator.written? shape tree = validator.written? shape tree' := by
  induction h with
  | refl => rfl
  | list hl h ih =>
    rw [spec.written?_list, spec.written?_list,
      Shape.mapM_eq_mapM_of_map_eq (Shape.map_eq_map_of_length_eq hl ih)]
  | @record name fields entries entries' hf h ih =>
    rw [spec.written?_record, spec.written?_record]
    refine congrArg _ (Shape.mapM_eq_mapM_of_map_eq (List.map_congr_left fun field hm => ?_))
    have hfield := Shape.map_eq_map_of_none_iff (hf field hm) (ih field hm)
    cases hv : Table.get? entries field.1 <;> cases hv' : Table.get? entries' field.1 <;>
      simp_all [writtenField?]

end Schema.Validator.Spec

end HostOverlay
