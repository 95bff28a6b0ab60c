import HostOverlay.Proofs.Text.Parts
import HostOverlay.Proofs.Validation.Models
import HostOverlay.Proofs.Validation.Strict

/-!
# Objects that are written again

What an object is written as that a validator makes of a value is told field by field: what the
value holds in the field, or the default of the field (`Validator.Spec.exists_of_written?_record`).
Texts, and dictionaries without records in them, are written as they are (`Validator.Keeps`). What
is written is written again as it is, if the defaults are blank (`Validator.Spec.written?_written`).
`Model.Dumps` puts this together for the models.
-/

namespace HostOverlay

open Schema

namespace Schema.Shape

/-- Whether a value is what a field of a shape has in it before anything is put there. -/
def isBlank : Shape → Tree → Bool
  | anything, _ => true
  | text, .text _ => true
  | dictionary _, .mapping [] => true
  | list _, .sequence [] => true
  | _, _ => false

mutual

/-- Whether the defaults of all fields of the records in a shape are blank. -/
def hasBlankDefaults : Shape → Bool
  | dictionary value => hasBlankDefaults value
  | list item => hasBlankDefaults item
  | record _ fields => haveBlankDefaults fields
  | anything | text => true

/-- Whether the defaults of fields are blank, and those in the shapes of the fields. -/
def haveBlankDefaults : List (String × Slot Shape) → Bool
  | [] => true
  | (_, field) :: rest =>
    field.shape.isBlank field.default && hasBlankDefaults field.shape && haveBlankDefaults rest

end

/-- Fields with blank defaults have blank defaults each. -/
theorem isBlank_of_mem {fields : Fields} (h : haveBlankDefaults fields = true)
    {field : String × Slot Shape} (hm : field ∈ fields) :
    field.2.shape.isBlank field.2.default = true ∧ field.2.shape.hasBlankDefaults = true := by
  induction fields with
  | nil => simp at hm
  | cons first rest ih =>
    obtain ⟨name, first⟩ := first
    rw [haveBlankDefaults, Bool.and_eq_true, Bool.and_eq_true] at h
    rcases List.mem_cons.mp hm with rfl | hm
    · exact h.1
    · exact ih h.2 hm

end Schema.Shape

namespace Schema.Validator

variable {validator : Validator}

/-- A value is written in some way exactly if an object is made of it that is written so. -/
theorem written?_eq_some_iff {shape : Shape} {tree written : Tree} :
    validator.written? shape tree = some written ↔
      ∃ object, validator.validate shape tree = .ok object ∧ validator.dump object = written := by
  rw [written?]
  cases validator.validate shape tree <;> simp

/-- Whether objects of a shape are written as the values of which they are made. -/
def Keeps (validator : Validator) (shape : Shape) : Prop :=
  ∀ ⦃tree written : Tree⦄, validator.written? shape tree = some written → written = tree

/-- What a field of such a shape is written as is what it holds, or else its default. -/
theorem Keeps.eq_getD {field : Slot Shape} (hk : validator.Keeps field.shape) {held : Option Tree}
    {written : Tree} (h : validator.writtenField? field held = some written) :
    written = held.getD field.default := by
  cases held with
  | none => exact (Option.some.inj h).symm
  | some value => exact hk h

/-- Items that are related one by one are related in another way if the one relation implies the
other for the items that are there. -/
theorem forall₂_imp_of_mem {α β : Type} {r r' : α → β → Prop} {l : List α} {l' : List β}
    (hl : List.Forall₂ r l l') (h : ∀ a ∈ l, ∀ b ∈ l', r a b → r' a b) : List.Forall₂ r' l l' := by
  rw [List.forall₂_iff_zip] at hl ⊢
  refine ⟨hl.1, fun {a b} hm => ?_⟩
  obtain ⟨ha, hb⟩ := List.of_mem_zip hm
  exact h a ha b hb (hl.2 hm)

/-- Entries that go together with fields stand under the names of the fields. -/
theorem keys_eq_of_forall₂ {r : String × Slot Shape → String × Tree → Prop} {fields : Fields}
    {entries : Table String Tree}
    (h : List.Forall₂ (fun field entry => entry.1 = field.1 ∧ r field entry) fields entries) :
    Table.keys fields = Table.keys entries := by
  induction h with
  | nil => rfl
  | cons hfirst _ ih => exact congrArg₂ _ hfirst.1.symm ih

namespace Spec

/-- There is an object only of a value that has the shape. -/
theorem fits_of_written? (spec : validator.Spec) {shape : Shape} {tree written : Tree}
    (h : validator.written? shape tree = some written) : shape.fits tree = true := by
  obtain ⟨object, ho, -⟩ := written?_eq_some_iff.mp h
  exact (spec.exists_validate_eq_ok_iff shape tree).mp ⟨object, ho⟩

/-- The entries of a dictionary are written one by one, under their keys. -/
theorem forall₂_of_written?_dictionary (spec : validator.Spec) {value : Shape}
    {tree written : Tree} (h : validator.written? (.dictionary value) tree = some written) :
    ∃ entries entries', tree = .mapping entries ∧ written = .mapping entries' ∧
      List.Forall₂ (fun entry entry' => entry'.1 = entry.1 ∧
        validator.written? value entry.2 = some entry'.2) entries entries' := by
  obtain ⟨entries, rfl, -⟩ := Shape.fits_dictionary_iff.mp (spec.fits_of_written? h)
  rw [spec.written?_dictionary] at h
  obtain ⟨entries', he, rfl⟩ := Option.map_eq_some_iff.mp h
  refine ⟨entries, entries', rfl, rfl, (Text.mapM_eq_some_iff.mp he).imp fun entry entry' hw => ?_⟩
  obtain ⟨held, hh, rfl⟩ := Option.map_eq_some_iff.mp hw
  exact ⟨rfl, hh⟩

/-- The items of a list are written one by one. -/
theorem forall₂_of_written?_list (spec : validator.Spec) {item : Shape} {tree written : Tree}
    (h : validator.written? (.list item) tree = some written) :
    ∃ items items', tree = .sequence items ∧ written = .sequence items' ∧
      List.Forall₂ (validator.written? item · = some ·) items items' := by
  obtain ⟨items, rfl, -⟩ := Shape.fits_list_iff.mp (spec.fits_of_written? h)
  rw [spec.written?_list] at h
  obtain ⟨items', hi, rfl⟩ := Option.map_eq_some_iff.mp h
  exact ⟨items, items', rfl, rfl, Text.mapM_eq_some_iff.mp hi⟩

/-- The fields of a record are written one by one, under their names, and nothing else is. -/
theorem forall₂_of_written?_record (spec : validator.Spec) {name : String} {fields : Fields}
    {tree written : Tree} (h : validator.written? (.record name fields) tree = some written) :
    ∃ entries entries', tree = .mapping entries ∧ written = .mapping entries' ∧
      List.Forall₂ (fun field entry' => entry'.1 = field.1 ∧
        validator.writtenField? field.2 (Table.get? entries field.1) = some entry'.2)
        fields entries' := by
  obtain ⟨entries, rfl, -⟩ := Shape.fits_record_iff.mp (spec.fits_of_written? h)
  rw [spec.written?_record] at h
  obtain ⟨entries', he, rfl⟩ := Option.map_eq_some_iff.mp h
  refine ⟨entries, entries', rfl, rfl, (Text.mapM_eq_some_iff.mp he).imp fun field entry' hw => ?_⟩
  obtain ⟨held, hh, rfl⟩ := Option.map_eq_some_iff.mp hw
  exact ⟨rfl, hh⟩

/-- A text is written as it is. -/
theorem keeps_text (spec : validator.Spec) : validator.Keeps .text := by
  intro tree written h
  obtain ⟨content, rfl⟩ := Shape.fits_text_iff.mp (spec.fits_of_written? h)
  exact Option.some.inj (h.symm.trans (spec.written?_text content))

/-- Where anything is asked for, a value is written as it is. -/
theorem keeps_anything (spec : validator.Spec) : validator.Keeps .anything :=
  fun tree _ h => Option.some.inj (h.symm.trans (spec.written?_anything tree))

/-- A dictionary is written as it is if its values are. -/
theorem keeps_dictionary (spec : validator.Spec) {value : Shape} (hk : validator.Keeps value) :
    validator.Keeps (.dictionary value) := by
  intro tree written h
  obtain ⟨entries, entries', rfl, rfl, hentries⟩ := spec.forall₂_of_written?_dictionary h
  have heq : List.Forall₂ Eq entries' entries :=
    hentries.flip.imp fun entry' entry hw => Prod.ext hw.1 (hk hw.2)
  rw [List.forall₂_eq_eq_eq] at heq
  rw [heq]

/-- A blank value is written as it is. -/
theorem written?_of_isBlank (spec : validator.Spec) {shape : Shape} {tree : Tree}
    (h : shape.isBlank tree = true) : validator.written? shape tree = some tree := by
  unfold Shape.isBlank at h
  split at h
  · exact spec.written?_anything tree
  · exact spec.written?_text _
  · rw [spec.written?_dictionary]
    rfl
  · rw [spec.written?_list]
    rfl
  · simp at h

/-- What a field is written as is written again as it is, if that holds of the values of its shape and
its default is blank. -/
theorem written?_of_writtenField? (spec : validator.Spec) {field : Slot Shape}
    (hagain : ∀ ⦃tree written : Tree⦄, validator.written? field.shape tree = some written →
      validator.written? field.shape written = some written)
    (hblank : field.shape.isBlank field.default = true) {held : Option Tree} {written : Tree}
    (h : validator.writtenField? field held = some written) :
    validator.written? field.shape written = some written := by
  cases held with
  | none => exact Option.some.inj h ▸ spec.written?_of_isBlank hblank
  | some value => exact hagain h

/-- Where the names of fields are different and the defaults are blank, what an object is written as
is written again as it is. -/
theorem written?_written (spec : validator.Spec) {shape : Shape}
    (hs : shape.hasDistinctFields = true) (hb : shape.hasBlankDefaults = true)
    {tree written : Tree} (h : validator.written? shape tree = some written) :
    validator.written? shape written = some written := by
  -- The default of a missing field is not inside the value, so the induction is on the shape.
  induction shape using Shape.partInduction generalizing tree written with
  | h shape ih =>
    cases shape with
    | anything => exact spec.written?_anything written
    | text => exact spec.keeps_text h ▸ h
    | dictionary value =>
      obtain ⟨entries, entries', rfl, rfl, hentries⟩ := spec.forall₂_of_written?_dictionary h
      rw [Shape.hasDistinctFields] at hs
      rw [Shape.hasBlankDefaults] at hb
      rw [spec.written?_dictionary, Text.mapM_eq_some_iff.mpr (List.forall₂_same.mpr ?_)]
      · rfl
      intro entry' hm
      obtain ⟨entry, -, -, hw⟩ := Text.exists_value_of_mem hentries.flip hm
      rw [ih value (List.mem_singleton_self value) hs hb hw]
      rfl
    | list item =>
      obtain ⟨items, items', rfl, rfl, hitems⟩ := spec.forall₂_of_written?_list h
      rw [Shape.hasDistinctFields] at hs
      rw [Shape.hasBlankDefaults] at hb
      rw [spec.written?_list, Text.mapM_eq_some_iff.mpr (List.forall₂_same.mpr ?_)]
      · rfl
      intro value' hm
      obtain ⟨value, -, hw⟩ := Text.exists_value_of_mem hitems.flip hm
      exact ih item (List.mem_singleton_self item) hs hb hw
    | record name fields =>
      obtain ⟨entries, entries', rfl, rfl, hfields⟩ := spec.forall₂_of_written?_record h
      have hd := Shape.nodup_keys_of_hasDistinctFields hs
      rw [Shape.hasDistinctFields, Bool.and_eq_true] at hs
      rw [Shape.hasBlankDefaults] at hb
      rw [spec.written?_record, Text.mapM_eq_some_iff.mpr (forall₂_imp_of_mem hfields ?_)]
      · rfl
      rintro field hf entry' he ⟨hname, hw⟩
      -- The field is read from what is written in it, which is written again as it is.
      obtain ⟨hblank, hdefaults⟩ := Shape.isBlank_of_mem hb hf
      have hread := Table.get?_of_mem (keys_eq_of_forall₂ hfields ▸ hd) he
      rw [hname] at hread
      have hagain := spec.written?_of_writtenField? (fun _ _ => ih field.2.shape
        (List.mem_map_of_mem hf) (Shape.hasDistinctFields_of_mem hs.2 hf) hdefaults) hblank hw
      rw [hread, writtenField?, hagain, ← hname]
      rfl

/-- Under the name of each field something is written, and it is what the field is written as. -/
theorem exists_of_written?_record (spec : validator.Spec) {name : String} {fields : Fields}
    (hd : (Table.keys fields).Nodup) {entries entries' : Table String Tree}
    (h : validator.written? (.record name fields) (.mapping entries) = some (.mapping entries'))
    {field : String × Slot Shape} (hf : field ∈ fields) :
    ∃ value, Table.get? entries' field.1 = some value ∧
      validator.writtenField? field.2 (Table.get? entries field.1) = some value := by
  obtain ⟨held, held', hh, hh', hfields⟩ := spec.forall₂_of_written?_record h
  obtain rfl := Tree.mapping.inj hh
  obtain rfl := Tree.mapping.inj hh'
  obtain ⟨entry', he, hname, hw⟩ := Text.exists_value_of_mem hfields hf
  exact ⟨entry'.2, hname ▸ Table.get?_of_mem (keys_eq_of_forall₂ hfields ▸ hd) he, hw⟩

/-- A field of a shape that is kept is written as what is held in it, or else as its default. -/
theorem get?_of_keeps (spec : validator.Spec) {name : String} {fields : Fields}
    (hd : (Table.keys fields).Nodup) {entries entries' : Table String Tree}
    (h : validator.written? (.record name fields) (.mapping entries) = some (.mapping entries'))
    {field : String × Slot Shape} (hf : field ∈ fields) (hk : validator.Keeps field.2.shape) :
    Table.get? entries' field.1 =
      some ((Table.get? entries field.1).getD field.2.default) := by
  obtain ⟨value, hread, hw⟩ := spec.exists_of_written?_record hd h hf
  rw [hread, hk.eq_getD hw]

/-- A list in a field is written item by item; if the field is missing, the list is empty. -/
theorem exists_items_of_written?_record (spec : validator.Spec) {name key : String}
    {fields : Fields} (hd : (Table.keys fields).Nodup) {entries entries' : Table String Tree}
    (h : validator.written? (.record name fields) (.mapping entries) = some (.mapping entries'))
    {item : Shape} (hf : (key, Slot.list item) ∈ fields) :
    ∃ items items', (Table.get? entries key).getD (.sequence []) = .sequence items ∧
      Table.get? entries' key = some (.sequence items') ∧
      List.Forall₂ (validator.written? item · = some ·) items items' := by
  obtain ⟨value', hread, hw⟩ := spec.exists_of_written?_record hd h hf
  cases hv : Table.get? entries key with
  | none =>
    rw [hv] at hw
    exact ⟨[], [], rfl, hread.trans (congrArg some (Option.some.inj hw).symm), .nil⟩
  | some value =>
    rw [hv] at hw
    obtain ⟨items, items', rfl, rfl, hall⟩ := spec.forall₂_of_written?_list hw
    exact ⟨items, items', rfl, hread, hall⟩

/-- What an object of a record is written as is the list of its fields, as they are declared. -/
theorem eq_mapping_of_written? (spec : validator.Spec) {name : String} {fields : Fields}
    (hd : (Table.keys fields).Nodup) {tree written : Tree}
    (h : validator.written? (.record name fields) tree = some written) :
    written = .mapping (fields.map fun field =>
      (field.1, written.getD field.1 field.2.default)) := by
  obtain ⟨entries, entries', rfl, rfl, hfields⟩ := spec.forall₂_of_written?_record h
  have heq : List.Forall₂ Eq (fields.map fun field =>
      (field.1, (Tree.mapping entries').getD field.1 field.2.default)) entries' := by
    rw [List.forall₂_map_left_iff]
    refine forall₂_imp_of_mem hfields fun field hf entry' he ⟨hname, _⟩ => ?_
    have hread := Table.get?_of_mem (keys_eq_of_forall₂ hfields ▸ hd) he
    rw [hname] at hread
    rw [Tree.getD, Tree.get?, Tree.entries?, Option.bind_some, hread]
    exact Prod.ext hname.symm rfl
  rw [List.forall₂_eq_eq_eq] at heq
  rw [heq]

end Spec

end Schema.Validator

namespace Model

/-- Whether one mapping has exactly the fields of a model, and what another holds in those that hold
texts, or else the empty text. -/
def DumpsTexts (model : Model) (entries entries' : Table String Tree) : Prop :=
  Table.keys entries' = Record.fieldNames model.Carrier ∧
    ∀ name ∈ model.textFields,
      Table.get? entries' name = some ((Table.get? entries name).getD .emptyText)

/-- Whether one mapping has what another holds in the field of a model that does not hold a text, if
there is such a field: labels and metadata as they are, and containers one by one. -/
def DumpsRest (model : Model) (entries entries' : Table String Tree) : Prop :=
  match model with
  | host => Table.get? entries' "labels" =
    some ((Table.get? entries "labels").getD .emptyMapping)
  | container => True
  | service => ∃ items items',
    (Table.get? entries "containers").getD (.sequence []) = .sequence items ∧
      Table.get? entries' "containers" = some (.sequence items') ∧
      List.Forall₂ (fun item item' => ∃ held held', item = .mapping held ∧
        item' = .mapping held' ∧ container.DumpsTexts held held') items items'
  | network => Table.get? entries' "metadata" =
    some ((Table.get? entries "metadata").getD .emptyMapping)

/-- Whether a value is what another should be written as, if an object of a model is made of it. -/
def Dumps (model : Model) (tree written : Tree) : Prop :=
  ∃ entries entries', tree = .mapping entries ∧ written = .mapping entries' ∧
    model.DumpsTexts entries entries' ∧ model.DumpsRest entries entries'

/-- The defaults of all fields of a model are blank. -/
theorem hasBlankDefaults_shape (model : Model) : model.shape.hasBlankDefaults = true := by
  cases model <;> decide +kernel

section

variable {validator : Validator} (spec : validator.Spec) {model : Model} {tree written : Tree}
include spec

/-- What an object of a model is written as has the fields of the model, and the texts in them. -/
theorem dumpsTexts_of_written? (h : validator.written? model.shape tree = some written) :
    ∃ entries entries', tree = .mapping entries ∧ written = .mapping entries' ∧
      model.DumpsTexts entries entries' := by
  obtain ⟨entries, entries', rfl, rfl, hfields⟩ := spec.forall₂_of_written?_record h
  have hd := Shape.nodup_keys_of_hasDistinctFields model.hasDistinctFields_shape
  refine ⟨entries, entries', rfl, rfl, (Validator.keys_eq_of_forall₂ hfields).symm,
    fun name hn => ?_⟩
  have hf : (name, Slot.text) ∈ Record.fields model.Carrier :=
    model.fields_eq ▸ List.mem_append_left _ (List.mem_map_of_mem hn)
  exact spec.get?_of_keeps hd h hf spec.keeps_text

/-- What an object of a model is written as is what it should be written as. -/
theorem dumps_of_written? (h : validator.written? model.shape tree = some written) :
    model.Dumps tree written := by
  obtain ⟨entries, entries', rfl, rfl, htexts⟩ := dumpsTexts_of_written? spec h
  have hd := Shape.nodup_keys_of_hasDistinctFields model.hasDistinctFields_shape
  have hrest : ∀ field ∈ model.restFields, field ∈ Record.fields model.Carrier :=
    fun field hf => model.fields_eq ▸ List.mem_append_right _ hf
  refine ⟨entries, entries', rfl, rfl, htexts, ?_⟩
  cases model with
  | host =>
    exact spec.get?_of_keeps hd h (hrest _ List.mem_cons_self)
      (spec.keeps_dictionary spec.keeps_text)
  | container => trivial
  | network =>
    exact spec.get?_of_keeps hd h (hrest _ List.mem_cons_self)
      (spec.keeps_dictionary spec.keeps_anything)
  | service =>
    obtain ⟨items, items', hitems, hitems', hall⟩ :=
      spec.exists_items_of_written?_record hd h (hrest _ List.mem_cons_self)
    exact ⟨items, items', hitems, hitems',
      hall.imp fun item item' hi => dumpsTexts_of_written? spec hi⟩

end

/-- What an object of a model is written as has exactly the fields of the model, with what the value
holds of which the object is made, and with defaults for the fields that are missing; an object is
made of it again, which is written alike; and what stands under keys that are no fields makes no
difference to whether there is an object and to what it is written as. -/
theorem validate_dumps {validator : Validator} (spec : validator.Spec) (model : Model)
    {tree : Tree} {object : validator.Object}
    (h : validator.validate model.shape tree = .ok object) :
    model.Dumps tree (validator.dump object) ∧
    (∃ again, validator.validate model.shape (validator.dump object) = .ok again ∧
      validator.dump again = validator.dump object) ∧
    ∀ tree', model.shape.Agrees tree tree' →
      ∃ object', validator.validate model.shape tree' = .ok object' ∧
        validator.dump object' = validator.dump object := by
  have hw : validator.written? model.shape tree = some (validator.dump object) :=
    Validator.written?_eq_some_iff.mpr ⟨object, h, rfl⟩
  refine ⟨dumps_of_written? spec hw, ?_, fun tree' ha => ?_⟩
  · exact Validator.written?_eq_some_iff.mp
      (spec.written?_written model.hasDistinctFields_shape model.hasBlankDefaults_shape hw)
  · exact Validator.written?_eq_some_iff.mp (spec.written?_congr ha ▸ hw)

/-- A service that has some of its fields, and something under a key that is no field, in the first
of its containers as well. -/
def partialService (ports : Tree) : Tree :=
  .mapping [
    ("region", .number 12 1),
    ("containers", .sequence [.mapping [("ports", ports), ("name", .text "c1")], .mapping []]),
    ("name", .text "web")]

/-- The partial service is written with all the fields of a service and of its containers, and is
written alike whatever its first container has beside its fields. -/
theorem validate_dumps_partial :
    Validator.strict.Spec ∧ ∃ object : Validator.strict.Object,
      Validator.strict.validate service.shape (partialService .null) = .ok object ∧
      Validator.strict.dump object = .mapping [
        ("uuid", .text ""), ("stack_uuid", .text ""), ("stack_name", .text ""), ("kind", .text ""),
        ("name", .text "web"), ("primary_service_name", .text ""),
        ("containers", .sequence [
          .mapping [("uuid", .text ""), ("name", .text "c1"), ("host_uuid", .text ""),
            ("network_uuid", .text ""), ("state", .text ""), ("primary_ip", .text "")],
          .mapping [("uuid", .text ""), ("name", .text ""), ("host_uuid", .text ""),
            ("network_uuid", .text ""), ("state", .text ""), ("primary_ip", .text "")]])] ∧
      service.Dumps (partialService .null) (Validator.strict.dump object) ∧
      (∃ again, Validator.strict.validate service.shape (Validator.strict.dump object) =
        .ok again ∧ Validator.strict.dump again = Validator.strict.dump object) ∧
      ∃ object', Validator.strict.validate service.shape (partialService (.sequence [])) =
        .ok object' ∧ Validator.strict.dump object' = Validator.strict.dump object := by
  have hv : Validator.strict.validate service.shape (partialService .null) =
      .ok (service.shape.complete (partialService .null)) := rfl
  have hports : "ports" ∉ Table.keys (Record.fields Container) := by decide
  have hcontainer := Shape.agrees_put "Container" hports (.sequence [])
    [("ports", .null), ("name", .text "c1")]
  have hfield : Table.get? (Record.fields Service) "containers" =
      some (.list (Record.shape Container)) := rfl
  have hheld : Table.get? (partialService .null).entriesOrNone "containers" =
      some (.sequence [.mapping [("ports", .null), ("name", .text "c1")], .mapping []]) := rfl
  have hagrees : service.shape.Agrees (partialService .null) (partialService (.sequence [])) :=
    Shape.agrees_put_field "Service" (by decide) hfield hheld
      (Shape.agrees_cons hcontainer (.refl _ _))
  obtain ⟨hdumps, hagain, hcongr⟩ := validate_dumps Validator.strict_spec service hv
  exact ⟨Validator.strict_spec, _, hv, rfl, hdumps, hagain, hcongr _ hagrees⟩

end Model

end HostOverlay
