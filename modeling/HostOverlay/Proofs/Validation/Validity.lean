import HostOverlay.Proofs.Validation.Dumps
import HostOverlay.Settings.Loader
import HostOverlay.Topology.Validity

/-!
# What is validated is valid

A record is made of what an object is written as, and is told as just that
(`Schema.Record.Lawful`). So every record that is read is valid
(`Schema.Record.isValid_of_validate`), and with it every snapshot that is read and all settings that
are loaded. Nothing then stands in the way of a resolution (`Snapshot.resolve_of_validate`).
-/

namespace HostOverlay

open Schema

/-- What a type of records must keep for its records to be made of objects. -/
class Schema.Record.Lawful (α : Type) [Record α] : Prop where
  /-- The fields have different names. -/
  hasDistinctFields_shape : (Record.shape α).hasDistinctFields = true
  /-- The defaults of the fields are blank. -/
  hasBlankDefaults_shape : (Record.shape α).hasBlankDefaults = true
  /-- A record that is made of a value holds nothing besides its fields. -/
  isClear_margin_ofTree (tree : Tree) :
    (Record.margin (Record.ofTree tree : α)).isClear = true
  /-- A record that is made of what an object is written as is told as just that. -/
  toTree_ofTree {validator : Validator} (spec : validator.Spec) {tree written : Tree}
    (h : validator.written? (Record.shape α) tree = some written) :
    Record.toTree (Record.ofTree written : α) = written

namespace Schema.Record

variable {α : Type} [Record α]

/-- A type of records keeps the laws if a record that is made of a value tells in each field what
the value holds there, or else the default of the field. -/
theorem Lawful.of_toTree_ofTree (hd : (shape α).hasDistinctFields = true)
    (hb : (shape α).hasBlankDefaults = true)
    (hm : ∀ tree, (margin (ofTree tree : α)).isClear = true)
    (ht : ∀ tree, toTree (ofTree tree : α) =
      .mapping ((fields α).map fun field => (field.1, tree.getD field.1 field.2.default))) :
    Lawful α where
  hasDistinctFields_shape := hd
  hasBlankDefaults_shape := hb
  isClear_margin_ofTree := hm
  toTree_ofTree {_} spec {_ _} h :=
    (ht _).trans (spec.eq_mapping_of_written? (Shape.nodup_keys_of_hasDistinctFields hd) h).symm

variable [Lawful α] {validator : Validator} (spec : validator.Spec) {tree written : Tree}
include spec

/-- A record that is made of what an object is written as is valid. -/
theorem isValid_ofTree (h : validator.written? (shape α) tree = some written) :
    isValid (ofTree written : α) = true := by
  have hagain := spec.written?_written Lawful.hasDistinctFields_shape
    Lawful.hasBlankDefaults_shape h
  rw [isValid, Lawful.isClear_margin_ofTree, Lawful.toTree_ofTree spec h,
    spec.fits_of_written? hagain]
  rfl

omit [Lawful α] spec in
/-- A record that is read is made of what an object is written as. -/
theorem exists_of_validate_eq_ok {record : α} (h : Record.validate tree = .ok record) :
    ∃ written, validator.written? (shape α) tree = some written ∧ ofTree written = record := by
  rw [validate] at h
  split at h
  · rename_i object ho
    exact ⟨_, Validator.written?_eq_some_iff.mpr ⟨object, ho, rfl⟩, Except.ok.inj h⟩
  · simp at h

/-- A record that is read is told as an object is written that is made of the same value. -/
theorem written?_of_validate {record : α} (h : Record.validate tree = .ok record) :
    validator.written? (shape α) tree = some (toTree record) := by
  obtain ⟨written, hw, rfl⟩ := exists_of_validate_eq_ok h
  rw [Lawful.toTree_ofTree spec hw, hw]

/-- A record that is read is valid. -/
theorem isValid_of_validate {record : α} (h : Record.validate tree = .ok record) :
    isValid record = true := by
  obtain ⟨written, hw, rfl⟩ := exists_of_validate_eq_ok h
  exact isValid_ofTree spec hw

end Schema.Record

instance : Record.Lawful Host :=
  .of_toTree_ofTree (Model.hasDistinctFields_shape .host) (Model.hasBlankDefaults_shape .host)
    (fun _ => rfl) fun _ => rfl

instance : Record.Lawful Container :=
  .of_toTree_ofTree (Model.hasDistinctFields_shape .container)
    (Model.hasBlankDefaults_shape .container) (fun _ => rfl) fun _ => rfl

instance : Record.Lawful Network :=
  .of_toTree_ofTree (Model.hasDistinctFields_shape .network)
    (Model.hasBlankDefaults_shape .network) (fun _ => rfl) fun _ => rfl

instance : Record.Lawful Settings :=
  .of_toTree_ofTree (by decide +kernel) (by decide +kernel) (fun _ => rfl) fun _ => rfl

section

variable {validator : Validator} (spec : validator.Spec) {tree written : Tree}
  (h : validator.written? (Record.shape Service) tree = some written)
include spec h

/-- What a service is written as holds a list of containers, each of them written as an object. -/
theorem Service.exists_items_of_written? :
    ∃ items, written.getD "containers" (.sequence []) = .sequence items ∧ ∀ item ∈ items,
      ∃ value, validator.written? (Record.shape Container) value = some item := by
  have hf : ("containers", Slot.list (Record.shape Container)) ∈ Record.fields Service :=
    Model.fields_eq .service ▸ List.mem_append_right _ (List.mem_singleton_self _)
  have hd := Shape.nodup_keys_of_hasDistinctFields (Model.hasDistinctFields_shape .service)
  obtain ⟨entries, entries', rfl, rfl, -⟩ := spec.forall₂_of_written?_record h
  obtain ⟨items, items', -, hread, hall⟩ := spec.exists_items_of_written?_record hd h hf
  refine ⟨items', ?_, fun item hm => ?_⟩
  · rw [Tree.getD, Tree.get?, Tree.entries?, Option.bind_some, hread, Option.getD_some]
  · obtain ⟨value, -, hvalue⟩ := Text.exists_value_of_mem hall.flip hm
    exact ⟨value, hvalue⟩

/-- The containers of a service that is made of what an object is written as are told as just
that. -/
theorem Members.toTree_ofTree_of_written? :
    (Members.ofTree (written.getD "containers" (.sequence []))).toTree =
      written.getD "containers" (.sequence []) := by
  obtain ⟨items, hitems, hall⟩ := Service.exists_items_of_written? spec h
  rw [hitems, Members.ofTree, Members.toTree, List.map_map, Tree.sequence.injEq]
  refine (List.map_congr_left fun item hm => ?_).trans (List.map_id items)
  obtain ⟨value, hvalue⟩ := hall item hm
  exact Record.Lawful.toTree_ofTree spec hvalue

end

instance : Record.Lawful Service where
  hasDistinctFields_shape := Model.hasDistinctFields_shape .service
  hasBlankDefaults_shape := Model.hasBlankDefaults_shape .service
  isClear_margin_ofTree _ := rfl
  toTree_ofTree {_} spec {_ _} h := by
    have hd := Shape.nodup_keys_of_hasDistinctFields (Model.hasDistinctFields_shape .service)
    refine Eq.trans ?_ (spec.eq_mapping_of_written? hd h).symm
    simp only [Record.toTree, Record.ofTree, Members.toTree_ofTree_of_written? spec h]
    rfl

/-- A service that is read is valid, and so are its containers. -/
theorem Service.isValid_of_validate {validator : Validator} (spec : validator.Spec) {tree : Tree}
    {service : Service} (h : Record.validate tree = .ok service) : service.isValid = true := by
  obtain ⟨written, hw, rfl⟩ := Record.exists_of_validate_eq_ok h
  obtain ⟨items, hitems, hall⟩ := Service.exists_items_of_written? spec hw
  have hmembers : (Record.ofTree written : Service).members =
      .list (items.map fun item => .container (Record.ofTree item)) := by
    rw [← Members.ofTree, ← hitems]
    rfl
  rw [isValid, Record.isValid_ofTree spec hw, hmembers, Bool.true_and, List.all_eq_true,
    List.forall_mem_map]
  intro item hm
  obtain ⟨value, hvalue⟩ := hall item hm
  exact Record.isValid_ofTree spec hvalue

/-- What is read in two steps is read in each. -/
theorem exists_of_bind_eq_ok {ε α β : Type} {first : Except ε α} {next : α → Except ε β} {b : β}
    (h : (first >>= next) = .ok b) : ∃ a, first = .ok a ∧ next a = .ok b := by
  cases first with
  | error e => simp [bind, Except.bind] at h
  | ok a => exact ⟨a, rfl, h⟩

/-- What holds of every value that can be read holds of all values that are read. -/
theorem forall_of_mapM_eq_ok {ε α β : Type} {read : α → Except ε β} {p : β → Prop}
    (hp : ∀ a b, read a = .ok b → p b) {l : List α} {values : List β}
    (h : l.mapM read = .ok values) : ∀ value ∈ values, p value := by
  induction l generalizing values with
  | nil =>
    obtain rfl : [] = values := Except.ok.inj h
    simp
  | cons a rest ih =>
    rw [List.mapM_cons] at h
    obtain ⟨value, ha, h⟩ := exists_of_bind_eq_ok h
    obtain ⟨others, hrest, h⟩ := exists_of_bind_eq_ok h
    exact Except.ok.inj h ▸ List.forall_mem_cons.mpr ⟨hp a value ha, ih hrest⟩

namespace Snapshot

variable {validator : Validator} (spec : validator.Spec) {networks services : List Tree}
  {host : Tree} {snapshot : Snapshot}
  (h : Snapshot.validate networks host services = .ok snapshot)
include spec h

/-- A snapshot that is read is valid. -/
theorem isValid_of_validate : snapshot.isValid = true := by
  rw [validate] at h
  obtain ⟨readNetworks, hn, h⟩ := exists_of_bind_eq_ok h
  obtain ⟨readHost, hh, h⟩ := exists_of_bind_eq_ok h
  obtain ⟨readServices, hs, h⟩ := exists_of_bind_eq_ok h
  obtain rfl := Except.ok.inj h
  simp only [isValid, Bool.and_eq_true, List.all_eq_true]
  exact ⟨⟨forall_of_mapM_eq_ok (fun _ _ => Record.isValid_of_validate spec) hn,
    Record.isValid_of_validate spec hh⟩,
    forall_of_mapM_eq_ok (fun _ _ => Service.isValid_of_validate spec) hs⟩

end Snapshot

namespace Settings

/-- All settings are texts. -/
theorem shape_eq_text {field : String × Slot Shape} (hf : field ∈ Record.fields Settings) :
    field.2.shape = .text := by
  simp only [Record.fields, List.mem_cons, List.not_mem_nil, or_false] at hf
  obtain rfl | rfl | rfl | rfl := hf <;> rfl

variable {validator : Validator} {finder : Finder} {environment : Table String String}
  {arguments : Table String Tree} {findings : Findings} {settings : Settings}

/-- Settings are loaded from what is found if nothing else is given and they can be read. -/
theorem load_eq_ok_iff (hf : finder.find mark names environment arguments = .ok findings) :
    load environment arguments = .ok settings ↔
      findings.strays = [] ∧ Record.validate (.mapping findings.values) = .ok settings := by
  have hload : load environment arguments = findings.read.mapError .invalid := by
    rw [load, hf]
    rfl
  rw [hload, Findings.read, Findings.strayViolations]
  cases (Record.validate (.mapping findings.values) : Except Invalid Settings) <;>
    cases findings.strays <;> simp [Except.mapError]

variable (spec : validator.Spec)
include spec

/-- Settings are loaded exactly if everything that is found for a setting is a text, and nothing is
given that is no setting. -/
theorem exists_load_eq_ok_iff
    (hf : finder.find mark names environment arguments = .ok findings) :
    (∃ settings, load environment arguments = .ok settings) ↔
      findings.strays = [] ∧ ∀ name ∈ names, ∀ value,
        Table.get? findings.values name = some value → ∃ content, value = .text content := by
  have hread : (∃ settings : Settings, Record.validate (.mapping findings.values) = .ok settings) ↔
      (Record.shape Settings).fits (.mapping findings.values) = true := by
    rw [← spec.exists_validate_eq_ok_iff, Record.validate]
    cases validator.validate (Record.shape Settings) (.mapping findings.values) <;> simp
  simp only [load_eq_ok_iff hf, exists_and_left, hread, Record.shape, Shape.fits_record_iff,
    names, Record.fieldNames, List.forall_mem_map]
  refine and_congr_right fun _ => ⟨?_, fun h => ⟨_, rfl, fun field hm value hv => ?_⟩⟩
  · rintro ⟨entries, he, hfields⟩ field hm value hv
    obtain rfl := Tree.mapping.inj he
    exact Shape.fits_text_iff.mp (shape_eq_text hm ▸ hfields field hm value hv)
  · rw [shape_eq_text hm]
    exact Shape.fits_text_iff.mpr (h field hm value hv)

/-- Settings that are loaded are valid. -/
theorem isValid_of_load (h : load environment arguments = .ok settings) :
    Record.isValid settings = true := by
  obtain ⟨findings, hf, -⟩ := exists_of_bind_eq_ok h
  exact Record.isValid_of_validate spec ((load_eq_ok_iff hf).mp h).2

/-- Each setting that is loaded is what is found for it, or else its default. -/
theorem get?_of_load (hf : finder.find mark names environment arguments = .ok findings)
    (h : load environment arguments = .ok settings) {field : String × Slot Shape}
    (hm : field ∈ Record.fields Settings) :
    (Record.toTree settings).get? field.1 =
      some ((Table.get? findings.values field.1).getD field.2.default) := by
  have hw := Record.written?_of_validate spec ((load_eq_ok_iff hf).mp h).2
  obtain ⟨entries, entries', he, ht, -⟩ := spec.forall₂_of_written?_record hw
  obtain rfl := Tree.mapping.inj he
  rw [ht] at hw ⊢
  have hd := Shape.nodup_keys_of_hasDistinctFields
    (Record.Lawful.hasDistinctFields_shape : (Record.shape Settings).hasDistinctFields = true)
  exact spec.get?_of_keeps hd hw hm (shape_eq_text hm ▸ spec.keeps_text)

end Settings

/-- A snapshot that is read is resolved by settings that are loaded, whatever is in it. -/
theorem Snapshot.resolve_of_validate {validator : Validator} (spec : validator.Spec)
    {finder : Settings.Finder} {environment : Table String String}
    {arguments : Table String Tree} {settings : Settings}
    (hs : Settings.load environment arguments = .ok settings)
    {networks services : List Tree} {host : Tree} {snapshot : Snapshot}
    (h : Snapshot.validate networks host services = .ok snapshot) :
    snapshot.resolve settings = .ok (snapshot.resolution settings) :=
  Snapshot.resolve_of_isValid (Snapshot.isValid_of_validate spec h)
    (Settings.isValid_of_load spec hs)

end HostOverlay
