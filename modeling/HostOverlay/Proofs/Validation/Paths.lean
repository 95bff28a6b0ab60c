import HostOverlay.Schema.Shape

/-!
# Paths into a value

A path leads from a value, step by step, to a value inside it, and beside it from a shape to the
shape that is asked of that value. No step is ambiguous where the keys of every mapping are
different, as they are in every value that was read from a text, and where the fields of every
record have different names. Both carry over to what a step leads to
(`Tree.hasDistinctKeys_of_step?`, `Shape.hasDistinctFields_of_step?`).
-/

namespace HostOverlay

open Schema

namespace Tree

/-- The value that one step leads to. -/
def step? (tree : Tree) : Step → Option Tree
  | .key name => tree.get? name
  | .index position => tree.items?.bind (·[position]?)

/-- The value that a path leads to. -/
def follow? : Tree → List Step → Option Tree
  | tree, [] => some tree
  | tree, step :: path => (tree.step? step).bind fun value => value.follow? path

/-- A path in two parts is followed one part after the other. -/
theorem follow?_append (tree : Tree) (path path' : List Step) :
    tree.follow? (path ++ path') = (tree.follow? path).bind fun value => value.follow? path' := by
  induction path generalizing tree with
  | nil => rfl
  | cons step path ih =>
    rw [List.cons_append, follow?, follow?, Option.bind_assoc]
    exact congrArg _ (funext ih)

mutual

/-- Whether the keys of every mapping in a tree are different from each other. -/
def hasDistinctKeys : Tree → Bool
  | sequence items => haveDistinctKeys items
  | mapping entries => decide (Table.keys entries).Nodup && entriesHaveDistinctKeys entries
  | null | bool _ | number .. | text _ | link _ => true

/-- Whether the keys of every mapping in the items are different from each other. -/
def haveDistinctKeys : List Tree → Bool
  | [] => true
  | item :: rest => hasDistinctKeys item && haveDistinctKeys rest

/-- Whether the keys of every mapping in the values of entries are different from each other. -/
def entriesHaveDistinctKeys : List (String × Tree) → Bool
  | [] => true
  | (_, value) :: rest => hasDistinctKeys value && entriesHaveDistinctKeys rest

end

/-- Items in which all keys are different have different keys each. -/
theorem hasDistinctKeys_of_mem {items : List Tree} (h : haveDistinctKeys items = true)
    {item : Tree} (hm : item ∈ items) : item.hasDistinctKeys = true := by
  induction items with
  | nil => simp at hm
  | cons first rest ih =>
    rw [haveDistinctKeys, Bool.and_eq_true] at h
    rcases List.mem_cons.mp hm with rfl | hm
    · exact h.1
    · exact ih h.2 hm

/-- Entries in whose values all keys are different have values with different keys each. -/
theorem hasDistinctKeys_of_mem_entries {entries : Table String Tree}
    (h : entriesHaveDistinctKeys entries = true) {entry : String × Tree} (hm : entry ∈ entries) :
    entry.2.hasDistinctKeys = true := by
  induction entries with
  | nil => simp at hm
  | cons first rest ih =>
    obtain ⟨key, value⟩ := first
    rw [entriesHaveDistinctKeys, Bool.and_eq_true] at h
    rcases List.mem_cons.mp hm with rfl | hm
    · exact h.1
    · exact ih h.2 hm

/-- The keys of a mapping are different if all keys in it are. -/
theorem nodup_keys_of_hasDistinctKeys {entries : Table String Tree}
    (h : (mapping entries).hasDistinctKeys = true) : (Table.keys entries).Nodup := by
  rw [hasDistinctKeys, Bool.and_eq_true] at h
  exact of_decide_eq_true h.1

/-- A value inside a tree has different keys if the tree has. -/
theorem hasDistinctKeys_of_step? {tree value : Tree} (h : tree.hasDistinctKeys = true)
    {step : Step} (hs : tree.step? step = some value) : value.hasDistinctKeys = true := by
  cases step with
  | key name =>
    obtain ⟨entries, he, hv⟩ := Option.bind_eq_some_iff.mp hs
    cases tree with
    | mapping held =>
      obtain rfl := Option.some.inj he
      rw [hasDistinctKeys, Bool.and_eq_true] at h
      exact hasDistinctKeys_of_mem_entries h.2 (Table.mem_of_get?_eq_some hv)
    | _ => simp [entries?] at he
  | index position =>
    obtain ⟨items, hi, hv⟩ := Option.bind_eq_some_iff.mp hs
    cases tree with
    | sequence held =>
      obtain rfl := Option.some.inj hi
      rw [hasDistinctKeys] at h
      exact hasDistinctKeys_of_mem h (List.mem_of_getElem? hv)
    | _ => simp [items?] at hi

/-- A value inside a tree has different keys if the tree has, however deep it is. -/
theorem hasDistinctKeys_of_follow? {tree value : Tree} (h : tree.hasDistinctKeys = true)
    {path : List Step} (hp : tree.follow? path = some value) : value.hasDistinctKeys = true := by
  induction path generalizing tree with
  | nil => exact Option.some.inj hp ▸ h
  | cons step path ih =>
    obtain ⟨held, hs, hp⟩ := Option.bind_eq_some_iff.mp hp
    exact ih (hasDistinctKeys_of_step? h hs) hp

end Tree

namespace Schema.Shape

/-- The shape that is asked of the value that one step leads to. -/
def step? : Shape → Step → Option Shape
  | dictionary value, .key _ => some value
  | list item, .index _ => some item
  | record _ fields, .key name => (Table.get? fields name).map Slot.shape
  | _, _ => none

/-- The shape that is asked of the value that a path leads to. -/
def follow? : Shape → List Step → Option Shape
  | shape, [] => some shape
  | shape, step :: path => (shape.step? step).bind fun inner => inner.follow? path

/-- A path in two parts is followed one part after the other. -/
theorem follow?_append (shape : Shape) (path path' : List Step) :
    shape.follow? (path ++ path') =
      (shape.follow? path).bind fun inner => inner.follow? path' := by
  induction path generalizing shape with
  | nil => rfl
  | cons step path ih =>
    rw [List.cons_append, follow?, follow?, Option.bind_assoc]
    exact congrArg _ (funext ih)

mutual

/-- Whether the fields of every record in a shape have different names. -/
def hasDistinctFields : Shape → Bool
  | dictionary value => hasDistinctFields value
  | list item => hasDistinctFields item
  | record _ fields => decide (Table.keys fields).Nodup && haveDistinctFields fields
  | anything | text => true

/-- Whether the fields of every record in the shapes of fields have different names. -/
def haveDistinctFields : List (String × Slot Shape) → Bool
  | [] => true
  | (_, field) :: rest => hasDistinctFields field.shape && haveDistinctFields rest

end

/-- Fields in whose shapes all names are different have shapes with different names each. -/
theorem hasDistinctFields_of_mem {fields : Fields} (h : haveDistinctFields fields = true)
    {field : String × Slot Shape} (hm : field ∈ fields) :
    field.2.shape.hasDistinctFields = true := by
  induction fields with
  | nil => simp at hm
  | cons first rest ih =>
    obtain ⟨name, first⟩ := first
    rw [haveDistinctFields, Bool.and_eq_true] at h
    rcases List.mem_cons.mp hm with rfl | hm
    · exact h.1
    · exact ih h.2 hm

/-- The names of the fields of a record are different if all names in it are. -/
theorem nodup_keys_of_hasDistinctFields {name : String} {fields : Fields}
    (h : (record name fields).hasDistinctFields = true) : (Table.keys fields).Nodup := by
  rw [hasDistinctFields, Bool.and_eq_true] at h
  exact of_decide_eq_true h.1

/-- What is asked of a value inside another has fields of different names if what is asked of the
other has. -/
theorem hasDistinctFields_of_step? {shape wanted : Shape} (h : shape.hasDistinctFields = true)
    {step : Step} (hs : shape.step? step = some wanted) : wanted.hasDistinctFields = true := by
  unfold step? at hs
  split at hs
  · rw [← Option.some.inj hs]
    simpa only [hasDistinctFields] using h
  · rw [← Option.some.inj hs]
    simpa only [hasDistinctFields] using h
  · rw [hasDistinctFields, Bool.and_eq_true] at h
    obtain ⟨field, hf, rfl⟩ := Option.map_eq_some_iff.mp hs
    exact hasDistinctFields_of_mem h.2 (Table.mem_of_get?_eq_some hf)
  · simp at hs

/-- What is asked of a value inside another has fields of different names if what is asked of the
other has, however deep it is. -/
theorem hasDistinctFields_of_follow? {shape wanted : Shape}
    (h : shape.hasDistinctFields = true) {path : List Step}
    (hp : shape.follow? path = some wanted) : wanted.hasDistinctFields = true := by
  induction path generalizing shape with
  | nil => exact Option.some.inj hp ▸ h
  | cons step path ih =>
    obtain ⟨inner, hs, hp⟩ := Option.bind_eq_some_iff.mp hp
    exact ih (hasDistinctFields_of_step? h hs) hp

end Schema.Shape

end HostOverlay
