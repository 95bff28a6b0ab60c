/-!
# Ordered tables

A table is a list of keyed values in the order in which the keys were first stored. Reading takes
the first entry of a key, and storing under a key that is already there keeps the key's place, so
a table always remembers where a key came in and which value came last. Most tables are keyed by
texts; any type of keys will do whose keys can be compared.
-/

namespace HostOverlay

/-- A table from keys to values, in the order in which the keys came in. -/
abbrev Table (κ α : Type) := List (κ × α)

namespace Table

variable {κ α β : Type}

/-- The keys, in the order of the entries. -/
def keys (table : Table κ α) : List κ := table.map Prod.fst

/-- Applies a function to every value; the keys stay as they are. -/
def mapValues (f : α → β) (table : Table κ α) : Table κ β :=
  table.map fun entry => (entry.1, f entry.2)

/-- Mapping the values keeps the keys. -/
@[simp] theorem keys_mapValues (f : α → β) (table : Table κ α) :
    keys (mapValues f table) = keys table := by
  simp [keys, mapValues, Function.comp_def]

/-- Mapping the values twice is mapping them once. -/
theorem mapValues_mapValues {γ : Type} (g : β → γ) (f : α → β) (table : Table κ α) :
    mapValues g (mapValues f table) = mapValues (fun value => g (f value)) table := by
  simp [mapValues, Function.comp_def]

/-- Two functions do the same to a table if they do the same to every value of it. -/
theorem mapValues_eq_mapValues_iff {f g : α → β} {table : Table κ α} :
    mapValues f table = mapValues g table ↔ ∀ entry ∈ table, f entry.2 = g entry.2 := by
  simp [mapValues, List.map_inj_left]

section Keyed

variable [BEq κ]

/-- The value of the first entry of a key. -/
def get? (table : Table κ α) (key : κ) : Option α := table.lookup key

/-- Stores a value: a key that is there keeps its place, and a new one goes to the end. -/
def put (key : κ) (value : α) : Table κ α → Table κ α
  | [] => [(key, value)]
  | (k, v) :: rest => if k == key then (k, value) :: rest else (k, v) :: put key value rest

/-- Removes every entry of a key. -/
def erase (key : κ) : Table κ α → Table κ α
  | [] => []
  | (k, v) :: rest => if k == key then erase key rest else (k, v) :: erase key rest

/-- What a table holds after a value is stored is that value or was there before. -/
theorem mem_put {key : κ} {value : α} {table : Table κ α} {entry : κ × α}
    (h : entry ∈ put key value table) : entry.2 = value ∨ entry ∈ table := by
  induction table with
  | nil => simp_all [put]
  | cons first rest ih =>
    obtain ⟨k, v⟩ := first
    rw [put] at h
    split at h
    · rcases List.mem_cons.mp h with rfl | h
      · exact Or.inl rfl
      · exact Or.inr (List.mem_cons_of_mem _ h)
    · rcases List.mem_cons.mp h with rfl | h
      · exact Or.inr List.mem_cons_self
      · exact (ih h).imp id (List.mem_cons_of_mem _)

@[simp] theorem get?_nil (key : κ) : get? ([] : Table κ α) key = none := rfl

/-- A mapped table is read through the function. -/
@[simp] theorem get?_mapValues (f : α → β) (table : Table κ α) (key : κ) :
    get? (mapValues f table) key = (get? table key).map f := by
  induction table with
  | nil => rfl
  | cons entry rest ih =>
    obtain ⟨k, v⟩ := entry
    simp only [mapValues, get?] at ih
    cases h : key == k <;> simp [mapValues, get?, List.lookup_cons, h, ih]

/-- What is read under a key is an entry of the table. -/
theorem mem_of_get?_eq_some [LawfulBEq κ] {table : Table κ α} {key : κ}
    {value : α} (h : get? table key = some value) : (key, value) ∈ table := by
  obtain ⟨before, after, he, -⟩ := List.lookup_eq_some_iff.mp h
  rw [he]
  exact List.mem_append_right _ List.mem_cons_self

/-- Whether a key compares equal to itself and to no other key, on either side. Where keys of many
kinds are compared, some are sharp and others are not. -/
structure IsSharp (key : κ) : Prop where
  /-- The key is equal to itself only. -/
  left : ∀ other : κ, (key == other) = true ↔ other = key
  /-- Only the key itself is equal to it. -/
  right : ∀ other : κ, (other == key) = true ↔ other = key

/-- Where equal keys are the same, every key is sharp. -/
theorem isSharp_of_lawful [LawfulBEq κ] (key : κ) : IsSharp key where
  left other := by rw [beq_iff_eq, eq_comm]
  right _ := beq_iff_eq

namespace IsSharp

variable {key : κ}

/-- Under a sharp key the first entry of the key is read. -/
theorem get?_cons_self (hk : IsSharp key) (value : α) (rest : Table κ α) :
    get? ((key, value) :: rest) key = some value := by
  rw [get?, List.lookup_cons, (hk.left key).mpr rfl]

/-- Under a sharp key the entries of other keys are passed over. -/
theorem get?_cons_of_ne (hk : IsSharp key) {other : κ} (h : other ≠ key) (value : α)
    (rest : Table κ α) : get? ((other, value) :: rest) key = get? rest key := by
  have hb : (key == other) = false := Bool.eq_false_iff.mpr fun hb => h ((hk.left other).mp hb)
  rw [get?, List.lookup_cons, hb, ← get?]

/-- The entry of a sharp key is passed over when another key is read. -/
theorem get?_cons_of_ne_self (hk : IsSharp key) {other : κ} (h : other ≠ key) (value : α)
    (rest : Table κ α) : get? ((key, value) :: rest) other = get? rest other := by
  have hb : (other == key) = false := Bool.eq_false_iff.mpr fun hb => h ((hk.right other).mp hb)
  rw [get?, List.lookup_cons, hb, ← get?]

/-- Storing under a sharp key at the key's entry. -/
theorem put_cons_self (hk : IsSharp key) (value old : α) (rest : Table κ α) :
    put key value ((key, old) :: rest) = (key, value) :: rest := by
  rw [put, if_pos ((hk.right key).mpr rfl)]

/-- Storing under a sharp key behind an entry of another key. -/
theorem put_cons_of_ne (hk : IsSharp key) {other : κ} (h : other ≠ key) (value old : α)
    (rest : Table κ α) :
    put key value ((other, old) :: rest) = (other, old) :: put key value rest := by
  rw [put, if_neg fun hb => h ((hk.right other).mp hb)]

/-- What is stored under a sharp key is read back. -/
theorem get?_put_self (hk : IsSharp key) (value : α) (table : Table κ α) :
    get? (put key value table) key = some value := by
  induction table with
  | nil => exact hk.get?_cons_self value []
  | cons entry rest ih =>
    obtain ⟨k, v⟩ := entry
    by_cases h : k = key
    · subst h
      rw [hk.put_cons_self, hk.get?_cons_self]
    · rw [hk.put_cons_of_ne h, hk.get?_cons_of_ne h, ih]

/-- Storing under a sharp key leaves the others alone. -/
theorem get?_put_of_ne (hk : IsSharp key) {other : κ} (h : other ≠ key) (value : α)
    (table : Table κ α) : get? (put key value table) other = get? table other := by
  induction table with
  | nil => exact hk.get?_cons_of_ne_self h value []
  | cons entry rest ih =>
    obtain ⟨k, v⟩ := entry
    by_cases hkey : k = key
    · subst hkey
      rw [hk.put_cons_self, hk.get?_cons_of_ne_self h, hk.get?_cons_of_ne_self h]
    · -- The first entry is read from both tables or passed over in both.
      rw [hk.put_cons_of_ne hkey, get?, get?, List.lookup_cons, List.lookup_cons, ← get?, ← get?,
        ih]

/-- Storing under a sharp key that is there keeps the keys. -/
theorem keys_put_of_mem (hk : IsSharp key) {value : α} {table : Table κ α}
    (h : key ∈ keys table) : keys (put key value table) = keys table := by
  induction table with
  | nil => simp [keys] at h
  | cons entry rest ih =>
    obtain ⟨k, v⟩ := entry
    by_cases hkey : k = key
    · subst hkey
      rw [hk.put_cons_self]
      rfl
    · have hrest : key ∈ keys rest := (List.mem_cons.mp h).resolve_left (Ne.symm hkey)
      rw [hk.put_cons_of_ne hkey, keys, List.map_cons, ← keys, ih hrest]
      rfl

/-- Storing under a sharp key that is new adds it at the end. -/
theorem keys_put_of_not_mem (hk : IsSharp key) {value : α} {table : Table κ α}
    (h : key ∉ keys table) : keys (put key value table) = keys table ++ [key] := by
  induction table with
  | nil => rfl
  | cons entry rest ih =>
    obtain ⟨k, v⟩ := entry
    have hkey : k ≠ key := by
      rintro rfl
      exact h List.mem_cons_self
    have hrest : key ∉ keys rest := fun hm => h (List.mem_cons_of_mem _ hm)
    rw [hk.put_cons_of_ne hkey, keys, List.map_cons, ← keys, ih hrest]
    rfl

/-- Storing under a sharp key adds that key. -/
theorem mem_keys_put (hk : IsSharp key) {other : κ} {value : α} {table : Table κ α} :
    other ∈ keys (put key value table) ↔ other = key ∨ other ∈ keys table := by
  by_cases h : key ∈ keys table
  · rw [hk.keys_put_of_mem h]
    constructor
    · exact Or.inr
    · rintro (rfl | ho)
      · exact h
      · exact ho
  · rw [hk.keys_put_of_not_mem h, List.mem_append, List.mem_singleton, or_comm]

/-- Storing under a sharp key keeps different keys different. -/
theorem nodup_keys_put (hk : IsSharp key) {value : α} {table : Table κ α}
    (h : (keys table).Nodup) : (keys (put key value table)).Nodup := by
  by_cases hm : key ∈ keys table
  · rwa [hk.keys_put_of_mem hm]
  · rw [hk.keys_put_of_not_mem hm]
    refine List.nodup_append.mpr ⟨h, by simp, fun other ho last hl => ?_⟩
    rw [List.mem_singleton.mp hl]
    rintro rfl
    exact hm ho

end IsSharp

end Keyed

section Lawful

variable [BEq κ] [LawfulBEq κ]

/-- A stored value is read back. -/
@[simp] theorem get?_put_self (key : κ) (value : α) (table : Table κ α) :
    get? (put key value table) key = some value :=
  (isSharp_of_lawful key).get?_put_self value table

/-- Storing under one key leaves the others alone. -/
theorem get?_put_of_ne {key other : κ} (h : other ≠ key) (value : α) (table : Table κ α) :
    get? (put key value table) other = get? table other :=
  (isSharp_of_lawful key).get?_put_of_ne h value table

/-- Storing keeps different keys different. -/
theorem nodup_keys_put {table : Table κ α} (h : (keys table).Nodup) (key : κ) (value : α) :
    (keys (put key value table)).Nodup :=
  (isSharp_of_lawful key).nodup_keys_put h

variable [DecidableEq κ]

theorem get?_cons (k : κ) (v : α) (rest : Table κ α) (key : κ) :
    get? ((k, v) :: rest) key = if key = k then some v else get? rest key := by
  by_cases h : key = k
  · simp [get?, h]
  · have hk : (key == k) = false := by simpa using h
    simp [get?, List.lookup_cons, hk, h]

/-- Where the keys are different, every entry is read under its key. -/
theorem get?_of_mem {table : Table κ α} (hd : (keys table).Nodup) {key : κ} {value : α}
    (h : (key, value) ∈ table) : get? table key = some value := by
  induction table with
  | nil => simp at h
  | cons entry rest ih =>
    obtain ⟨k, v⟩ := entry
    rw [keys, List.map_cons, List.nodup_cons] at hd
    rw [get?_cons]
    rcases List.mem_cons.mp h with he | hr
    · obtain ⟨rfl, rfl⟩ := Prod.mk.inj he
      rw [if_pos rfl]
    · have hne : key ≠ k := by
        rintro rfl
        exact hd.1 (List.mem_map.mpr ⟨_, hr, rfl⟩)
      rw [if_neg hne]
      exact ih hd.2 hr

/-- Where the keys are different, the entries are what is read under their keys. -/
theorem mem_iff_get?_eq_some {table : Table κ α} (hd : (keys table).Nodup) {key : κ} {value : α} :
    (key, value) ∈ table ↔ get? table key = some value :=
  ⟨get?_of_mem hd, mem_of_get?_eq_some⟩

/-- Storing what a key holds already changes nothing. -/
theorem put_eq_self {table : Table κ α} {key : κ} {value : α}
    (h : get? table key = some value) : put key value table = table := by
  induction table with
  | nil => simp at h
  | cons entry rest ih =>
    obtain ⟨k, v⟩ := entry
    rw [get?_cons] at h
    by_cases hk : key = k
    · rw [if_pos hk, Option.some.injEq] at h
      simp [put, hk, h]
    · rw [if_neg hk] at h
      simp [put, Ne.symm hk, ih h]

/-- Removing one key leaves the others alone. -/
theorem get?_erase_of_ne {key other : κ} (h : other ≠ key) (table : Table κ α) :
    get? (erase key table) other = get? table other := by
  induction table with
  | nil => rfl
  | cons entry rest ih =>
    obtain ⟨k, v⟩ := entry
    by_cases hk : k = key
    · subst hk
      simp [erase, get?_cons, h, ih]
    · simp [erase, get?_cons, hk, ih]

end Lawful

end Table

end HostOverlay
