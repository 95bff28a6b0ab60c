/-!
# Pools

A pool holds objects of one type, each reached by a handle. Whoever has a handle sees the object
as it is now, so two lists that hold the same handle share the object. Objects are added and
changed and never removed, so a handle stays good.
-/

namespace HostOverlay

/-- A handle of an object in a pool of such objects. -/
@[ext] structure Handle (α : Type) where
  /-- The position of the object in its pool. -/
  index : Nat

instance {α : Type} : DecidableEq (Handle α) := fun a b =>
  decidable_of_iff (a.index = b.index) Handle.ext_iff.symm

/-- Objects of one type, each reached by a handle. -/
structure Pool (α : Type) where
  /-- The objects, oldest first. -/
  objects : List α := []

namespace Pool

variable {α : Type}

instance : Inhabited (Pool α) := ⟨{}⟩

/-- The object of a handle; a handle of no object reads as the default one. -/
def get [Inhabited α] (pool : Pool α) (handle : Handle α) : α :=
  pool.objects.getD handle.index default

/-- The handle of the next object that is added. -/
def fresh (pool : Pool α) : Handle α := ⟨pool.objects.length⟩

/-- Whether a handle has an object. -/
def Holds (pool : Pool α) (handle : Handle α) : Prop := handle.index < pool.objects.length

/-- Adds an object, which the handle `pool.fresh` then reaches. -/
def add (pool : Pool α) (object : α) : Pool α := ⟨pool.objects ++ [object]⟩

/-- Changes the object of a handle. -/
def set (pool : Pool α) (handle : Handle α) (object : α) : Pool α :=
  ⟨pool.objects.set handle.index object⟩

/-- The handles of the objects of a list that is added to a pool. -/
def freshHandles (pool : Pool α) (objects : List α) : List (Handle α) :=
  (List.range objects.length).map fun i => ⟨pool.objects.length + i⟩

/-- Adds the objects of a list, which the handles `pool.freshHandles` then reach. -/
def addAll (pool : Pool α) (objects : List α) : Pool α := ⟨pool.objects ++ objects⟩

/-- An object that was added is reached by its handle. -/
@[simp] theorem get_add_fresh [Inhabited α] (pool : Pool α) (object : α) :
    (pool.add object).get pool.fresh = object := by
  simp [get, add, fresh]

/-- Adding an object leaves the others alone. -/
theorem get_add_of_holds [Inhabited α] {pool : Pool α} {handle : Handle α}
    (h : pool.Holds handle) (object : α) : (pool.add object).get handle = pool.get handle := by
  simp only [Holds] at h
  simp [get, add, List.getD_eq_getElem?_getD, List.getElem?_append_left h]

/-- A changed object reads as it was written. -/
theorem get_set_self [Inhabited α] {pool : Pool α} {handle : Handle α} (h : pool.Holds handle)
    (object : α) : (pool.set handle object).get handle = object := by
  simp only [Holds] at h
  simp [get, set, List.getD_eq_getElem?_getD, h]

/-- Changing one object leaves the others alone. -/
theorem get_set_of_ne [Inhabited α] (pool : Pool α) {handle other : Handle α}
    (h : other ≠ handle) (object : α) : (pool.set handle object).get other = pool.get other := by
  have hi : handle.index ≠ other.index := fun e => h (Handle.ext e.symm)
  simp [get, set, List.getD_eq_getElem?_getD, hi]

/-- After an object is changed, a handle reads as what was written or as before. -/
theorem get_set_eq_or [Inhabited α] (pool : Pool α) (handle other : Handle α) (object : α) :
    (other = handle ∧ (pool.set handle object).get other = object) ∨
      (pool.set handle object).get other = pool.get other := by
  by_cases ho : other = handle
  · subst ho
    by_cases hh : pool.Holds other
    · exact Or.inl ⟨rfl, get_set_self hh object⟩
    · -- There is no object to change.
      right
      rw [set, List.set_eq_of_length_le (Nat.not_lt.mp hh)]
  · exact Or.inr (get_set_of_ne pool ho object)

/-- The objects of a list that was added are reached by their handles. -/
theorem map_get_freshHandles [Inhabited α] (pool : Pool α) (objects : List α) :
    (pool.freshHandles objects).map (pool.addAll objects).get = objects := by
  apply List.ext_getElem
  · simp [freshHandles]
  · intro i _ hi
    simp [freshHandles, get, addAll, List.getD_eq_getElem?_getD, hi]

end Pool

end HostOverlay
