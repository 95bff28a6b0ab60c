import Mathlib.Data.List.Forall2

/-!
# Pruned lists

A list is pruned to another by taking out some of its elements and putting a related element in the
place of each that stays. Which elements may be taken out is a parameter, and so is the relation. A
test that none of the removable elements passes, and on which related elements agree, selects
related elements from both lists (`Pruned.forall₂_filter`), so it finds related elements first
(`Pruned.rel_find?`).
-/

namespace HostOverlay

variable {α β : Type}

/-- Whether a list is pruned to another. -/
inductive Pruned (removable : α → Prop) (related : α → α → Prop) : List α → List α → Prop
  /-- There are no elements. -/
  | nil : Pruned removable related [] []
  /-- The first element is taken out. -/
  | remove {a : α} {rest rest' : List α} (h : removable a)
      (hr : Pruned removable related rest rest') : Pruned removable related (a :: rest) rest'
  /-- The first element stays, in related form. -/
  | keep {a b : α} {rest rest' : List α} (h : related a b)
      (hr : Pruned removable related rest rest') :
      Pruned removable related (a :: rest) (b :: rest')

namespace Pruned

variable {removable : α → Prop} {related : α → α → Prop} {l l' : List α}

/-- A list that is pruned to another is so for every weaker relation. -/
theorem imp {related' : α → α → Prop} (h : Pruned removable related l l')
    (hr : ∀ a b, related a b → related' a b) : Pruned removable related' l l' := by
  induction h with
  | nil => exact .nil
  | remove h _ ih => exact .remove h ih
  | keep h _ ih => exact .keep (hr _ _ h) ih

/-- What a list is pruned to has elements that are related to elements of the list. -/
theorem exists_of_mem (h : Pruned removable related l l') {b : α} (hb : b ∈ l') :
    ∃ a ∈ l, related a b := by
  induction h with
  | nil => simp at hb
  | remove _ _ ih =>
    obtain ⟨a, ha, hr⟩ := ih hb
    exact ⟨a, List.mem_cons_of_mem _ ha, hr⟩
  | keep h _ ih =>
    rcases List.mem_cons.mp hb with rfl | hb
    · exact ⟨_, List.mem_cons_self, h⟩
    · obtain ⟨a, ha, hr⟩ := ih hb
      exact ⟨a, List.mem_cons_of_mem _ ha, hr⟩

/-- A test that no removable element passes selects related elements from both lists. -/
theorem forall₂_filter (h : Pruned removable related l l') {p q : α → Bool}
    (hp : ∀ a, removable a → p a = false) (hpq : ∀ a b, related a b → q b = p a) :
    List.Forall₂ related (l.filter p) (l'.filter q) := by
  induction h with
  | nil => exact .nil
  | remove h _ ih => rwa [List.filter_cons_of_neg (by simp [hp _ h])]
  | @keep a b _ _ h _ ih =>
    by_cases ha : p a = true
    · rw [List.filter_cons_of_pos ha, List.filter_cons_of_pos ((hpq _ _ h).trans ha)]
      exact .cons h ih
    · rw [List.filter_cons_of_neg ha, List.filter_cons_of_neg (by rwa [hpq _ _ h])]
      exact ih

/-- Lists with related elements have related first elements. -/
theorem rel_head?_of_forall₂ (h : List.Forall₂ related l l') : Option.Rel related l.head? l'.head? := by
  cases h with
  | nil => exact .none
  | cons h _ => exact .some h

/-- A test that no removable element passes finds related elements first. -/
theorem rel_find? (h : Pruned removable related l l') {p q : α → Bool}
    (hp : ∀ a, removable a → p a = false) (hpq : ∀ a b, related a b → q b = p a) :
    Option.Rel related (l.find? p) (l'.find? q) := by
  rw [← List.head?_filter, ← List.head?_filter]
  exact rel_head?_of_forall₂ (h.forall₂_filter hp hpq)

/-- A test that no removable element passes selects the same elements if those that stay do not
change. -/
theorem filter_eq (h : Pruned removable Eq l l') {p : α → Bool}
    (hp : ∀ a, removable a → p a = false) : l'.filter p = l.filter p := by
  have hrel : List.Forall₂ Eq (l.filter p) (l'.filter p) :=
    h.forall₂_filter hp fun a b he => by rw [he]
  rw [List.forall₂_eq_eq_eq] at hrel
  exact hrel.symm

/-- A partial function without values on removable elements has the same values on both lists if
those that stay do not change. -/
theorem filterMap_eq (h : Pruned removable Eq l l') {f : α → Option β}
    (hf : ∀ a, removable a → f a = none) : l'.filterMap f = l.filterMap f := by
  induction h with
  | nil => rfl
  | remove h _ ih => rw [List.filterMap_cons_none (hf _ h), ih]
  | keep h _ ih => rw [List.filterMap_cons, List.filterMap_cons, ih, h]

/-- What a partial function has no value on in a list, it has no value on after pruning. -/
theorem findSome?_eq_none (h : Pruned removable related l l') {f g : α → Option β}
    (hfg : ∀ a b, related a b → f a = none → g b = none) (hf : l.findSome? f = none) :
    l'.findSome? g = none := by
  rw [List.findSome?_eq_none_iff] at hf ⊢
  intro b hb
  obtain ⟨a, ha, hr⟩ := h.exists_of_mem hb
  exact hfg a b hr (hf a ha)

end Pruned

end HostOverlay
