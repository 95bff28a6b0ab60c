import Mathlib.Data.List.Forall2

/-!
# Texts and their parts

A text is split at a character into parts, and parts are joined with a character between them. The
standard library says that the one undoes the other (`List.intercalate_splitOn`,
`List.splitOn_intercalate`). Here is what that means for the characters of the parts, and for texts
with one part or with two.
-/

namespace HostOverlay.Text

variable {sep : Char}

/-- The parts of a text are free of the character at which it is split. -/
theorem not_mem_of_mem_splitOn {cs part : List Char} (h : part ∈ cs.splitOn sep) :
    sep ∉ part := by
  induction cs generalizing part with
  | nil => simp_all
  | cons c rest ih =>
    rw [List.splitOn_cons_eq_if_modifyHead] at h
    by_cases hc : c = sep
    · rw [if_pos (beq_iff_eq.mpr hc), List.mem_cons] at h
      rcases h with rfl | h
      · exact List.not_mem_nil
      · exact ih h
    · -- The character joins the first part of the rest.
      obtain ⟨first, others, hparts⟩ := List.exists_cons_of_ne_nil (List.splitOn_ne_nil sep rest)
      rw [hparts] at ih
      rw [if_neg (by simpa using hc), hparts, List.modifyHead_cons, List.mem_cons] at h
      rcases h with rfl | h
      · rw [List.mem_cons, not_or]
        exact ⟨Ne.symm hc, ih List.mem_cons_self⟩
      · exact ih (List.mem_cons_of_mem _ h)

/-- A text is its only part exactly if it is free of the character. -/
theorem splitOn_eq_singleton_iff {cs part : List Char} :
    cs.splitOn sep = [part] ↔ sep ∉ part ∧ cs = part := by
  constructor
  · intro h
    have hjoined : [sep].intercalate (cs.splitOn sep) = cs := List.intercalate_splitOn sep
    rw [h, List.intercalate_singleton] at hjoined
    exact ⟨not_mem_of_mem_splitOn (by rw [h]; exact List.mem_singleton_self part), hjoined.symm⟩
  · rintro ⟨hs, rfl⟩
    exact List.splitOn_eq_singleton hs

/-- A text has two parts exactly if the character stands in it once, between them. -/
theorem splitOn_eq_pair_iff {cs left right : List Char} :
    cs.splitOn sep = [left, right] ↔ sep ∉ left ∧ sep ∉ right ∧ cs = left ++ sep :: right := by
  constructor
  · intro h
    have hfree : ∀ part ∈ [left, right], sep ∉ part := by
      rw [← h]
      exact fun part => not_mem_of_mem_splitOn
    have hjoined : [sep].intercalate (cs.splitOn sep) = cs := List.intercalate_splitOn sep
    rw [h, List.intercalate_cons_cons, List.intercalate_singleton, List.append_assoc] at hjoined
    exact ⟨hfree left (by simp), hfree right (by simp), hjoined.symm⟩
  · rintro ⟨hl, hr, rfl⟩
    rw [List.splitOn_append_cons_self_of_not_mem hl, List.splitOn_eq_singleton hr]

/-- A character of joined parts is the one between them, or it is in one of them. -/
theorem eq_or_exists_mem_of_mem_intercalate {parts : List (List Char)} {c : Char}
    (h : c ∈ [sep].intercalate parts) : c = sep ∨ ∃ part ∈ parts, c ∈ part := by
  induction parts with
  | nil => simp at h
  | cons part rest ih =>
    cases rest with
    | nil => exact Or.inr ⟨part, List.mem_cons_self, by simpa using h⟩
    | cons next rest =>
      rw [List.intercalate_cons_cons, List.mem_append, List.mem_append, List.mem_singleton] at h
      rcases h with (h | h) | h
      · exact Or.inr ⟨part, List.mem_cons_self, h⟩
      · exact Or.inl h
      · rcases ih h with h | ⟨other, ho, hco⟩
        · exact Or.inl h
        · exact Or.inr ⟨other, List.mem_cons_of_mem _ ho, hco⟩

/-- The character between parts stands in their text if there are two of them or more. -/
theorem mem_intercalate {parts : List (List Char)} (h : 2 ≤ parts.length) :
    sep ∈ [sep].intercalate parts := by
  match parts, h with
  | first :: next :: rest, _ =>
    rw [List.intercalate_cons_cons]
    simp

/-- What is read part by part is read from each part. -/
theorem mapM_eq_some_iff {α β : Type} {read : α → Option β} {parts : List α} {values : List β} :
    parts.mapM read = some values ↔
      List.Forall₂ (fun part value => read part = some value) parts values := by
  induction parts generalizing values with
  | nil => cases values <;> simp
  | cons part rest ih =>
    rw [List.mapM_cons]
    cases hr : read part with
    | none => cases values <;> simp [hr]
    | some value =>
      cases hrest : rest.mapM read with
      | none => cases values <;> simp [← ih, hrest]
      | some others => cases values <;> simp [← ih, hrest, hr]

/-- A part has a value, if the parts and the values go together one by one. -/
theorem exists_value_of_mem {α β : Type} {related : α → β → Prop} {parts : List α}
    {values : List β} (h : List.Forall₂ related parts values) {part : α} (hp : part ∈ parts) :
    ∃ value ∈ values, related part value := by
  induction h with
  | nil => simp at hp
  | cons hfirst _ ih =>
    rcases List.mem_cons.mp hp with rfl | hp
    · exact ⟨_, List.mem_cons_self, hfirst⟩
    · obtain ⟨value, hv, hr⟩ := ih hp
      exact ⟨value, List.mem_cons_of_mem _ hv, hr⟩

end HostOverlay.Text
