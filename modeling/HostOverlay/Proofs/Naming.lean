import HostOverlay.Proofs.Labels
import Mathlib.Data.List.DropRight

/-!
# How a reference names a label

`Reference.ofText?` reads a reference in steps: it looks for the keyword, cuts the text at its first
colon, and strips what follows of the blanks at both ends. `Reference.Names` says the same as a
grammar: a reference to a label is the keyword, anything without a colon, a colon, and the name with
blanks around it. `Reference.ofText?_eq_label_iff` shows that the reader accepts exactly these texts.

So a name that a reference can have is trimmed: a label whose name begins or ends with a blank is
out of reach. Every trimmed name in turn has a reference (`Reference.names_written`).
-/

namespace HostOverlay

namespace Text

/-- Whether a text has no blank at its ends. -/
structure IsTrimmed (cs : List Char) : Prop where
  /-- The text does not begin with a blank. -/
  head : ∀ c ∈ cs.head?, isBlank c = false
  /-- The text does not end with a blank. -/
  last : ∀ c ∈ cs.getLast?, isBlank c = false

/-- Whether there are only blanks in a text. -/
def AreBlank (cs : List Char) : Prop := ∀ c ∈ cs, isBlank c = true

instance (cs : List Char) : Decidable (IsTrimmed cs) :=
  decidable_of_iff (cs.head?.all (!isBlank ·) = true ∧ cs.getLast?.all (!isBlank ·) = true) <| by
    simp only [Option.all_eq_true, Bool.not_eq_true']
    exact ⟨fun h => ⟨h.1, h.2⟩, fun h => ⟨h.head, h.last⟩⟩

instance (cs : List Char) : Decidable (AreBlank cs) :=
  decidable_of_iff (cs.all isBlank = true) List.all_eq_true

/-- Blanks in front of a text that does not begin with one are dropped, and nothing else is. -/
theorem dropWhile_isBlank_append {blanks rest : List Char} (hb : AreBlank blanks)
    (hr : ∀ c ∈ rest.head?, isBlank c = false) :
    (blanks ++ rest).dropWhile isBlank = rest := by
  rw [List.dropWhile_append_of_pos hb]
  cases rest with
  | nil => rfl
  | cons c rest =>
    have hc : ¬ isBlank c = true := Bool.eq_false_iff.mp (hr c rfl)
    exact List.dropWhile_cons_of_neg hc

/-- A stripped text is trimmed. -/
theorem isTrimmed_strip (cs : List Char) : IsTrimmed (strip cs) where
  head := by
    intro c hc
    -- What is left of a text after its end is cut off begins like the text, if anything is left.
    have hprefix : strip cs <+: cs.dropWhile isBlank := List.rdropWhile_prefix isBlank _
    have hhead : c ∈ (cs.dropWhile isBlank).head? := by
      obtain ⟨rest, hrest⟩ := hprefix
      rw [← hrest, List.head?_append, Option.mem_def.mp hc]
      rfl
    have hnot := List.head?_dropWhile_not isBlank cs
    rw [Option.mem_def.mp hhead] at hnot
    exact hnot
  last := by
    intro c hc
    obtain ⟨hne, hlast⟩ := List.mem_getLast?_eq_getLast hc
    rw [hlast]
    exact Bool.eq_false_iff.mpr (List.rdropWhile_last_not isBlank _ hne)

/-- Stripping a text gives the trimmed text that has only blanks around it. -/
theorem strip_eq_iff {cs middle : List Char} :
    strip cs = middle ↔
      IsTrimmed middle ∧
        ∃ left right, AreBlank left ∧ AreBlank right ∧ cs = left ++ middle ++ right := by
  constructor
  · rintro rfl
    refine ⟨isTrimmed_strip cs, cs.takeWhile isBlank, (cs.dropWhile isBlank).rtakeWhile isBlank,
      fun c => List.mem_takeWhile_imp, fun c => List.mem_rtakeWhile_imp, ?_⟩
    calc cs = cs.takeWhile isBlank ++ cs.dropWhile isBlank := List.takeWhile_append_dropWhile.symm
      _ = cs.takeWhile isBlank ++ (strip cs ++ (cs.dropWhile isBlank).rtakeWhile isBlank) :=
        congrArg _ List.rdropWhile_append_rtakeWhile.symm
      _ = cs.takeWhile isBlank ++ strip cs ++ (cs.dropWhile isBlank).rtakeWhile isBlank :=
        (List.append_assoc ..).symm
  · rintro ⟨ht, left, right, hl, hr, rfl⟩
    have hright : AreBlank right.reverse := fun c hc => hr c (List.mem_reverse.mp hc)
    have hlast : ∀ c ∈ middle.reverse.head?, isBlank c = false := by
      rw [List.head?_reverse]
      exact ht.last
    unfold strip
    cases middle with
    | nil =>
      -- Between the blanks there is nothing, so all of them are dropped from the left.
      have hall : AreBlank (left ++ [] ++ right) := by
        simpa [AreBlank, or_imp, forall_and] using And.intro hl hr
      rw [List.dropWhile_eq_nil_iff.mpr hall]
      rfl
    | cons c cs =>
      have hfirst : (left ++ c :: cs ++ right).dropWhile isBlank = c :: cs ++ right := by
        rw [List.append_assoc]
        exact dropWhile_isBlank_append hl ht.head
      rw [hfirst, List.reverse_append, dropWhile_isBlank_append hright hlast, List.reverse_reverse]

/-- A text is trimmed exactly if stripping leaves it as it is. -/
theorem isTrimmed_iff_strip_eq {cs : List Char} : IsTrimmed cs ↔ strip cs = cs := by
  constructor
  · exact fun h => strip_eq_iff.mpr ⟨h, [], [], by simp [AreBlank], by simp [AreBlank], by simp⟩
  · exact fun h => h ▸ isTrimmed_strip cs

end Text

namespace Reference

/-- What stands in front of the first colon plays no part in what follows it. -/
theorem afterColon?_append {before : List Char} (h : ':' ∉ before) (rest : List Char) :
    afterColon? (before ++ rest) = afterColon? rest := by
  induction before with
  | nil => rfl
  | cons c before ih =>
    rw [List.mem_cons, not_or] at h
    obtain ⟨hc, hb⟩ := h
    rw [List.cons_append, afterColon?, if_neg (Ne.symm hc), ih hb]

/-- A text has a rest exactly if it is cut at a colon, the first one. -/
theorem afterColon?_eq_some_iff {cs rest : List Char} :
    afterColon? cs = some rest ↔ ∃ before, ':' ∉ before ∧ cs = before ++ ':' :: rest := by
  constructor
  · -- Every character passed over on the way to the first colon joins the front part.
    intro h
    induction cs with
    | nil => simp [afterColon?] at h
    | cons c cs ih =>
      rw [afterColon?] at h
      by_cases hc : c = ':'
      · rw [if_pos hc, Option.some.injEq] at h
        exact ⟨[], List.not_mem_nil, by rw [hc, h]; rfl⟩
      · rw [if_neg hc] at h
        obtain ⟨before, hb, rfl⟩ := ih h
        refine ⟨c :: before, ?_, rfl⟩
        rw [List.mem_cons, not_or]
        exact ⟨Ne.symm hc, hb⟩
  · rintro ⟨before, hb, rfl⟩
    rw [afterColon?_append hb, afterColon?, if_pos rfl]

/-- A text has no rest exactly if it has no colon. -/
theorem afterColon?_eq_none_iff {cs : List Char} : afterColon? cs = none ↔ ':' ∉ cs := by
  induction cs with
  | nil => simp [afterColon?]
  | cons c cs ih =>
    rw [afterColon?, List.mem_cons, not_or]
    by_cases hc : c = ':'
    · simp [hc]
    · rw [if_neg hc, ih]
      exact ⟨fun h => ⟨Ne.symm hc, h⟩, fun h => h.2⟩

/-- Whether a text is a reference to the label of a name: the keyword, anything without a colon, a
colon, and the trimmed name with nothing but blanks around it. -/
def Names (text name : String) : Prop :=
  Text.IsTrimmed name.toList ∧
    ∃ middle left right : List Char, ':' ∉ middle ∧ Text.AreBlank left ∧ Text.AreBlank right ∧
      text.toList = keyword.toList ++ middle ++ ':' :: (left ++ name.toList ++ right)

/-- The keyword has no colon. -/
theorem colon_not_mem_keyword : ':' ∉ keyword.toList := by decide

/-- A text that begins with the keyword is read from behind the keyword on. -/
theorem ofText?_of_eq_append {text : String} {rest : List Char}
    (h : text.toList = keyword.toList ++ rest) :
    ofText? text =
      some (((afterColon? rest).map fun name => label (String.ofList (Text.strip name))).getD
        nothing) := by
  have hp : keyword.toList.isPrefixOf (keyword.toList ++ rest) = true :=
    List.isPrefixOf_iff_prefix.mpr (List.prefix_append _ _)
  unfold ofText?
  rw [h, if_pos hp, afterColon?_append colon_not_mem_keyword]
  cases afterColon? rest <;> rfl

/-- What is read as a reference begins with the keyword. -/
theorem exists_eq_append_of_ofText?_eq_some {text : String} {reference : Reference}
    (h : ofText? text = some reference) : ∃ rest, text.toList = keyword.toList ++ rest := by
  have hp : keyword.toList <+: text.toList := by
    by_contra hn
    rw [(ofText?_eq_none_iff text).mpr hn] at h
    exact absurd h (by simp)
  obtain ⟨rest, hrest⟩ := hp
  exact ⟨rest, hrest.symm⟩

/-- A text is read as a reference to a label exactly if it is one. -/
theorem ofText?_eq_label_iff {text name : String} :
    ofText? text = some (label name) ↔ Names text name := by
  constructor
  · intro h
    obtain ⟨rest, ht⟩ := exists_eq_append_of_ofText?_eq_some h
    rw [ofText?_of_eq_append ht, Option.some.injEq] at h
    cases hc : afterColon? rest with
    | none => simp [hc] at h
    | some after =>
      -- The front part is cut at the colon, the part behind it at the ends of the name.
      obtain ⟨middle, hm, rfl⟩ := afterColon?_eq_some_iff.mp hc
      have hname : Text.strip after = name.toList := by
        rw [hc, Option.map_some, Option.getD_some, label.injEq] at h
        rw [← h, String.toList_ofList]
      obtain ⟨htrimmed, left, right, hl, hr, rfl⟩ := Text.strip_eq_iff.mp hname
      exact ⟨htrimmed, middle, left, right, hm, hl, hr, by rw [ht, List.append_assoc keyword.toList]⟩
  · rintro ⟨htrimmed, middle, left, right, hm, hl, hr, ht⟩
    rw [List.append_assoc keyword.toList] at ht
    have hname : Text.strip (left ++ name.toList ++ right) = name.toList :=
      Text.strip_eq_iff.mpr ⟨htrimmed, left, right, hl, hr, rfl⟩
    have hc : afterColon? (middle ++ ':' :: (left ++ name.toList ++ right)) =
        some (left ++ name.toList ++ right) :=
      afterColon?_eq_some_iff.mpr ⟨middle, hm, rfl⟩
    rw [ofText?_of_eq_append ht, hc, Option.map_some, Option.getD_some, hname, String.ofList_toList]

/-- A text is read as a reference to nothing exactly if it begins with the keyword and has no
colon. -/
theorem ofText?_eq_nothing_iff {text : String} :
    ofText? text = some nothing ↔ keyword.toList <+: text.toList ∧ ':' ∉ text.toList := by
  constructor
  · intro h
    obtain ⟨rest, ht⟩ := exists_eq_append_of_ofText?_eq_some h
    refine ⟨ht ▸ List.prefix_append _ _, ?_⟩
    rw [ofText?_of_eq_append ht, Option.some.injEq] at h
    cases hc : afterColon? rest with
    | none =>
      rw [ht, List.mem_append, not_or]
      exact ⟨colon_not_mem_keyword, afterColon?_eq_none_iff.mp hc⟩
    | some after => simp [hc] at h
  · rintro ⟨⟨rest, ht⟩, hc⟩
    rw [← ht, List.mem_append, not_or] at hc
    rw [ofText?_of_eq_append ht.symm, afterColon?_eq_none_iff.mpr hc.2]
    rfl

/-- The shortest reference to the label of a name. -/
def written (name : String) : String := keyword ++ ":" ++ name

/-- The shortest reference to a trimmed name names it. -/
theorem names_written {name : String} (h : Text.IsTrimmed name.toList) :
    Names (written name) name := by
  refine ⟨h, [], [], [], by simp, by simp [Text.AreBlank], by simp [Text.AreBlank], ?_⟩
  simp [written]

end Reference

end HostOverlay
