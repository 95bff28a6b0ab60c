import HostOverlay.Proofs.Positional
import HostOverlay.Proofs.Text.Parts
import HostOverlay.Text.Numeral
import Mathlib.Tactic.IntervalCases

/-!
# What a numeral writes

A decimal numeral is one or more decimal digits, a hexadecimal one is one or more hexadecimal digits,
and the digits make up the number that it writes. `Text.WritesDecimal` and `Text.WritesHex` say so, and
the readers accept exactly what they say. Every number is written by its digits without zeros in
front (`Text.writesDecimal_toDigits`, `Text.writesHex_toDigits`).
-/

namespace HostOverlay.Text

/-- Whether a text is a decimal numeral of a number. -/
structure WritesDecimal (cs : List Char) (number : Nat) : Prop where
  /-- A numeral has a digit. -/
  ne_nil : cs ≠ []
  /-- There is nothing but digits in it. -/
  isDigit : ∀ c ∈ cs, c.isDigit = true
  /-- The digits make up the number. -/
  value : Nat.ofDigitChars 10 cs 0 = number

/-- Whether a character is the hexadecimal digit of a value; a letter may be small or capital. -/
def IsHexDigit (c : Char) (digit : Nat) : Prop :=
  digit < 16 ∧ (c = digit.digitChar ∨ c = digit.digitChar.toUpper)

instance (c : Char) (digit : Nat) : Decidable (IsHexDigit c digit) :=
  inferInstanceAs (Decidable (_ ∧ _))

/-- Whether a text is a hexadecimal numeral of a number. -/
def WritesHex (cs : List Char) (number : Nat) : Prop :=
  cs ≠ [] ∧ ∃ digits, List.Forall₂ IsHexDigit cs digits ∧ number = ofHexDigits digits

/-- A decimal numeral is read as the number that it writes, and nothing else is read. -/
theorem decimal?_eq_some_iff {cs : List Char} {number : Nat} :
    decimal? cs = some number ↔ WritesDecimal cs number := by
  rw [decimal?]
  constructor
  · intro h
    split at h
    · rename_i hcs
      exact ⟨hcs.1, List.all_eq_true.mp hcs.2, Option.some.inj h⟩
    · cases h
  · rintro ⟨hne, hdigits, rfl⟩
    rw [if_pos ⟨hne, List.all_eq_true.mpr hdigits⟩]

/-- The decimal digits of a number write it. -/
theorem writesDecimal_toDigits (number : Nat) : WritesDecimal (Nat.toDigits 10 number) number where
  ne_nil := Nat.toDigits_ne_nil
  isDigit _ hc := Nat.isDigit_of_mem_toDigits (by decide) (by decide) hc
  value := Nat.ofDigitChars_ten_toDigits

/-- The decimal digits of a number begin with a zero for zero only. -/
theorem head?_toDigits_ne {number : Nat} (h : 0 < number) :
    (Nat.toDigits 10 number).head? ≠ some '0' := by
  induction number using Nat.base_induction 10 (by decide) with
  | single number hn =>
    rw [Nat.toDigits_of_lt_base hn, List.head?_cons, Ne, Option.some.injEq, Nat.digitChar_eq_zero]
    omega
  | digit high low hl hh ih =>
    rw [← Nat.toDigits_append_toDigits (by decide) hh hl,
      List.head?_append_of_ne_nil _ Nat.toDigits_ne_nil]
    exact ih hh

/-- A character of a row of digits is the digit at its place, if every character of the row is. -/
theorem isHexDigit_of_row {low high c : Char} {first : Nat} (hl : low ≤ c) (hh : c ≤ high)
    (hrow : ∀ place ≤ high.toNat - low.toNat,
      IsHexDigit (Char.ofNat (low.toNat + place)) (place + first)) :
    IsHexDigit c (c.toNat - low.toNat + first) := by
  have hlow : low.toNat ≤ c.toNat := UInt32.le_iff_toNat_le.mp hl
  have hhigh : c.toNat ≤ high.toNat := UInt32.le_iff_toNat_le.mp hh
  have hdigit := hrow (c.toNat - low.toNat) (by omega)
  rw [Nat.add_sub_of_le hlow, Char.ofNat_toNat] at hdigit
  exact hdigit

/-- A hexadecimal digit is read as its value, and nothing else is read. -/
theorem hexDigit?_eq_some_iff {c : Char} {digit : Nat} :
    hexDigit? c = some digit ↔ IsHexDigit c digit := by
  rw [hexDigit?]
  constructor
  · -- The digits stand in three rows: the decimal ones, the small and the capital letters.
    intro h
    split_ifs at h with hdecimal hsmall hcapital
    · obtain rfl := Option.some.inj h
      have hc : '0' ≤ c ∧ c ≤ '9' := by
        rw [Char.isDigit, Bool.and_eq_true, decide_eq_true_eq, decide_eq_true_eq] at hdecimal
        exact hdecimal
      exact @isHexDigit_of_row '0' '9' c 0 hc.1 hc.2 (by decide)
    · obtain rfl := Option.some.inj h
      exact isHexDigit_of_row hsmall.1 hsmall.2 (by decide)
    · obtain rfl := Option.some.inj h
      exact isHexDigit_of_row hcapital.1 hcapital.2 (by decide)
  · rintro ⟨hd, h⟩
    interval_cases digit <;> rcases h with rfl | rfl <;> rfl

/-- A hexadecimal numeral is read as the number that it writes, and nothing else is read. -/
theorem hex?_eq_some_iff {cs : List Char} {number : Nat} :
    hex? cs = some number ↔ WritesHex cs number := by
  have hmapM (digits : List Nat) :
      cs.mapM hexDigit? = some digits ↔ List.Forall₂ IsHexDigit cs digits := by
    simp only [mapM_eq_some_iff, hexDigit?_eq_some_iff]
  rw [hex?]
  constructor
  · intro h
    split_ifs at h with hne
    obtain ⟨digits, hdigits, rfl⟩ := Option.map_eq_some_iff.mp h
    exact ⟨hne, digits, (hmapM digits).mp hdigits, rfl⟩
  · rintro ⟨hne, digits, hdigits, rfl⟩
    rw [if_neg hne, (hmapM digits).mpr hdigits, Option.map_some]

/-- A hexadecimal numeral writes a number with as many digits. -/
theorem WritesHex.lt {cs : List Char} {number : Nat} (h : WritesHex cs number) :
    number < 16 ^ cs.length := by
  obtain ⟨-, digits, hdigits, rfl⟩ := h
  have hlt : ∀ digit ∈ digits, digit < 16 := by
    intro digit hd
    obtain ⟨c, -, hc⟩ := exists_value_of_mem hdigits.flip hd
    exact hc.1
  rw [hdigits.length_eq]
  exact Positional.value_lt hlt

/-- The hexadecimal digits of a number write it. -/
theorem writesHex_toDigits (number : Nat) : WritesHex (Nat.toDigits 16 number) number := by
  refine ⟨Nat.toDigits_ne_nil, ?_⟩
  have hdigit {digit : Nat} (hd : digit < 16) : IsHexDigit digit.digitChar digit :=
    ⟨hd, Or.inl rfl⟩
  induction number using Nat.base_induction 16 (by decide) with
  | single number hn =>
    rw [Nat.toDigits_of_lt_base hn]
    exact ⟨[number], .cons (hdigit hn) .nil, by simp [ofHexDigits]⟩
  | digit high low hl hh ih =>
    obtain ⟨digits, hdigits, hvalue⟩ := ih
    rw [← Nat.toDigits_append_toDigits (by decide) hh hl, Nat.toDigits_of_lt_base hl]
    refine ⟨digits ++ [low], List.rel_append hdigits (.cons (hdigit hl) .nil), ?_⟩
    rw [ofHexDigits, List.foldl_append, ← ofHexDigits, ← hvalue, Nat.mul_comm]
    rfl

/-- There is nothing but letters and digits in a hexadecimal numeral. -/
theorem WritesHex.isAlphanum {cs : List Char} {number : Nat} (h : WritesHex cs number)
    {c : Char} (hc : c ∈ cs) : c.isAlphanum = true := by
  obtain ⟨-, digits, hdigits, -⟩ := h
  obtain ⟨digit, -, hd, hdigit⟩ := exists_value_of_mem hdigits hc
  interval_cases digit <;> rcases hdigit with rfl | rfl <;> rfl

end HostOverlay.Text
