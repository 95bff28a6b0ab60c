import Mathlib.Algebra.Group.Nat.Defs
import Mathlib.Data.List.Induction

/-!
# Digits and their value

Numerals and addresses are read alike: digits of one base, the highest first, make up a number. The
digits of a number are cut off from its low end, and a number of so many digits has these digits and
no others (`Positional.digits_value`, `Positional.value_digits`).
-/

namespace HostOverlay.Positional

/-- The number that digits make up, the highest of them first. -/
def value (base : Nat) (digits : List Nat) : Nat :=
  digits.foldl (fun number digit => number * base + digit) 0

/-- The low digits of a number, as many as told, the highest of them first. -/
def digits (base : Nat) : Nat → Nat → List Nat
  | 0, _ => []
  | count + 1, number => digits base count (number / base) ++ [number % base]

/-- One more digit at the low end. -/
theorem value_concat (base : Nat) (high : List Nat) (digit : Nat) :
    value base (high ++ [digit]) = value base high * base + digit := by
  simp [value]

/-- Digits are below the base. -/
theorem lt_of_mem_digits {base count number digit : Nat} (hb : 0 < base)
    (h : digit ∈ digits base count number) : digit < base := by
  induction count generalizing number with
  | zero => simp [digits] at h
  | succ count ih =>
    rw [digits, List.mem_append, List.mem_singleton] at h
    rcases h with h | rfl
    · exact ih h
    · exact Nat.mod_lt _ hb

/-- So many digits make up a number below that power of the base. -/
theorem value_lt {base : Nat} {digits : List Nat} (h : ∀ digit ∈ digits, digit < base) :
    value base digits < base ^ digits.length := by
  induction digits using List.reverseRecOn with
  | nil => simp [value]
  | append_singleton high digit ih =>
    rw [List.forall_mem_append, List.forall_mem_singleton] at h
    obtain ⟨hhigh, hdigit⟩ := h
    rw [value_concat, List.length_append, List.length_singleton, Nat.pow_succ]
    calc value base high * base + digit
        < value base high * base + base := by omega
      _ = (value base high + 1) * base := (Nat.succ_mul _ _).symm
      _ ≤ base ^ high.length * base := Nat.mul_le_mul_right base (ih hhigh)

/-- The digits of a number are those that make it up. -/
theorem digits_value {base : Nat} {list : List Nat} (h : ∀ digit ∈ list, digit < base) :
    digits base list.length (value base list) = list := by
  induction list using List.reverseRecOn with
  | nil => rfl
  | append_singleton high digit ih =>
    rw [List.forall_mem_append, List.forall_mem_singleton] at h
    obtain ⟨hhigh, hdigit⟩ := h
    have hdiv : (value base high * base + digit) / base = value base high := by
      rw [Nat.mul_comm, Nat.mul_add_div (by omega), Nat.div_eq_of_lt hdigit, Nat.add_zero]
    have hmod : (value base high * base + digit) % base = digit := by
      rw [Nat.mul_comm, Nat.mul_add_mod, Nat.mod_eq_of_lt hdigit]
    rw [value_concat, List.length_append, List.length_singleton, digits, hdiv, hmod, ih hhigh]

/-- The digits of a number make it up, as far as they reach. -/
theorem value_digits (base count number : Nat) :
    value base (digits base count number) = number % base ^ count := by
  induction count generalizing number with
  | zero => simp [digits, value, Nat.mod_one]
  | succ count ih =>
    rw [digits, value_concat, ih, Nat.pow_succ, Nat.mul_comm (base ^ count), Nat.mod_mul,
      Nat.add_comm, Nat.mul_comm]

end HostOverlay.Positional
