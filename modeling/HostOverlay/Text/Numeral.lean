/-!
# Numerals

Decimal and hexadecimal numerals of ASCII digits. Decimals have no sign and may begin with any
number of zeros; a hexadecimal numeral takes letters of both cases.
-/

namespace HostOverlay.Text

/-- The number that a decimal numeral denotes. -/
def decimal? (cs : List Char) : Option Nat :=
  if cs ≠ [] ∧ cs.all Char.isDigit then some (Nat.ofDigitChars 10 cs 0) else none

/-- The value of a hexadecimal digit. -/
def hexDigit? (c : Char) : Option Nat :=
  if c.isDigit then some (c.toNat - '0'.toNat)
  else if 'a' ≤ c ∧ c ≤ 'f' then some (c.toNat - 'a'.toNat + 10)
  else if 'A' ≤ c ∧ c ≤ 'F' then some (c.toNat - 'A'.toNat + 10)
  else none

/-- The number that hexadecimal digits of the given values denote. -/
def ofHexDigits (digits : List Nat) : Nat := digits.foldl (fun n d => n * 16 + d) 0

/-- The number that a hexadecimal numeral denotes. -/
def hex? (cs : List Char) : Option Nat :=
  if cs = [] then none else (cs.mapM hexDigit?).map ofHexDigits

end HostOverlay.Text
