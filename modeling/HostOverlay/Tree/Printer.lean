import HostOverlay.Text.Quoted
import HostOverlay.Tree

/-!
# Values in messages

How messages write a configuration value: a text between quotes, a sequence between square
brackets, a mapping between braces, numbers in decimals, and the other constants by a word. A text
that is a message's own part stands there without quotes.
-/

namespace HostOverlay.Tree

/-- A number in decimals, with a point in front of the last `exponent` digits. -/
def decimal (mantissa : Int) (exponent : Nat) : String :=
  if exponent = 0 then toString mantissa
  else
    let digits := Nat.toDigits 10 mantissa.natAbs
    let padded := List.replicate (exponent + 1 - digits.length) '0' ++ digits
    let whole := padded.length - exponent
    (if mantissa < 0 then "-" else "") ++ String.ofList (padded.take whole) ++ "."
      ++ String.ofList (padded.drop whole)

/-- Parts between an opening and a closing mark, with commas between them. -/
def enclosed (opening closing : String) (parts : List String) : String :=
  opening ++ ", ".intercalate parts ++ closing

mutual

/-- A value as messages write it. -/
def written : Tree → String
  | null => "None"
  | bool value => if value then "True" else "False"
  | number mantissa exponent => decimal mantissa exponent
  | text value => Text.quoted value
  | sequence items => enclosed "[" "]" (writtenItems items)
  | mapping entries => enclosed "\x7b" "\x7d" (writtenEntries entries)
  | link _ => "..."

/-- Values as messages write them. -/
def writtenItems : List Tree → List String
  | [] => []
  | item :: rest => written item :: writtenItems rest

/-- Entries as messages write them. -/
def writtenEntries : List (String × Tree) → List String
  | [] => []
  | (key, value) :: rest => (Text.quoted key ++ ": " ++ written value) :: writtenEntries rest

end

/-- A list of values as messages write it. -/
def writtenList (items : List Tree) : String := written (sequence items)

/-- A table of values as messages write it. -/
def writtenTable (table : Table Tree Tree) : String :=
  enclosed "\x7b" "\x7d" (table.map fun entry => entry.1.written ++ ": " ++ entry.2.written)

/-- A value as a part of a message: a text without quotes, and any other value as it is written. -/
def shown : Tree → String
  | text value => value
  | tree => tree.written

end HostOverlay.Tree
