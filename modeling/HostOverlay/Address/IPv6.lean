import HostOverlay.Address.IPv4

/-!
# IPv6 addresses

An IPv6 address is 128 bits in eight groups, written in hexadecimal with colons between them. One
run of zero groups may be left out, which leaves two colons in a row, and the last two groups may
be written as an IPv4 address. The text that is printed leaves out the first of the longest runs
of at least two zero groups, and has small letters and no zeros in front.
-/

namespace HostOverlay.Address.IPv6

/-- The groups of an address, the highest first. -/
def groups (address : BitVec 128) : List Nat :=
  [112, 96, 80, 64, 48, 32, 16, 0].map fun position => (address.extractLsb' position 16).toNat

/-- The address with the given groups, the highest first. -/
def ofGroups (groups : List Nat) : BitVec 128 :=
  BitVec.ofNat 128 (groups.foldl (fun n group => n * 65536 + group) 0)

/-- The number of zero groups in front. -/
def zerosInFront (groups : List Nat) : Nat := (groups.takeWhile (· == 0)).length

/-- A run of zero groups: where it starts, and how long it is. -/
structure Run where
  /-- The position of the first group of the run. -/
  start : Nat
  /-- The number of groups. -/
  length : Nat
deriving DecidableEq, Repr

/-- The first of the longest runs of zero groups. -/
def longestRun (groups : List Nat) : Run :=
  (List.range groups.length).foldl (fun best start =>
    let length := zerosInFront (groups.drop start)
    -- A later run of the same length does not replace an earlier one.
    if best.length < length then ⟨start, length⟩ else best) ⟨0, 0⟩

/-- Groups with colons between them. -/
def joinGroups (groups : List Nat) : List Char :=
  [':'].intercalate (groups.map (Nat.toDigits 16))

/-- The text of an address. -/
def toText (address : BitVec 128) : List Char :=
  let gs := groups address
  let run := longestRun gs
  if 2 ≤ run.length then
    joinGroups (gs.take run.start) ++ [':', ':'] ++ joinGroups (gs.drop (run.start + run.length))
  else joinGroups gs

/-- The group that a numeral of at most four digits denotes. -/
def group? (cs : List Char) : Option Nat :=
  if cs.length ≤ 4 then Text.hex? cs else none

/-- The two groups that an IPv4 address stands for. -/
def quadGroups (quad : BitVec 32) : List Nat := [quad.toNat / 65536, quad.toNat % 65536]

/-- The groups of the parts at the end of a text: the last part may be an IPv4 address. -/
def tailGroups? : List (List Char) → Option (List Nat)
  | [] => some []
  | [part] =>
    if '.' ∈ part then (IPv4.ofText? part).map quadGroups else (group? part).map ([·])
  | part :: rest => do
    let group ← group? part
    let groups ← tailGroups? rest
    return group :: groups

/-- The parts of a text between its colons; the empty text has none. -/
def parts (cs : List Char) : List (List Char) := if cs = [] then [] else cs.splitOn ':'

/-- What stands in front of the first two colons in a row, and what follows them. -/
def cutAtGap? : List Char → Option (List Char × List Char)
  | [] => none
  | c :: rest =>
    if c = ':' ∧ rest.head? = some ':' then some ([], rest.tail)
    else (cutAtGap? rest).map fun sides => (c :: sides.1, sides.2)

/-- The eight groups of two sides with the left out zero groups between them, of which there is
at least one. -/
def fillGap (front back : List Nat) : Option (List Nat) :=
  let given := front.length + back.length
  if given < 8 then some (front ++ List.replicate (8 - given) 0 ++ back) else none

/-- The eight groups that a text denotes. -/
def groups? (cs : List Char) : Option (List Nat) :=
  match cutAtGap? cs with
  -- Without a gap all eight groups are written.
  | none => (tailGroups? (parts cs)).filter fun groups => groups.length = 8
  -- An IPv4 address can only end the text, so it cannot stand in front of the gap.
  | some (front, back) => do
    let front ← (parts front).mapM group?
    let back ← tailGroups? (parts back)
    fillGap front back

/-- The address that a text denotes. -/
def ofText? (cs : List Char) : Option (BitVec 128) := (groups? cs).map ofGroups

end HostOverlay.Address.IPv6
