import HostOverlay.Text.Numeral

/-!
# IPv4 addresses

An IPv4 address is 32 bits, written as four decimal octets with dots between them. An octet has no
zeros in front, so every address has one text only.
-/

namespace HostOverlay.Address.IPv4

/-- The octets of an address, the highest first. -/
def octets (address : BitVec 32) : List Nat :=
  [24, 16, 8, 0].map fun position => (address.extractLsb' position 8).toNat

/-- The address with the given octets, the highest first. -/
def ofOctets (octets : List Nat) : BitVec 32 :=
  BitVec.ofNat 32 (octets.foldl (fun n octet => n * 256 + octet) 0)

/-- The text of an address. -/
def toText (address : BitVec 32) : List Char :=
  ['.'].intercalate ((octets address).map (Nat.toDigits 10))

/-- The octet that a numeral of at most three digits denotes. -/
def octet? (cs : List Char) : Option Nat :=
  if cs.length ≤ 3 ∧ (cs = ['0'] ∨ cs.head? ≠ some '0') then
    (Text.decimal? cs).filter (· ≤ 255)
  else none

/-- The address that a text denotes. -/
def ofText? (cs : List Char) : Option (BitVec 32) :=
  let parts := cs.splitOn '.'
  if parts.length = 4 then (parts.mapM octet?).map ofOctets else none

end HostOverlay.Address.IPv4
