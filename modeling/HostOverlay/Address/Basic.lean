import HostOverlay.Address.IPv6
import HostOverlay.Address.Mask

/-!
# Addresses and blocks

An address is of version 4 or 6. A block holds the addresses of one version that share their first
bits; its base is the address in which the other bits are clear.
-/

namespace HostOverlay

/-- An address of either version. -/
inductive Address where
  /-- An IPv4 address. -/
  | v4 (bits : BitVec 32)
  /-- An IPv6 address. -/
  | v6 (bits : BitVec 128)
deriving DecidableEq, Repr

namespace Address

/-- The version of an address. -/
def version : Address → Nat
  | v4 _ => 4
  | v6 _ => 6

/-- The text of an address. -/
def toText : Address → List Char
  | v4 bits => IPv4.toText bits
  | v6 bits => IPv6.toText bits

/-- The address with all but its first bits cleared. -/
def masked (length : Nat) : Address → Address
  | v4 bits => v4 (bits &&& mask 32 length)
  | v6 bits => v6 (bits &&& mask 128 length)

end Address

/-- A block of addresses that share their first bits. -/
structure Block where
  /-- The lowest address of the block. -/
  base : Address
  /-- The number of bits that the addresses share. -/
  length : Nat
  /-- The zone of the block, where it is known. -/
  zone : Option String := none
deriving DecidableEq, Repr

namespace Block

/-- Whether an address belongs to the block; one of the other version never does. -/
def contains (block : Block) (address : Address) : Bool :=
  address.version == block.base.version && address.masked block.length == block.base

/-- The text of a block. -/
def toText (block : Block) : List Char :=
  block.base.toText ++ (block.zone.map fun zone => '%' :: zone.toList).getD []
    ++ '/' :: Nat.toDigits 10 block.length

end Block

end HostOverlay
