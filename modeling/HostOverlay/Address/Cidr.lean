import HostOverlay.Address.Basic
import HostOverlay.Text.Quoted

/-!
# Addresses with a prefix length

An address comes with the length of the part that it shares with its network. The text is the
address, a slash and the length. An IPv4 address may have a mask in place of the length, a net mask
or a host mask, and an IPv6 address may have a zone after a percent sign. A text is read as IPv4
first. The block of such an address is its network: the address with the bits behind the shared
part cleared.
-/

namespace HostOverlay

/-- An address with a prefix length. -/
structure Cidr where
  /-- The address. -/
  address : Address
  /-- The number of bits that the address shares with its network. -/
  length : Nat
  /-- The zone in which the address is valid, where one is given. -/
  zone : Option String := none
deriving DecidableEq, Repr

namespace Cidr

/-- The network of an address. The zone is kept by an address that is itself the lowest of its
block, and lost with the bits that are cleared. -/
def block (cidr : Cidr) : Block :=
  let base := cidr.address.masked cidr.length
  { base, length := cidr.length, zone := if base = cidr.address then cidr.zone else none }

/-- The most digits a prefix length may have, zeros in front included. -/
def maxDigits : Nat := 4300

/-- The prefix length that a decimal numeral denotes, at most the width of the address. -/
def length? (width : Nat) (cs : List Char) : Option Nat :=
  if cs.length ≤ maxDigits then (Text.decimal? cs).filter (· ≤ width) else none

/-- The prefix length that a numeral or an IPv4 mask denotes. -/
def lengthOrMask? (cs : List Char) : Option Nat :=
  (length? 32 cs).or ((Address.IPv4.ofText? cs).bind Address.netOrHostMaskLength?)

/-- Reads an IPv4 address and what stands for its length. -/
def ofIPv4? (address length : List Char) : Option Cidr := do
  let bits ← Address.IPv4.ofText? address
  let length ← lengthOrMask? length
  return { address := .v4 bits, length }

/-- An address text without its zone, and the zone. The zone is not empty and has no percent
sign. -/
def splitZone? (cs : List Char) : Option (List Char × Option String) :=
  match cs.splitOn '%' with
  | [address] => some (address, none)
  | [address, zone] => if zone = [] then none else some (address, some (String.ofList zone))
  | _ => none

/-- Reads an IPv6 address, maybe with a zone, and its length. -/
def ofIPv6? (address length : List Char) : Option Cidr := do
  let (address, zone) ← splitZone? address
  let bits ← Address.IPv6.ofText? address
  let length ← length? 128 length
  return { address := .v6 bits, length, zone }

/-- The address with a prefix length that a text denotes. -/
def ofText? (cs : List Char) : Option Cidr :=
  match cs.splitOn '/' with
  | [address, length] => (ofIPv4? address length).or (ofIPv6? address length)
  | _ => none

/-- Why a text is no address with a prefix length. -/
inductive Malformed where
  /-- The text has no slash. -/
  | noLength (text : String)
  /-- The text has another form than that of either version. -/
  | noAddress (text : String)
deriving DecidableEq, Repr

/-- The message about a malformed text. -/
def Malformed.message : Malformed → String
  | noLength text => "missing prefix length in " ++ Text.quoted text
  | noAddress text => Text.quoted text ++ " does not appear to be an IPv4 or IPv6 interface"

/-- Reads an address with a prefix length. -/
def read (text : String) : Except Malformed Cidr :=
  match ofText? text.toList with
  | some cidr => .ok cidr
  | none => .error (.noAddress text)

/-- Reads the address of a text with a prefix length. -/
def readAddress (text : String) : Except Malformed Address :=
  if '/' ∈ text.toList then (read text).map address else .error (.noLength text)

end Cidr

end HostOverlay
