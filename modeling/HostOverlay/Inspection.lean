import HostOverlay.Address.Cidr
import HostOverlay.Failure
import HostOverlay.Journal.Event

/-!
# Inspection of network interfaces

The agent asks whether a bridge already carries an address from the subnet that a network declares.
It answers from the operating system's listing of interface addresses: yes if one of the networks
of the interface contains the address of the subnet. Only the IPv4 entries of the listing count.
Several things can be wrong at once; the listing is looked at first, then the name, then the
addresses of the interface, and the subnet last.
-/

namespace HostOverlay

/-- The family of a listed address. -/
inductive Family where
  /-- IPv4. -/
  | inet
  /-- IPv6. -/
  | inet6
  /-- The link layer. -/
  | packet
deriving DecidableEq, Repr

/-- One address in the listing of an interface. -/
structure ListedAddress where
  /-- The family of the address. -/
  family : Family
  /-- The text of the address. -/
  address : String
  /-- The text of the net mask, if the listing has one. -/
  netmask : Option String := none
deriving DecidableEq, Repr

/-- The operating system's listing: the addresses of each interface, by name. -/
abbrev Listing := Table String (List ListedAddress)

/-- Why an inspection fails. -/
inductive InspectionError where
  /-- The operating system could not list the addresses. -/
  | unlisted (interface : String) (cause : Failure)
  /-- The listing failed in another way. -/
  | failed (cause : Failure)
  /-- There is no interface of this name. -/
  | noInterface (name : String)
  /-- An address of the interface or its mask is malformed. -/
  | badAddress (cause : Cidr.Malformed)
  /-- The subnet is malformed. -/
  | badSubnet (subnet : String) (cause : Cidr.Malformed)
deriving DecidableEq, Repr

namespace InspectionError

/-- The message of a failed inspection. -/
def message : InspectionError → String
  | unlisted interface cause =>
    "Failed to list addresses of " ++ interface ++ ": " ++ cause.message
  | failed cause => cause.message
  | noInterface name => "Interface not found: " ++ name
  | badAddress cause => cause.message
  | badSubnet subnet cause => "Invalid subnet " ++ Text.quoted subnet ++ ": " ++ cause.message

/-- What a failed inspection reports. -/
def events : InspectionError → List Event
  | badSubnet subnet _ => [.subnetRejected subnet]
  | unlisted .. | failed _ | noInterface _ | badAddress _ => []

end InspectionError

namespace Inspection

/-- The mask that a listed address has if the listing gives none or an empty one. -/
def hostMask : String := "255.255.255.255"

/-- The mask text that counts for a listed address. -/
def maskText (entry : ListedAddress) : String :=
  match entry.netmask with
  | none => hostMask
  | some netmask => if netmask = "" then hostMask else netmask

/-- The network of a listed address. -/
def blockOf (entry : ListedAddress) : Except Cidr.Malformed Block :=
  (Cidr.read (entry.address ++ "/" ++ maskText entry)).map Cidr.block

/-- The listed addresses of an interface. -/
def addresses (listing : Except Failure Listing) (interface : String) :
    Except InspectionError (List ListedAddress) :=
  match listing with
  | .error cause =>
    .error (if cause.isSystem then .unlisted interface cause else .failed cause)
  | .ok table =>
    match Table.get? table interface with
    | none => .error (.noInterface interface)
    | some entries => .ok entries

/-- The networks of an interface, one for each of its IPv4 entries. -/
def blocks (listing : Except Failure Listing) (interface : String) :
    Except InspectionError (List Block) := do
  let entries ← addresses listing interface
  ((entries.filter fun entry => entry.family = .inet).mapM blockOf).mapError .badAddress

/-- Whether a network of an interface contains the address of a subnet. -/
def hasAddressIn (listing : Except Failure Listing) (interface subnet : String) :
    Except InspectionError Bool := do
  let networks ← blocks listing interface
  let address ← (Cidr.readAddress subnet).mapError (.badSubnet subnet)
  return networks.any fun network => network.contains address

/-- What an inspection reports. -/
def events {α : Type} : Except InspectionError α → List Event
  | .ok _ => []
  | .error cause => cause.events

end Inspection

end HostOverlay
