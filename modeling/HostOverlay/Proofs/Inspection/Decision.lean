import HostOverlay.Agent.Basic
import HostOverlay.Proofs.Address.Rejection
import HostOverlay.Proofs.Inspection.Blocks

/-!
# What decides an inspection

Several things may be wrong with an inspection at once, and the first of them decides: that there is
no listing, that the interface is not in it, that one of its IPv4 entries is malformed, and that the
subnet is. If nothing is wrong there is an answer. `Inspection.Decides` lists the cases, each with
what has to be in order before it comes to that, and `Inspection.decides_iff` says that an inspection
keeps to the list. A rejected subnet is reported, and nothing else is (`Agent.inspect_decides`).
-/

namespace HostOverlay

namespace Inspection

/-- Whether all IPv4 entries among those of an interface can be read. -/
def AreReadable (entries : List ListedAddress) : Prop :=
  ∀ entry ∈ entries, entry.family = .inet → ∃ cidr, cidr? entry = some cidr

/-- What an inspection comes to, by the first thing that decides it. -/
inductive Decides (listing : Except Failure Listing) (interface subnet : String) :
    Except InspectionError Bool → Prop
  /-- The listing took too long, which is a failure of the operating system. -/
  | timeout {text : String} (hl : listing = .error (.timeout text)) :
    Decides listing interface subnet (.error (.unlisted interface (.timeout text)))
  /-- The operating system failed to list the addresses. -/
  | system {number : Option Int} {text : String} (hl : listing = .error (.system number text)) :
    Decides listing interface subnet (.error (.unlisted interface (.system number text)))
  /-- The listing failed in another way. -/
  | failed {cause : Failure} (hl : listing = .error cause) (ht : ∀ text, cause ≠ .timeout text)
      (hs : ∀ number text, cause ≠ .system number text) :
    Decides listing interface subnet (.error (.failed cause))
  /-- There is a listing, but no interface of this name. -/
  | noInterface {table : Listing} (hl : listing = .ok table)
      (hi : Table.get? table interface = none) :
    Decides listing interface subnet (.error (.noInterface interface))
  /-- The interface is listed, but an IPv4 entry of it is malformed; this is the first such entry. -/
  | badAddress {table : Listing} {before after : List ListedAddress} {entry : ListedAddress}
      (hl : listing = .ok table)
      (hi : Table.get? table interface = some (before ++ entry :: after))
      (hbefore : AreReadable before) (hf : entry.family = .inet) (hbad : cidr? entry = none) :
    Decides listing interface subnet (.error (.badAddress (.noAddress (entryText entry))))
  /-- The interface is in order, but the subnet is rejected. -/
  | badSubnet {table : Listing} {entries : List ListedAddress} {cause : Cidr.Malformed}
      (hl : listing = .ok table) (hi : Table.get? table interface = some entries)
      (hgood : AreReadable entries) (hbad : Cidr.Rejects subnet cause) :
    Decides listing interface subnet (.error (.badSubnet subnet cause))
  /-- Everything is in order, and the answer is whether the network of an IPv4 entry contains the
  address of the subnet. -/
  | answered {table : Listing} {entries : List ListedAddress} {cidr : Cidr} {answer : Bool}
      (hl : listing = .ok table) (hi : Table.get? table interface = some entries)
      (hgood : AreReadable entries) (hsubnet : Cidr.ofText? subnet.toList = some cidr)
      (ha : answer = true ↔ ∃ entry ∈ entries, entry.family = .inet ∧
        ∃ listed, cidr? entry = some listed ∧ listed.block.contains cidr.address = true) :
    Decides listing interface subnet (.ok answer)

/-- Entries can be read if none of them is malformed. -/
theorem areReadable_iff {entries : List ListedAddress} :
    AreReadable entries ↔ entries.find? isMalformed = none := by
  rw [List.find?_eq_none]
  refine forall₂_congr fun entry _ => ?_
  rw [isMalformed_iff, not_and, ← ne_eq, Option.ne_none_iff_exists']

/-- Entries can be read, or there is a first one that cannot. -/
theorem areReadable_or_exists (entries : List ListedAddress) :
    AreReadable entries ∨ ∃ before entry after, entries = before ++ entry :: after ∧
      AreReadable before ∧ entry.family = .inet ∧ cidr? entry = none := by
  cases h : entries.find? isMalformed with
  | none => exact Or.inl (areReadable_iff.mpr h)
  | some entry =>
    obtain ⟨hm, before, after, he, hbefore⟩ := List.find?_eq_some_iff_append.mp h
    obtain ⟨hf, hbad⟩ := isMalformed_iff.mp hm
    refine Or.inr ⟨before, entry, after, he, ?_, hf, hbad⟩
    exact areReadable_iff.mpr (List.find?_eq_none.mpr fun other ho => by simpa using hbefore other ho)

variable {listing : Except Failure Listing} {interface subnet : String}

/-- Something decides every inspection. -/
theorem exists_decides (listing : Except Failure Listing) (interface subnet : String) :
    ∃ outcome, Decides listing interface subnet outcome := by
  cases listing with
  | error cause =>
    cases cause with
    | timeout text => exact ⟨_, .timeout rfl⟩
    | system number text => exact ⟨_, .system rfl⟩
    | _ => exact ⟨_, .failed rfl (by simp) (by simp)⟩
  | ok table =>
    cases hi : Table.get? table interface with
    | none => exact ⟨_, .noInterface rfl hi⟩
    | some entries =>
      rcases areReadable_or_exists entries with hgood | ⟨before, entry, after, rfl, hbefore, hf, hbad⟩
      · rcases Cidr.exists_ofText?_or_rejects subnet with ⟨cidr, hsubnet⟩ | ⟨cause, hbad⟩
        · exact ⟨.ok (decide _), .answered rfl hi hgood hsubnet decide_eq_true_iff⟩
        · exact ⟨_, .badSubnet rfl hi hgood hbad⟩
      · exact ⟨_, .badAddress rfl hi hbefore hf hbad⟩

/-- A failure to find the networks is the failure of the inspection, whatever the subnet. -/
theorem hasAddressIn_of_blocks_eq_error {cause : InspectionError}
    (h : blocks listing interface = .error cause) (subnet : String) :
    hasAddressIn listing interface subnet = .error cause := by
  rw [hasAddressIn, h]
  rfl

/-- Once the networks are found, the subnet decides. -/
theorem hasAddressIn_of_blocks_eq_ok {networks : List Block}
    (h : blocks listing interface = .ok networks) (subnet : String) :
    hasAddressIn listing interface subnet =
      match Cidr.readAddress subnet with
      | .error cause => .error (.badSubnet subnet cause)
      | .ok address => .ok (networks.any fun network => network.contains address) := by
  rw [hasAddressIn, h]
  cases Cidr.readAddress subnet <;> rfl

/-- An interface that is in order has the networks of its IPv4 entries. -/
theorem blocks_of_areReadable {table : Listing} {entries : List ListedAddress}
    (hi : Table.get? table interface = some entries) (hgood : AreReadable entries) :
    blocks (.ok table) interface =
      .ok ((counted entries).filterMap fun entry => (cidr? entry).map Cidr.block) := by
  rw [blocks_of_get?_eq_some hi, areReadable_iff.mp hgood]

/-- A network among those of an interface contains an address if the network of one of its IPv4
entries does. -/
theorem any_contains_iff {entries : List ListedAddress} {address : Address} :
    (((counted entries).filterMap fun entry => (cidr? entry).map Cidr.block).any
        fun network => network.contains address) = true ↔
      ∃ entry ∈ entries, entry.family = .inet ∧
        ∃ listed, cidr? entry = some listed ∧ listed.block.contains address = true := by
  simp only [counted, List.any_eq_true, List.mem_filterMap, List.mem_filter, decide_eq_true_eq,
    Option.map_eq_some_iff]
  constructor
  · rintro ⟨network, ⟨entry, ⟨hm, hf⟩, listed, hl, rfl⟩, hc⟩
    exact ⟨entry, hm, hf, listed, hl, hc⟩
  · rintro ⟨entry, hm, hf, listed, hl, hc⟩
    exact ⟨listed.block, ⟨entry, ⟨hm, hf⟩, listed, hl, rfl⟩, hc⟩

/-- What decides an inspection decides it as listed. -/
theorem Decides.eq_hasAddressIn {outcome : Except InspectionError Bool}
    (h : Decides listing interface subnet outcome) :
    outcome = hasAddressIn listing interface subnet := by
  symm
  cases h with
  | timeout hl =>
    subst hl
    rfl
  | system hl =>
    subst hl
    rfl
  | @failed cause hl ht hs =>
    subst hl
    have hsystem : cause.isSystem = false := by
      cases cause with
      | timeout text => exact absurd rfl (ht text)
      | system number text => exact absurd rfl (hs number text)
      | _ => rfl
    refine hasAddressIn_of_blocks_eq_error ?_ subnet
    rw [blocks, addresses, hsystem]
    rfl
  | noInterface hl hi =>
    subst hl
    exact hasAddressIn_of_blocks_eq_error (blocks_of_get?_eq_none hi) subnet
  | @badAddress table before after entry hl hi hbefore hf hbad =>
    subst hl
    have hfirst : (before ++ entry :: after).find? isMalformed = some entry := by
      rw [List.find?_append, areReadable_iff.mp hbefore,
        List.find?_cons_of_pos (isMalformed_iff.mpr ⟨hf, hbad⟩)]
      rfl
    refine hasAddressIn_of_blocks_eq_error ?_ subnet
    rw [blocks_of_get?_eq_some hi, hfirst]
  | badSubnet hl hi hgood hbad =>
    subst hl
    rw [hasAddressIn_of_blocks_eq_ok (blocks_of_areReadable hi hgood), hbad.readAddress_eq]
  | @answered table entries cidr answer hl hi hgood hsubnet ha =>
    subst hl
    rw [hasAddressIn_of_blocks_eq_ok (blocks_of_areReadable hi hgood),
      Cidr.readAddress_of_ofText?_eq_some hsubnet]
    refine congrArg Except.ok (Bool.eq_iff_iff.mpr ?_)
    rw [any_contains_iff, ha]

/-- An inspection comes to what decides it first, and to nothing else. -/
theorem decides_iff {outcome : Except InspectionError Bool} :
    Decides listing interface subnet outcome ↔ outcome = hasAddressIn listing interface subnet := by
  constructor
  · exact Decides.eq_hasAddressIn
  · rintro rfl
    obtain ⟨outcome, h⟩ := exists_decides listing interface subnet
    rwa [← h.eq_hasAddressIn]

/-- Nothing but the IPv4 entries under the name of the interface matters to an inspection. -/
theorem hasAddressIn_congr_counted {table table' : Listing}
    (h : (Table.get? table' interface).map counted = (Table.get? table interface).map counted)
    (subnet : String) :
    hasAddressIn (.ok table') interface subnet = hasAddressIn (.ok table) interface subnet := by
  rw [hasAddressIn, hasAddressIn, blocks_congr_counted h]

end Inspection

/-- An inspection comes to what decides it first. If that is the subnet, one error is recorded, and
otherwise the agent stays as it is. In a listing, only the IPv4 entries under the name of the
interface matter. -/
theorem Agent.inspect_decides (agent : Agent) (listing : Except Failure Listing)
    (interface subnet : String) :
    ∃ outcome after, agent.inspect listing interface subnet = (outcome, after) ∧
      (∀ other, Inspection.Decides listing interface subnet other ↔ other = outcome) ∧
      (∀ cause, outcome = .error (.badSubnet subnet cause) →
        (Event.subnetRejected subnet).level = .error ∧
        after = { agent with journal := { agent.journal with
          records := agent.journal.records ++ [.subnetRejected subnet] } }) ∧
      ((∀ cause, outcome ≠ .error (.badSubnet subnet cause)) → after = agent) ∧
      ∀ table table', listing = .ok table →
        (Table.get? table' interface).map Inspection.counted =
          (Table.get? table interface).map Inspection.counted →
        agent.inspect (.ok table') interface subnet = (outcome, after) := by
  refine ⟨_, _, rfl, fun other => Inspection.decides_iff, ?_, ?_, ?_⟩
  · intro cause hcause
    refine ⟨rfl, ?_⟩
    rw [hcause]
    rfl
  · intro hne
    have hdecides := Inspection.decides_iff.mpr
      (Eq.refl (Inspection.hasAddressIn listing interface subnet))
    generalize Inspection.hasAddressIn listing interface subnet = outcome at hne hdecides ⊢
    cases hdecides with
    | badSubnet hl hi hgood hbad => exact absurd rfl (hne _)
    | _ => exact agent.report_nil
  · rintro table table' rfl hsame
    rw [inspect, Inspection.hasAddressIn_congr_counted hsame]

/-- A listing of a bridge with a good and a bad IPv4 entry, and of a tunnel without IPv4 entries. -/
def Listing.crowded : Listing :=
  [("br-lab", [⟨.packet, "02:42:ac", none⟩, ⟨.inet, "10.42.0.1", some "255.255.0.0"⟩,
      ⟨.inet, "10.42.0.300", some ""⟩]),
    ("tun0", [⟨.inet6, "fe80::x", none⟩])]

/-- With a bad subnet, an inspection of the bridge fails with its bad entry and records nothing, and
one of the tunnel fails with the subnet and records the error. -/
theorem Agent.inspect_decides_crowded :
    let agent : Agent := {}
    agent.inspect (.ok .crowded) "br-lab" "10.42.0.0" =
        (.error (.badAddress (.noAddress "10.42.0.300/255.255.255.255")), agent) ∧
      agent.inspect (.ok .crowded) "tun0" "10.42.0.0" =
        (.error (.badSubnet "10.42.0.0" (.noLength "10.42.0.0")),
          { agent with journal := { records := [.subnetRejected "10.42.0.0"] } }) := by
  intro agent
  constructor
  · obtain ⟨outcome, after, he, hdecides, -, hquiet, -⟩ :=
      inspect_decides agent (.ok .crowded) "br-lab" "10.42.0.0"
    have hi : Table.get? Listing.crowded "br-lab" =
        some ([⟨.packet, "02:42:ac", none⟩, ⟨.inet, "10.42.0.1", some "255.255.0.0"⟩] ++
          ⟨.inet, "10.42.0.300", some ""⟩ :: []) := rfl
    have hbefore : Inspection.AreReadable
        [⟨.packet, "02:42:ac", none⟩, ⟨.inet, "10.42.0.1", some "255.255.0.0"⟩] :=
      Inspection.areReadable_iff.mpr (by decide)
    obtain rfl := (hdecides _).mp (.badAddress rfl hi hbefore rfl (by decide))
    rw [he, hquiet (by simp)]
    rfl
  · obtain ⟨outcome, after, he, hdecides, herror, -⟩ :=
      inspect_decides agent (.ok .crowded) "tun0" "10.42.0.0"
    have hi : Table.get? Listing.crowded "tun0" = some [⟨.inet6, "fe80::x", none⟩] := rfl
    have hgood : Inspection.AreReadable [⟨.inet6, "fe80::x", none⟩] :=
      Inspection.areReadable_iff.mpr (by decide)
    obtain rfl := (hdecides _).mp (.badSubnet rfl hi hgood (.noLength (by decide)))
    rw [he, (herror _ rfl).2]
    rfl

end HostOverlay
