import HostOverlay.Proofs.Address.Netmask
import HostOverlay.Proofs.Inspection.Decision

/-!
# When an inspection tells that an address lies in the subnet

An inspection does not look for an address of the interface in the subnet. It looks for the address of
the subnet in the networks of the interface, so for an IPv4 subnet it tells whether the interface
carries an address that agrees with that of the subnet on the bits of its own network
(`Inspection.exists_block_contains_v4_iff`). The two questions come to the same if the networks are as long as
the subnet. If they are longer a yes is right, and if they are shorter a no is
(`Inspection.hasAddressIn_agrees`).
-/

namespace HostOverlay.Inspection

/-- Whether an IPv4 entry among those of an interface is read as this address with this length. -/
def Carries (entries : List ListedAddress) (bits : BitVec 32) (length : Nat) : Prop :=
  ∃ entry ∈ entries, entry.family = .inet ∧
    cidr? entry = some { address := .v4 bits, length }

/-- Whether all IPv4 entries among those of an interface are read as IPv4 addresses. -/
def AreIPv4 (entries : List ListedAddress) : Prop :=
  ∀ entry ∈ entries, entry.family = .inet →
    ∃ bits length, cidr? entry = some { address := .v4 bits, length }

/-- Whether an IPv4 address of an interface lies in a subnet. -/
def HasMember (entries : List ListedAddress) (subnet : Block) : Prop :=
  ∃ bits length, Carries entries bits length ∧ subnet.contains (.v4 bits) = true

/-- An entry with the texts of an address and of a net mask is read as the address with the length of
the mask. -/
theorem cidr?_of_netmask {entry : ListedAddress} {bits : BitVec 32} {length : Nat}
    (ha : Address.IPv4.ofText? entry.address.toList = some bits)
    (hm : Address.IPv4.ofText? (maskText entry).toList = some (Address.mask 32 length))
    (hl : length ≤ 32) : cidr? entry = some { address := .v4 bits, length } := by
  have htext : (entryText entry).toList = entry.address.toList ++ '/' :: (maskText entry).toList := by
    simp [entryText]
  rw [cidr?, htext, Cidr.ofText?_netmask ha hm hl]

/-- Entries that are read as IPv4 addresses can be read. -/
theorem AreIPv4.areReadable {entries : List ListedAddress} (h : AreIPv4 entries) :
    AreReadable entries := by
  intro entry hm hf
  obtain ⟨bits, length, hc⟩ := h entry hm hf
  exact ⟨_, hc⟩

variable {entries : List ListedAddress}

/-- The network of an IPv4 entry contains an IPv4 address if the interface carries an address that
agrees with it on the bits of the network. -/
theorem exists_block_contains_v4_iff (h : AreIPv4 entries) (other : BitVec 32) :
    (∃ entry ∈ entries, entry.family = .inet ∧
        ∃ listed, cidr? entry = some listed ∧ listed.block.contains (.v4 other) = true) ↔
      ∃ bits length, Carries entries bits length ∧ Address.AgreeOn length bits other := by
  constructor
  · rintro ⟨entry, hm, hf, listed, hl, hc⟩
    obtain ⟨bits, length, hread⟩ := h entry hm hf
    obtain rfl : listed = _ := Option.some.inj (hl.symm.trans hread)
    exact ⟨bits, length, ⟨entry, hm, hf, hread⟩, (Cidr.contains_block_v4_iff.mp hc).symm⟩
  · rintro ⟨bits, length, ⟨entry, hm, hf, hread⟩, hagree⟩
    exact ⟨entry, hm, hf, _, hread, Cidr.contains_block_v4_iff.mpr hagree.symm⟩

/-- The network of an IPv4 entry contains no IPv6 address. -/
theorem not_exists_block_contains_v6 (h : AreIPv4 entries) (other : BitVec 128) :
    ¬ ∃ entry ∈ entries, entry.family = .inet ∧
        ∃ listed, cidr? entry = some listed ∧ listed.block.contains (.v6 other) = true := by
  rintro ⟨entry, hm, hf, listed, hl, hc⟩
  obtain ⟨bits, length, hread⟩ := h entry hm hf
  obtain rfl : listed = _ := Option.some.inj (hl.symm.trans hread)
  rw [Cidr.contains_block_v4_v6] at hc
  cases hc

/-- An address of the interface lies in an IPv4 subnet if it agrees with that of the subnet on the bits
of the subnet. -/
theorem hasMember_iff {subnet : BitVec 32} {length : Nat} {zone : Option String} :
    HasMember entries (Cidr.block ⟨.v4 subnet, length, zone⟩) ↔
      ∃ bits own, Carries entries bits own ∧ Address.AgreeOn length bits subnet := by
  simp only [HasMember, Cidr.contains_block_v4_iff]

/-- An interface that carries an address which agrees with another on some bits carries one which
agrees on fewer, where the length of the network may say how many. -/
theorem exists_agreeOn_of_le {other : BitVec 32} {count count' : Nat → Nat}
    (hle : ∀ bits length, Carries entries bits length → count' length ≤ count length)
    (h : ∃ bits length, Carries entries bits length ∧ Address.AgreeOn (count length) bits other) :
    ∃ bits length, Carries entries bits length ∧ Address.AgreeOn (count' length) bits other := by
  obtain ⟨bits, length, hc, hagree⟩ := h
  exact ⟨bits, length, hc, hagree.mono (hle bits length hc)⟩

/-- An inspection of an interface whose IPv4 entries are read as IPv4 addresses has an answer for every
subnet that can be read. For an IPv4 subnet it is yes if an address of the interface agrees with that
of the subnet on the bits of its own network. So a yes is right if the networks are at least as long as
the subnet, a no is right if they are at most as long, and both are if they are as long. For an IPv6
subnet the answer is no. -/
theorem hasAddressIn_agrees {table : Listing} {interface subnet : String} {cidr : Cidr}
    (hi : Table.get? table interface = some entries) (hentries : AreIPv4 entries)
    (hsubnet : Cidr.ofText? subnet.toList = some cidr) :
    ∃ answer, hasAddressIn (.ok table) interface subnet = .ok answer ∧
      (∀ address length zone, cidr = ⟨.v4 address, length, zone⟩ →
        (answer = true ↔
          ∃ bits own, Carries entries bits own ∧ Address.AgreeOn own bits address) ∧
        ((∀ bits own, Carries entries bits own → length ≤ own) →
          answer = true → HasMember entries cidr.block) ∧
        ((∀ bits own, Carries entries bits own → own ≤ length) →
          HasMember entries cidr.block → answer = true) ∧
        ((∀ bits own, Carries entries bits own → own = length) →
          (answer = true ↔ HasMember entries cidr.block))) ∧
      (∀ address length zone, cidr = ⟨.v6 address, length, zone⟩ → answer = false) := by
  refine ⟨decide (∃ entry ∈ entries, entry.family = .inet ∧
    ∃ listed, cidr? entry = some listed ∧ listed.block.contains cidr.address = true),
    (decides_iff.mp (.answered rfl hi hentries.areReadable hsubnet decide_eq_true_iff)).symm, ?_, ?_⟩
  · rintro address length zone rfl
    rw [decide_eq_true_iff, exists_block_contains_v4_iff hentries, hasMember_iff]
    refine ⟨Iff.rfl, exists_agreeOn_of_le, exists_agreeOn_of_le, fun hequal => ⟨?_, ?_⟩⟩
    · exact exists_agreeOn_of_le fun bits own hc => Nat.le_of_eq (hequal bits own hc).symm
    · exact exists_agreeOn_of_le fun bits own hc => Nat.le_of_eq (hequal bits own hc)
  · rintro address length zone rfl
    exact decide_eq_false (not_exists_block_contains_v6 hentries address)

/-- The entries of a bridge with one IPv4 address, whose network has 16 bits. -/
def bridged : List ListedAddress :=
  [⟨.inet6, "fe80::1", none⟩, ⟨.inet, "10.42.0.1", some "255.255.0.0"⟩]

/-- The IPv4 entry of the bridge is read with the length of its mask. -/
theorem cidr?_bridged : cidr? ⟨.inet, "10.42.0.1", some "255.255.0.0"⟩ =
    some ⟨.v4 0x0a2a0001#32, 16, none⟩ :=
  cidr?_of_netmask (by decide) (by decide) (by decide)

/-- The bridge carries its one IPv4 address, and no other. -/
theorem carries_bridged_iff {bits : BitVec 32} {length : Nat} :
    Carries bridged bits length ↔ bits = 0x0a2a0001#32 ∧ length = 16 := by
  simp [Carries, bridged, cidr?_bridged, eq_comm]

/-- An inspection of the bridge says yes to another address of its network, whose subnet has the address
of the bridge in it, and no to an IPv6 subnet. -/
theorem hasAddressIn_agrees_bridged :
    hasAddressIn (.ok [("br-lab", bridged)]) "br-lab" "10.42.7.9/16" = .ok true ∧
      HasMember bridged (Cidr.block ⟨.v4 0x0a2a0709#32, 16, none⟩) ∧
      hasAddressIn (.ok [("br-lab", bridged)]) "br-lab" "fe80::1/64" = .ok false := by
  have hi : Table.get? [("br-lab", bridged)] "br-lab" = some bridged := rfl
  have hentries : AreIPv4 bridged := by
    simp [AreIPv4, bridged, cidr?_bridged]
  have hv4 : Cidr.ofText? "10.42.7.9/16".toList = some ⟨.v4 0x0a2a0709#32, 16, none⟩ := by decide
  have hv6 : Cidr.ofText? "fe80::1/64".toList =
      some ⟨.v6 0xfe800000000000000000000000000001#128, 64, none⟩ := by decide
  have hagree : Address.AgreeOn 16 0x0a2a0001#32 0x0a2a0709#32 := by
    unfold Address.AgreeOn
    decide
  obtain ⟨yes, hyes, hanswer, -⟩ := hasAddressIn_agrees hi hentries hv4
  obtain ⟨no, hno, -, hrefused⟩ := hasAddressIn_agrees hi hentries hv6
  obtain ⟨hiff, -, -, hequal⟩ := hanswer _ _ _ rfl
  obtain rfl := hiff.mpr ⟨_, _, carries_bridged_iff.mpr ⟨rfl, rfl⟩, hagree⟩
  obtain rfl := hrefused _ _ _ rfl
  have hmember := (hequal fun bits own hc => (carries_bridged_iff.mp hc).2).mp rfl
  exact ⟨hyes, hmember, hno⟩

end HostOverlay.Inspection
