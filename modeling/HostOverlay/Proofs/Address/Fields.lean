import HostOverlay.Address.IPv6
import HostOverlay.Proofs.Positional

/-!
# Addresses and their fields

The octets of an IPv4 address are its digits to base 256, and the groups of an IPv6 address are its
digits to base 65536. So an address is made up by its fields (`IPv4.ofOctets_octets`,
`IPv6.ofGroups_groups`), and fields of the right number and size are those of the address that they
make up (`IPv4.octets_ofOctets`, `IPv6.groups_ofGroups`).
-/

namespace HostOverlay.Address

/-- Digits of a number below a power of two make up its bits. -/
theorem ofNat_value_digits {width base count : Nat} (hw : base ^ count = 2 ^ width)
    (bits : BitVec width) :
    BitVec.ofNat width (Positional.value base (Positional.digits base count bits.toNat)) = bits := by
  rw [Positional.value_digits, hw, Nat.mod_eq_of_lt bits.isLt, BitVec.ofNat_toNat,
    BitVec.setWidth_eq]

/-- Bits made up by digits have these digits. -/
theorem digits_ofNat_value {width base : Nat} {fields : List Nat}
    (hw : base ^ fields.length = 2 ^ width) (h : ∀ field ∈ fields, field < base) :
    Positional.digits base fields.length
      (BitVec.ofNat width (Positional.value base fields)).toNat = fields := by
  have hlt : Positional.value base fields < 2 ^ width := hw ▸ Positional.value_lt h
  rw [BitVec.toNat_ofNat, Nat.mod_eq_of_lt hlt, Positional.digits_value h]

namespace IPv4

/-- The octets of an address are its digits to base 256. -/
theorem octets_eq_digits (address : BitVec 32) :
    octets address = Positional.digits 256 4 address.toNat := by
  simp [octets, Positional.digits, BitVec.extractLsb'_toNat, Nat.shiftRight_eq_div_pow,
    Nat.div_div_eq_div_mul]

/-- There are four octets. -/
theorem length_octets (address : BitVec 32) : (octets address).length = 4 := rfl

/-- An octet is at most 255. -/
theorem le_of_mem_octets {address : BitVec 32} {octet : Nat} (h : octet ∈ octets address) :
    octet ≤ 255 := by
  rw [octets_eq_digits] at h
  exact Nat.le_of_lt_succ (Positional.lt_of_mem_digits (by decide) h)

/-- An address is made up by its octets. -/
theorem ofOctets_octets (address : BitVec 32) : ofOctets (octets address) = address := by
  rw [octets_eq_digits]
  exact ofNat_value_digits (by decide) address

/-- Four octets are those of the address that they make up. -/
theorem octets_ofOctets {values : List Nat} (hl : values.length = 4)
    (h : ∀ value ∈ values, value ≤ 255) : octets (ofOctets values) = values := by
  have hpow : 256 ^ values.length = 2 ^ 32 := by
    rw [hl]
    decide
  rw [octets_eq_digits, ← hl]
  exact digits_ofNat_value hpow fun value hv => Nat.lt_succ_of_le (h value hv)

end IPv4

namespace IPv6

/-- The groups of an address are its digits to base 65536. -/
theorem groups_eq_digits (address : BitVec 128) :
    groups address = Positional.digits 65536 8 address.toNat := by
  simp [groups, Positional.digits, BitVec.extractLsb'_toNat, Nat.shiftRight_eq_div_pow,
    Nat.div_div_eq_div_mul]

/-- There are eight groups. -/
theorem length_groups (address : BitVec 128) : (groups address).length = 8 := rfl

/-- A group is below 65536. -/
theorem lt_of_mem_groups {address : BitVec 128} {group : Nat} (h : group ∈ groups address) :
    group < 65536 := by
  rw [groups_eq_digits] at h
  exact Positional.lt_of_mem_digits (by decide) h

/-- An address is made up by its groups. -/
theorem ofGroups_groups (address : BitVec 128) : ofGroups (groups address) = address := by
  rw [groups_eq_digits]
  exact ofNat_value_digits (by decide) address

/-- Eight groups are those of the address that they make up. -/
theorem groups_ofGroups {values : List Nat} (hl : values.length = 8)
    (h : ∀ value ∈ values, value < 65536) : groups (ofGroups values) = values := by
  have hpow : 65536 ^ values.length = 2 ^ 128 := by
    rw [hl]
    decide
  rw [groups_eq_digits, ← hl]
  exact digits_ofNat_value hpow h

end IPv6

end HostOverlay.Address
