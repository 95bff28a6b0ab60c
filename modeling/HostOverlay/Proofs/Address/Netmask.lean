import HostOverlay.Proofs.Address.Prefix
import HostOverlay.Proofs.Address.Quads

/-!
# Net masks in the place of lengths

An IPv4 address may come with a net mask in the place of its length. The net mask of a length is told
by its number (`Address.IsNetmask`), and it tells its length (`Address.eq_of_mask_eq_mask`). Bits that
are no net mask may be the complement of one, a host mask; bits that are both count as a net mask
(`Address.netOrHostMaskLength?_eq_some_iff`).

The text of an address is never taken for a numeral or for the end of one that has a slash, since it
is made of digits and dots. So an address text with a mask text is read as the address with the length
of the mask (`Cidr.ofText?_netmask`).
-/

namespace HostOverlay

namespace Address

section

variable {width : Nat} {bits : BitVec width}

/-- Whether bits are the net mask of a length, as a number. -/
def IsNetmask (bits : BitVec width) (length : Nat) : Prop :=
  length ≤ width ∧ bits.toNat = 2 ^ width - 2 ^ (width - length)

/-- Whether bits stand for a length: as its net mask, or, if they are no net mask, as the complement
of its net mask. -/
def StandsFor (bits : BitVec width) (length : Nat) : Prop :=
  IsNetmask bits length ∨ (∀ other, ¬ IsNetmask bits other) ∧ IsNetmask (~~~bits) length

/-- A mask tells its length. -/
theorem eq_of_mask_eq_mask {a b : Nat} (ha : a ≤ width) (hb : b ≤ width)
    (h : mask width a = mask width b) : a = b := by
  have hbit (i : Nat) : i < a ∧ i < width ↔ i < b ∧ i < width := by
    rw [← decide_eq_decide, Bool.decide_and, Bool.decide_and, ← getMsbD_mask, ← getMsbD_mask, h]
  have hab := hbit a
  have hba := hbit b
  omega

/-- The number of a mask. -/
theorem toNat_mask {length : Nat} (h : length ≤ width) :
    (mask width length).toNat = 2 ^ width - 2 ^ (width - length) := by
  have hpos : 0 < 2 ^ (width - length) := Nat.two_pow_pos _
  have hle : 2 ^ (width - length) ≤ 2 ^ width := Nat.pow_le_pow_right (by decide) (by omega)
  -- What is shifted out is a multiple of the power of the width.
  have hsplit : (2 ^ width - 1) * 2 ^ (width - length) =
      2 ^ width * (2 ^ (width - length) - 1) + (2 ^ width - 2 ^ (width - length)) := by
    rw [Nat.sub_mul, Nat.mul_sub, Nat.one_mul, Nat.mul_one]
    have := Nat.mul_le_mul_left (2 ^ width) hpos
    omega
  rw [mask, BitVec.toNat_shiftLeft, BitVec.toNat_allOnes, Nat.shiftLeft_eq, hsplit,
    Nat.mul_add_mod, Nat.mod_eq_of_lt (by omega)]

/-- The net mask of a length has the first bits set, as many as the length says. -/
theorem isNetmask_iff {length : Nat} :
    IsNetmask bits length ↔ length ≤ width ∧ bits = mask width length := by
  refine and_congr_right fun hl => ?_
  rw [← toNat_mask hl, BitVec.toNat_inj]

/-- The length of a mask is found. -/
theorem maskLength?_mask {length : Nat} (h : length ≤ width) :
    maskLength? (mask width length) = some length := by
  rw [maskLength?, List.find?_range_eq_some]
  refine ⟨beq_self_eq_true _, List.mem_range.mpr (by omega), fun shorter hlt => ?_⟩
  rw [Bool.not_eq_true', beq_eq_false_iff_ne]
  intro heq
  have := eq_of_mask_eq_mask (by omega) h heq
  omega

/-- The length that is found for bits is that of which they are the net mask. -/
theorem maskLength?_eq_some_iff {length : Nat} :
    maskLength? bits = some length ↔ IsNetmask bits length := by
  rw [isNetmask_iff]
  constructor
  · intro h
    obtain ⟨hmask, hmem, -⟩ := List.find?_range_eq_some.mp h
    exact ⟨Nat.le_of_lt_succ (List.mem_range.mp hmem), (eq_of_beq hmask).symm⟩
  · rintro ⟨hl, rfl⟩
    exact maskLength?_mask hl

/-- The length of a net mask or a host mask is the one that the bits stand for. -/
theorem netOrHostMaskLength?_eq_some_iff {length : Nat} :
    netOrHostMaskLength? bits = some length ↔ StandsFor bits length := by
  have hnone : maskLength? bits = none ↔ ∀ other, ¬ IsNetmask bits other := by
    simp only [Option.eq_none_iff_forall_ne_some, Ne, maskLength?_eq_some_iff]
  rw [netOrHostMaskLength?, Option.or_eq_some_iff, hnone, maskLength?_eq_some_iff,
    maskLength?_eq_some_iff, StandsFor]

/-- Bits stand for a length exactly if they or their complement are a net mask. -/
theorem exists_standsFor_iff :
    (∃ length, StandsFor bits length) ↔
      ∃ length, IsNetmask bits length ∨ IsNetmask (~~~bits) length := by
  constructor
  · rintro ⟨length, h | ⟨-, h⟩⟩
    · exact ⟨length, Or.inl h⟩
    · exact ⟨length, Or.inr h⟩
  · rintro ⟨length, h | h⟩
    · exact ⟨length, Or.inl h⟩
    · by_cases hn : ∃ other, IsNetmask bits other
      · obtain ⟨other, ho⟩ := hn
        exact ⟨other, Or.inl ho⟩
      · exact ⟨length, Or.inr ⟨not_exists.mp hn, h⟩⟩

end

end Address

namespace Cidr

/-- Whether a text is the numeral of a prefix length of addresses of a width. -/
structure WritesLength (width : Nat) (cs : List Char) (length : Nat) : Prop where
  /-- The text is a decimal numeral. -/
  numeral : Text.WritesDecimal cs length
  /-- No more bits are shared than there are. -/
  le : length ≤ width

/-- Whether a text is the numeral of a prefix length of IPv4 addresses, or a mask that stands for it. -/
def WritesLengthOrMask (cs : List Char) (length : Nat) : Prop :=
  WritesLength 32 cs length ∨ ∃ bits, Address.IPv4.Writes cs bits ∧ Address.StandsFor bits length

/-- The digits of a prefix length are its numeral. -/
theorem writesLength_toDigits {width length : Nat} (h : length ≤ width) :
    WritesLength width (Nat.toDigits 10 length) length :=
  ⟨Text.writesDecimal_toDigits length, h⟩

/-- A numeral has no slash. -/
theorem WritesLength.slash_not_mem {width length : Nat} {cs : List Char}
    (h : WritesLength width cs length) : '/' ∉ cs :=
  fun hs => absurd (h.numeral.isDigit '/' hs) (by decide)

/-- The digits of a prefix length are few enough to be read. -/
theorem length_toDigits_le {length : Nat} (h : length ≤ 128) :
    (Nat.toDigits 10 length).length ≤ maxDigits := by
  have hthree : (Nat.toDigits 10 length).length ≤ 3 :=
    (Nat.length_toDigits_le_iff (by decide) (by decide)).mpr (by omega)
  exact hthree.trans (by decide)

/-- The numeral of a prefix length is read as the length if it is short enough, and nothing else is
read. -/
theorem length?_eq_some_iff {width length : Nat} {cs : List Char} :
    length? width cs = some length ↔ cs.length ≤ maxDigits ∧ WritesLength width cs length := by
  rw [length?]
  constructor
  · intro h
    split_ifs at h with hcs
    rw [Option.filter_eq_some_iff, Text.decimal?_eq_some_iff, decide_eq_true_eq] at h
    exact ⟨hcs, h.1, h.2⟩
  · rintro ⟨hcs, hnumeral, hle⟩
    rw [if_pos hcs, Option.filter_eq_some_iff, Text.decimal?_eq_some_iff, decide_eq_true_eq]
    exact ⟨hnumeral, hle⟩

/-- A dotted quad is not read as the numeral of a length. -/
theorem length?_of_writes {width : Nat} {cs : List Char} {bits : BitVec 32}
    (h : Address.IPv4.Writes cs bits) : length? width cs = none := by
  rw [Option.eq_none_iff_forall_ne_some]
  intro length hl
  exact h.not_writesDecimal length (length?_eq_some_iff.mp hl).2.numeral

/-- A text of moderate length is read as the length of which it is the numeral, or for which the mask
that it writes stands. -/
theorem lengthOrMask?_eq_some_iff {cs : List Char} (hcs : cs.length ≤ maxDigits) {length : Nat} :
    lengthOrMask? cs = some length ↔ WritesLengthOrMask cs length := by
  have hmask : (Address.IPv4.ofText? cs).bind Address.netOrHostMaskLength? = some length ↔
      ∃ bits, Address.IPv4.Writes cs bits ∧ Address.StandsFor bits length := by
    simp only [Option.bind_eq_some_iff, Address.IPv4.ofText?_eq_some_iff,
      Address.netOrHostMaskLength?_eq_some_iff]
  rw [lengthOrMask?, Option.or_eq_some_iff, hmask, length?_eq_some_iff, WritesLengthOrMask]
  constructor
  · rintro (⟨-, h⟩ | ⟨-, h⟩)
    · exact Or.inl h
    · exact Or.inr h
  · rintro (h | ⟨bits, hw, h⟩)
    · exact Or.inl ⟨hcs, h⟩
    · exact Or.inr ⟨length?_of_writes hw, bits, hw, h⟩

/-- An address text with a mask text is read as the address with the length of the mask. -/
theorem ofText?_netmask {address netmask : List Char} {bits : BitVec 32} {length : Nat}
    (ha : Address.IPv4.ofText? address = some bits)
    (hm : Address.IPv4.ofText? netmask = some (Address.mask 32 length)) (hl : length ≤ 32) :
    ofText? (address ++ '/' :: netmask) = some { address := .v4 bits, length } := by
  have hparts : (address ++ '/' :: netmask).splitOn '/' = [address, netmask] :=
    Text.splitOn_eq_pair_iff.mpr ⟨(Address.IPv4.ofText?_eq_some_iff.mp ha).slash_not_mem,
      (Address.IPv4.ofText?_eq_some_iff.mp hm).slash_not_mem, rfl⟩
  have hlength : lengthOrMask? netmask = some length := by
    rw [lengthOrMask?, length?_of_writes (Address.IPv4.ofText?_eq_some_iff.mp hm), hm]
    simp [Address.netOrHostMaskLength?, Address.maskLength?_mask hl]
  rw [ofText?, hparts]
  simp [ofIPv4?, ha, hlength]

end Cidr

end HostOverlay
