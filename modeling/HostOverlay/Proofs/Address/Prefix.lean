import HostOverlay.Address.Cidr

/-!
# Addresses that agree on their first bits

A mask keeps the first bits of an address, so two addresses are the same under a mask exactly if they
agree on as many bits as the mask has set (`Address.and_mask_eq_and_mask_iff`). That is what it means
for a block to contain an address of its version (`Cidr.contains_block_v4_iff`).
-/

namespace HostOverlay

namespace Address

variable {width : Nat}

/-- Whether two addresses agree on their first bits. -/
def AgreeOn (count : Nat) (a b : BitVec width) : Prop :=
  ∀ i < count, a.getMsbD i = b.getMsbD i

/-- Addresses that agree on some bits agree on fewer. -/
theorem AgreeOn.mono {count count' : Nat} {a b : BitVec width} (h : AgreeOn count a b)
    (hle : count' ≤ count) : AgreeOn count' a b := by
  intro i hi
  exact h i (by omega)

/-- Agreement has no direction. -/
theorem AgreeOn.symm {count : Nat} {a b : BitVec width} (h : AgreeOn count a b) :
    AgreeOn count b a := by
  intro i hi
  exact (h i hi).symm

/-- The bits of a mask that are set are the first ones, as many as its length says. -/
theorem getMsbD_mask (width length i : Nat) :
    (mask width length).getMsbD i = (decide (i < length) && decide (i < width)) := by
  rw [mask, BitVec.getMsbD_shiftLeft, BitVec.getMsbD_allOnes]
  rw [← Bool.decide_and, decide_eq_decide]
  omega

/-- Addresses are the same under a mask exactly if they agree on the bits that it keeps. -/
theorem and_mask_eq_and_mask_iff {count : Nat} {a b : BitVec width} :
    a &&& mask width count = b &&& mask width count ↔ AgreeOn count a b := by
  constructor
  · intro h i hi
    by_cases hw : i < width
    · have hbit := congrArg (fun bits => bits.getMsbD i) h
      simpa [BitVec.getMsbD_and, getMsbD_mask, hi, hw] using hbit
    · rw [BitVec.getMsbD_of_ge _ _ (by omega), BitVec.getMsbD_of_ge _ _ (by omega)]
  · intro h
    apply BitVec.eq_of_getMsbD_eq
    intro i hw
    rw [BitVec.getMsbD_and, BitVec.getMsbD_and, getMsbD_mask]
    by_cases hi : i < count
    · rw [h i hi]
    · simp [hi]

end Address

namespace Cidr

/-- The block of an IPv4 address contains the addresses that agree with it on the shared bits. -/
theorem contains_block_v4_iff {bits other : BitVec 32} {length : Nat} {zone : Option String} :
    (block ⟨.v4 bits, length, zone⟩).contains (.v4 other) = true ↔
      Address.AgreeOn length other bits := by
  rw [← Address.and_mask_eq_and_mask_iff]
  simp [block, Block.contains, Address.masked, Address.version]

/-- The block of an IPv4 address contains no IPv6 address. -/
theorem contains_block_v4_v6 (bits : BitVec 32) (length : Nat) (zone : Option String)
    (other : BitVec 128) : (block ⟨.v4 bits, length, zone⟩).contains (.v6 other) = false := by
  simp [block, Block.contains, Address.masked, Address.version]

end Cidr

end HostOverlay
