/-!
# Address masks

A mask of length `p` has its first `p` bits set and the others clear. Two addresses belong to the
same block exactly when the mask of the block takes them to the same address.
-/

namespace HostOverlay.Address

/-- The mask whose first `length` bits are set. -/
def mask (width length : Nat) : BitVec width := BitVec.allOnes width <<< (width - length)

/-- The length of a mask, if the bits are a mask. -/
def maskLength? {width : Nat} (bits : BitVec width) : Option Nat :=
  (List.range (width + 1)).find? fun length => mask width length == bits

/-- The length that mask bits or their complement have; bits that are both count as a mask. -/
def netOrHostMaskLength? {width : Nat} (bits : BitVec width) : Option Nat :=
  (maskLength? bits).or (maskLength? (~~~bits))

end HostOverlay.Address
