import HostOverlay.Proofs.Address.Acceptance
import HostOverlay.Proofs.Address.Compression

/-!
# Printed addresses are read back

An address that is printed, with a slash and the numeral of any length that its version allows, is
read as the same address (`Cidr.readAddress_written`). The printed text of an IPv4 address is its
dotted quad, and that of an IPv6 address its compressed text, so two addresses never have the same
printed text.

The reader is not run on the printed text. The text writes the address, and the reader accepts what a
text writes (`Cidr.ofText?_append_iff`).
-/

namespace HostOverlay

namespace Address

/-- The number of bits of an address. -/
def width : Address → Nat
  | v4 _ => 32
  | v6 _ => 128

/-- The printed text of an address writes it. -/
theorem writes_printed (address : Address) : Writes address.toText address := by
  cases address with
  | v4 bits => exact .v4 (IPv4.writes_toText bits)
  | v6 bits => exact .v6 (IPv6.writes_toText bits)

end Address

namespace Cidr

/-- The text of an address with a slash and the numeral of a length behind it. -/
def written (address : List Char) (length : Nat) : String :=
  String.ofList (address ++ '/' :: Nat.toDigits 10 length)

variable {text : List Char} {address : Address} {length : Nat}

/-- The digits of a length that an address allows are a text for its length. -/
theorem writesLengthOf_toDigits (hl : length ≤ address.width) :
    WritesLengthOf address (Nat.toDigits 10 length) length := by
  cases address with
  | v4 bits => exact Or.inl (writesLength_toDigits hl)
  | v6 bits => exact writesLength_toDigits hl

/-- An address behind whose text any length stands that it allows is read. -/
theorem readAddress_of_writes (h : Address.Writes text address) (hl : length ≤ address.width) :
    readAddress (written text length) = .ok address := by
  have hwide : address.width ≤ 128 := by
    cases address <;> simp [Address.width]
  have hslash : '/' ∉ Nat.toDigits 10 length := (writesLength_toDigits hl).slash_not_mem
  rw [readAddress_eq_ok_iff, written, String.toList_ofList]
  refine ⟨⟨address, length, none⟩, ?_, rfl⟩
  rw [ofText?_append_iff (length_toDigits_le (hl.trans hwide)) h.not_mem.1 hslash]
  exact ⟨.plain h, writesLengthOf_toDigits hl⟩

/-- The dotted quad of an IPv4 address and the compressed text of an IPv6 address are read back, with
any length that the version allows. The compressed text is the one that is printed, so the address of
any text that is accepted is read back from its printed text, and addresses that are not the same are
printed as texts that are not the same. -/
theorem readAddress_written :
    (∀ (bits : BitVec 32), ∀ length ≤ 32,
      readAddress (written (Address.IPv4.toText bits) length) = .ok (.v4 bits)) ∧
    (∀ (bits : BitVec 128) (text : List Char), Address.IPv6.Compresses bits text →
      ∀ length ≤ 128, readAddress (written text length) = .ok (.v6 bits)) ∧
    (∀ (bits : BitVec 128) (text : List Char),
      Address.IPv6.Compresses bits text ↔ text = (Address.v6 bits).toText) ∧
    (∀ (subnet : String) (address : Address), readAddress subnet = .ok address →
      ∀ length ≤ address.width, readAddress (written address.toText length) = .ok address) ∧
    ∀ address address' : Address, address.toText = address'.toText → address = address' := by
  refine ⟨fun bits length hl => ?_, fun bits text hc length hl => ?_,
    fun bits text => Address.IPv6.compresses_iff, fun subnet address _ length hl => ?_,
    fun address address' heq => ?_⟩
  · exact readAddress_of_writes (.v4 (Address.IPv4.writes_toText bits)) hl
  · rw [Address.IPv6.compresses_iff.mp hc]
    exact readAddress_of_writes (.v6 (Address.IPv6.writes_toText bits)) hl
  · exact readAddress_of_writes address.writes_printed hl
  · -- One text would write both.
    exact address.writes_printed.eq (heq ▸ address'.writes_printed)

/-- The address of a text with an embedded dotted quad and a zone is read back from its printed text,
which has neither. -/
theorem readAddress_written_mapped :
    readAddress (written (Address.v6 0xffff01020304#128).toText 0) = .ok (.v6 0xffff01020304#128) ∧
      (Address.v6 0xffff01020304#128).toText = "::ffff:102:304".toList := by
  have hread : readAddress "::ffff:1.2.3.4%br0/96" = .ok (.v6 0xffff01020304#128) := by decide
  obtain ⟨-, -, -, hback, -⟩ := readAddress_written
  exact ⟨hback _ _ hread 0 (by decide), by decide⟩

end Cidr

end HostOverlay
