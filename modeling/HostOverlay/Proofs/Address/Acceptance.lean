import HostOverlay.Proofs.Address.Groups
import HostOverlay.Proofs.Address.Netmask
import HostOverlay.Proofs.Address.Rejection

/-!
# Which texts are read as an address with a prefix length

Such a text is an address, a slash, and what stands for the length. The address may be of either
version, and one of version 6 may have a zone behind it. What stands for the length is its numeral,
or, behind an IPv4 address, a mask. `Cidr.Writes` says so, and the reader accepts exactly these texts
(`Cidr.ofText?_eq_some_iff`).

A dotted quad has no colon, and the text of an IPv6 address always has one. So a text is never read
as both, although the reader tries IPv4 first. The address that is read depends on nothing but what
stands in front of the zone and the slash (`Cidr.Writes.address_bare`).
-/

namespace HostOverlay

/-- Whether a text writes an address of either version. -/
inductive Address.Writes : List Char → Address → Prop
  /-- A dotted quad writes an IPv4 address. -/
  | v4 {cs : List Char} {bits : BitVec 32} (h : IPv4.Writes cs bits) : Writes cs (.v4 bits)
  /-- Groups with colons between them write an IPv6 address. -/
  | v6 {cs : List Char} {bits : BitVec 128} (h : IPv6.Writes cs bits) : Writes cs (.v6 bits)

/-- A text writes one address at most. -/
theorem Address.Writes.eq {cs : List Char} {first second : Address} (hf : Writes cs first)
    (hs : Writes cs second) : first = second := by
  cases hf with
  | v4 hf =>
    cases hs with
    | v4 hs => rw [hf.eq hs]
    | v6 hs => exact absurd hs.colon_mem hf.colon_not_mem
  | v6 hf =>
    cases hs with
    | v4 hs => exact absurd hf.colon_mem hs.colon_not_mem
    | v6 hs => rw [hf.eq hs]

/-- The text of an address has no slash and no percent sign. -/
theorem Address.Writes.not_mem {cs : List Char} {address : Address} (h : Writes cs address) :
    '/' ∉ cs ∧ '%' ∉ cs := by
  have hfree {c : Char} (hc : c ∈ cs) (hcolon : c ≠ ':') (hdot : c ≠ '.') :
      c.isAlphanum = true := by
    cases h with
    | v4 h => exact (h.eq_or_isAlphanum hc).resolve_left hdot
    | v6 h => exact h.isAlphanum hc hcolon hdot
  constructor
  · exact fun hc => absurd (hfree hc (by decide) (by decide)) (by decide)
  · exact fun hc => absurd (hfree hc (by decide) (by decide)) (by decide)

namespace Cidr

/-- Whether a text writes an address, with a zone behind an IPv6 address or without one. -/
inductive WritesAddress : List Char → Address → Option String → Prop
  /-- An address without a zone. -/
  | plain {cs : List Char} {address : Address} (h : Address.Writes cs address) :
      WritesAddress cs address none
  /-- An IPv6 address, a percent sign, and a zone that is not empty and has no percent sign. -/
  | zoned {cs zone : List Char} {bits : BitVec 128} (h : Address.IPv6.Writes cs bits)
      (hne : zone ≠ []) (hz : '%' ∉ zone) :
      WritesAddress (cs ++ '%' :: zone) (.v6 bits) (some (String.ofList zone))

/-- Whether a text stands for a prefix length behind an address. -/
def WritesLengthOf : Address → List Char → Nat → Prop
  | .v4 _ => WritesLengthOrMask
  | .v6 _ => WritesLength 128

/-- Whether a text writes an address with a prefix length. -/
def Writes (cs : List Char) (cidr : Cidr) : Prop :=
  ∃ address length, '/' ∉ address ∧ '/' ∉ length ∧ cs = address ++ '/' :: length ∧
    WritesAddress address cidr.address cidr.zone ∧ WritesLengthOf cidr.address length cidr.length

/-- A text is all address if it has no percent sign, and it is split into an address and a zone if it
has one percent sign with a zone behind it. -/
theorem splitZone?_eq_some_iff {cs address : List Char} {zone : Option String} :
    splitZone? cs = some (address, zone) ↔
      '%' ∉ address ∧ ((cs = address ∧ zone = none) ∨
        ∃ name, name ≠ [] ∧ '%' ∉ name ∧ cs = address ++ '%' :: name ∧
          zone = some (String.ofList name)) := by
  rw [splitZone?]
  constructor
  · intro h
    split at h
    · rename_i bare hparts
      obtain ⟨rfl, rfl⟩ := Prod.mk.inj (Option.some.inj h)
      obtain ⟨hp, rfl⟩ := Text.splitOn_eq_singleton_iff.mp hparts
      exact ⟨hp, Or.inl ⟨rfl, rfl⟩⟩
    · rename_i bare name hparts
      obtain ⟨hp, hn, rfl⟩ := Text.splitOn_eq_pair_iff.mp hparts
      split_ifs at h with hne
      obtain ⟨rfl, rfl⟩ := Prod.mk.inj (Option.some.inj h)
      exact ⟨hp, Or.inr ⟨name, hne, hn, rfl, rfl⟩⟩
    · cases h
  · rintro ⟨hp, ⟨rfl, rfl⟩ | ⟨name, hne, hn, rfl, rfl⟩⟩
    · rw [Text.splitOn_eq_singleton_iff.mpr ⟨hp, rfl⟩]
    · rw [Text.splitOn_eq_pair_iff.mpr ⟨hp, hn, rfl⟩]
      simp only [if_neg hne]

/-- What is split into the text of an IPv6 address and a zone writes the address with the zone. -/
theorem writesAddress_v6_iff {cs : List Char} {bits : BitVec 128} {zone : Option String} :
    WritesAddress cs (.v6 bits) zone ↔
      ∃ address, splitZone? cs = some (address, zone) ∧ Address.IPv6.Writes address bits := by
  simp only [splitZone?_eq_some_iff]
  constructor
  · intro h
    cases h with
    | plain h =>
      have hp := h.not_mem.2
      cases h with
      | v6 h => exact ⟨cs, ⟨hp, Or.inl ⟨rfl, rfl⟩⟩, h⟩
    | @zoned address name _ h hne hz =>
      exact ⟨address, ⟨(Address.Writes.v6 h).not_mem.2, Or.inr ⟨name, hne, hz, rfl, rfl⟩⟩, h⟩
  · rintro ⟨address, ⟨-, ⟨rfl, rfl⟩ | ⟨name, hne, hz, rfl, rfl⟩⟩, h⟩
    · exact .plain (.v6 h)
    · exact .zoned h hne hz

/-- Only a dotted quad writes an IPv4 address, and it has no zone. -/
theorem writesAddress_v4_iff {cs : List Char} {bits : BitVec 32} {zone : Option String} :
    WritesAddress cs (.v4 bits) zone ↔ Address.IPv4.Writes cs bits ∧ zone = none := by
  constructor
  · rintro ⟨⟨h⟩⟩
    exact ⟨h, rfl⟩
  · rintro ⟨h, rfl⟩
    exact .plain (.v4 h)

/-- A text that writes an IPv6 address with a zone has a colon. -/
theorem WritesAddress.colon_mem {cs : List Char} {bits : BitVec 128} {zone : Option String}
    (h : WritesAddress cs (.v6 bits) zone) : ':' ∈ cs := by
  cases h with
  | plain h =>
    cases h with
    | v6 h => exact h.colon_mem
  | zoned h _ _ => exact List.mem_append_left _ h.colon_mem

/-- What is an address text of either version and a dotted quad is an IPv4 address without a zone. -/
theorem WritesAddress.eq_of_writes {cs : List Char} {address : Address} {zone : Option String}
    {bits : BitVec 32} (h : WritesAddress cs address zone) (hw : Address.IPv4.Writes cs bits) :
    address = .v4 bits ∧ zone = none := by
  cases h with
  | plain h => exact ⟨h.eq (.v4 hw), rfl⟩
  | zoned h _ _ => exact absurd (List.mem_append_left _ h.colon_mem) hw.colon_not_mem

section

variable {address length : List Char} {cidr : Cidr} (hl : length.length ≤ maxDigits)
include hl

/-- An address and what stands for its length are read as IPv4 if they write an IPv4 address. -/
theorem ofIPv4?_eq_some_iff :
    ofIPv4? address length = some cidr ↔
      ∃ bits, cidr.address = .v4 bits ∧ WritesAddress address (.v4 bits) cidr.zone ∧
        WritesLengthOrMask length cidr.length := by
  simp only [ofIPv4?, Option.bind_eq_bind, Option.bind_eq_some_iff, Option.pure_def,
    Address.IPv4.ofText?_eq_some_iff, lengthOrMask?_eq_some_iff hl, writesAddress_v4_iff]
  constructor
  · rintro ⟨bits, ha, number, hn, h⟩
    obtain rfl := Option.some.inj h
    exact ⟨bits, rfl, ⟨ha, rfl⟩, hn⟩
  · rintro ⟨bits, hv, ⟨ha, hz⟩, hn⟩
    refine ⟨bits, ha, cidr.length, hn, congrArg some ?_⟩
    rw [← hv, ← hz]

/-- An address and the numeral of its length are read as IPv6 if they write an IPv6 address. -/
theorem ofIPv6?_eq_some_iff :
    ofIPv6? address length = some cidr ↔
      ∃ bits, cidr.address = .v6 bits ∧ WritesAddress address (.v6 bits) cidr.zone ∧
        WritesLength 128 length cidr.length := by
  simp only [ofIPv6?, Option.bind_eq_bind, Option.bind_eq_some_iff, Option.pure_def,
    Address.IPv6.ofText?_eq_some_iff, length?_eq_some_iff, writesAddress_v6_iff]
  constructor
  · rintro ⟨⟨bare, zone⟩, hs, bits, ha, number, ⟨-, hn⟩, h⟩
    obtain rfl := Option.some.inj h
    exact ⟨bits, rfl, ⟨bare, hs, ha⟩, hn⟩
  · rintro ⟨bits, hv, ⟨bare, hs, ha⟩, hn⟩
    refine ⟨⟨bare, cidr.zone⟩, hs, bits, ha, cidr.length, ⟨hl, hn⟩, congrArg some ?_⟩
    rw [← hv]

/-- An address, a slash and what stands for the length are read as what they write. -/
theorem ofText?_append_iff (ha : '/' ∉ address) (hs : '/' ∉ length) :
    ofText? (address ++ '/' :: length) = some cidr ↔
      WritesAddress address cidr.address cidr.zone ∧
        WritesLengthOf cidr.address length cidr.length := by
  have hsplit : (address ++ '/' :: length).splitOn '/' = [address, length] :=
    Text.splitOn_eq_pair_iff.mpr ⟨ha, hs, rfl⟩
  rw [ofText?, hsplit]
  simp only [Option.or_eq_some_iff, ofIPv4?_eq_some_iff hl, ofIPv6?_eq_some_iff hl]
  constructor
  · rintro (⟨bits, hv, h⟩ | ⟨-, bits, hv, h⟩)
    · rw [hv]
      exact h
    · rw [hv]
      exact h
  · intro h
    cases hv : cidr.address with
    | v4 bits =>
      rw [hv] at h
      exact Or.inl ⟨bits, rfl, h⟩
    | v6 bits =>
      rw [hv] at h
      refine Or.inr ⟨?_, bits, rfl, h⟩
      -- A dotted quad has no colon.
      rw [Option.eq_none_iff_forall_ne_some]
      intro other ho
      obtain ⟨quad, -, hquad, -⟩ := (ofIPv4?_eq_some_iff hl).mp ho
      exact (writesAddress_v4_iff.mp hquad).1.colon_not_mem h.1.colon_mem

end

/-- A text of moderate length is read as what it writes, and nothing else is read. -/
theorem ofText?_eq_some_iff {cs : List Char} (h : cs.length ≤ maxDigits) {cidr : Cidr} :
    ofText? cs = some cidr ↔ Writes cs cidr := by
  have hlength {address length : List Char} (he : cs = address ++ '/' :: length) :
      length.length ≤ maxDigits := by
    rw [he, List.length_append, List.length_cons] at h
    omega
  constructor
  · intro hc
    have hread := hc
    rw [ofText?] at hc
    split at hc
    · rename_i address length hparts
      obtain ⟨ha, hl, he⟩ := Text.splitOn_eq_pair_iff.mp hparts
      rw [he, ofText?_append_iff (hlength he) ha hl] at hread
      exact ⟨address, length, ha, hl, he, hread⟩
    · cases hc
  · rintro ⟨address, length, ha, hl, he, hwrites⟩
    rw [he, ofText?_append_iff (hlength he) ha hl]
    exact hwrites

/-- What stands in front of the zone and the slash. -/
def bareAddress (cs : List Char) : List Char := cs.takeWhile fun c => c != '/' && c != '%'

/-- What stands in front of the zone and the slash writes the address. -/
theorem Writes.address_bare {cs : List Char} {cidr : Cidr} (h : Writes cs cidr) :
    Address.Writes (bareAddress cs) cidr.address := by
  have hbare {front rest : List Char} {address : Address} {c : Char}
      (hw : Address.Writes front address) (hc : c = '/' ∨ c = '%') :
      bareAddress (front ++ c :: rest) = front := by
    have hfront : ∀ d ∈ front, (d != '/' && d != '%') = true := by
      intro d hd
      obtain ⟨hslash, hpercent⟩ := hw.not_mem
      simp only [Bool.and_eq_true, bne_iff_ne]
      exact ⟨fun he => hslash (he ▸ hd), fun he => hpercent (he ▸ hd)⟩
    have hstop : ¬ (c != '/' && c != '%') = true := by
      rcases hc with rfl | rfl <;> decide
    have hrest : (c :: rest).takeWhile (fun c => c != '/' && c != '%') = [] :=
      List.takeWhile_cons_of_neg hstop
    rw [bareAddress, List.takeWhile_append_of_pos hfront, hrest, List.append_nil]
  obtain ⟨address, length, -, -, rfl, ha, -⟩ := h
  -- The address ends at the percent sign if there is a zone, and at the slash if there is none.
  generalize cidr.address = value, cidr.zone = zone at ha
  cases ha with
  | plain h =>
    rw [hbare h (Or.inl rfl)]
    exact h
  | zoned h _ _ =>
    rw [List.append_assoc, List.cons_append, hbare (.v6 h) (Or.inr rfl)]
    exact .v6 h

/-- The address of a text of moderate length is read exactly if the text writes the address with some
length. Any other text is rejected, with a message that says that the length is missing exactly if
there is no slash. Two texts from which an address is read have the same one if they are the same in
front of their zones and slashes. -/
theorem readAddress_accepts {text : String} (h : text.length ≤ 4300) :
    (∀ address, readAddress text = .ok address ↔
        ∃ length zone, Writes text.toList ⟨address, length, zone⟩) ∧
      ((∀ cidr, ¬ Writes text.toList cidr) →
        ∃ cause, readAddress text = .error cause ∧
          (cause.message = "missing prefix length in " ++ Text.quoted text ↔
            '/' ∉ text.toList)) ∧
      ∀ other : String, other.length ≤ 4300 →
        bareAddress text.toList = bareAddress other.toList →
        ∀ address address', readAddress text = .ok address → readAddress other = .ok address' →
          address = address' := by
  have hreads {text : String} (h : text.length ≤ 4300) (address : Address) :
      readAddress text = .ok address ↔ ∃ cidr, Writes text.toList cidr ∧ cidr.address = address := by
    simp only [readAddress_eq_ok_iff, ofText?_eq_some_iff (String.length_toList.trans_le h)]
  refine ⟨fun address => ?_, fun hn => ?_, ?_⟩
  · rw [hreads h]
    constructor
    · rintro ⟨⟨_, length, zone⟩, hw, rfl⟩
      exact ⟨length, zone, hw⟩
    · rintro ⟨length, zone, hw⟩
      exact ⟨_, hw, rfl⟩
  · rcases exists_ofText?_or_rejects text with ⟨cidr, hc⟩ | ⟨cause, hr⟩
    · exact absurd ((ofText?_eq_some_iff (String.length_toList.trans_le h)).mp hc) (hn cidr)
    · exact ⟨cause, hr.readAddress_eq, hr.message_eq_iff⟩
  · -- The bare addresses are one text, and a text writes one address.
    intro other ho hsame address address' ha ha'
    obtain ⟨cidr, hw, rfl⟩ := (hreads h address).mp ha
    obtain ⟨cidr', hw', rfl⟩ := (hreads ho address').mp ha'
    exact hw.address_bare.eq (hsame ▸ hw'.address_bare)

/-- A zone and zeros in front of the length play no part in the address that is read, and a text with
a slash that is rejected is not told to have none. -/
theorem readAddress_accepts_zoned :
    (∃ length zone, Writes "fe80::1%br0/064".toList
        ⟨.v6 0xfe800000000000000000000000000001#128, length, zone⟩) ∧
      (∀ address, readAddress "fe80::1/10" = .ok address →
        address = .v6 0xfe800000000000000000000000000001#128) ∧
      ∃ cause, readAddress "10.42.01.1/16" = .error cause ∧
        cause.message ≠ "missing prefix length in " ++ Text.quoted "10.42.01.1/16" := by
  have hread : readAddress "fe80::1%br0/064" =
      .ok (.v6 0xfe800000000000000000000000000001#128) := by decide
  obtain ⟨haccepts, -, hsame⟩ := @readAddress_accepts "fe80::1%br0/064" (by decide)
  obtain ⟨-, hrejects, -⟩ := @readAddress_accepts "10.42.01.1/16" (by decide)
  have hbad : ∀ cidr, ¬ Writes "10.42.01.1/16".toList cidr := by
    intro cidr hw
    have hnone : ofText? "10.42.01.1/16".toList = none := by decide
    rw [(ofText?_eq_some_iff (by decide)).mpr hw] at hnone
    cases hnone
  refine ⟨(haccepts _).mp hread, fun address ha => ?_, ?_⟩
  · exact (hsame "fe80::1/10" (by decide) (by decide) _ _ hread ha).symm
  · obtain ⟨cause, hcause, hmessage⟩ := hrejects hbad
    exact ⟨cause, hcause, fun h => absurd (hmessage.mp h) (by decide)⟩

end Cidr

end HostOverlay
