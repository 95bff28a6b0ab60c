import HostOverlay.Proofs.Address.Acceptance
import HostOverlay.Proofs.Inspection.Blocks

/-!
# The networks that net masks give

An IPv4 entry of a listing has the text of an address and one for a net mask. The entry is read if the
net mask is a dotted quad whose bits, or the complement of its bits, are the mask of a length. Then the
network of the entry has this length (`Inspection.IsNetworkOf`). The numeral of the length gives the same
network, and an entry without a net mask has a network with its own address only. An interface has the
networks of its IPv4 entries, in their order (`Inspection.blocks_eq_ok_iff`).

The bits `0.0.0.0` and `255.255.255.255` are masks and complements of masks. They count as masks, since
bits stand for a length as the complement of a mask only if they are none (`Address.StandsFor`).
-/

namespace HostOverlay.Inspection

/-- The IPv4 entry of an address, with a text for its net mask or without one. -/
def listed (bits : BitVec 32) (netmask : Option (List Char)) : ListedAddress :=
  ⟨.inet, String.ofList (Address.IPv4.toText bits), netmask.map String.ofList⟩

/-- Whether a block is the network of an IPv4 address, by a mask and its length. -/
structure IsNetworkOf (network : Block) (bits mask : BitVec 32) (length : Nat) : Prop where
  /-- The base is the address under the mask. -/
  base_eq : network.base = .v4 (bits &&& mask)
  /-- The length is that of the mask. -/
  length_eq : network.length = length
  /-- The addresses in it are those that agree with the address on so many bits. -/
  contains_iff : ∀ address, network.contains address = true ↔
    ∃ other, address = .v4 other ∧ Address.AgreeOn length other bits
  /-- The address is one of them. -/
  contains_self : network.contains (.v4 bits) = true

/-- The network of an address with the length of a mask is its network by the mask. -/
theorem isNetworkOf_block {bits mask : BitVec 32} {length : Nat}
    (h : Address.IsNetmask mask length) :
    IsNetworkOf (Cidr.block ⟨.v4 bits, length, none⟩) bits mask length where
  base_eq := by
    obtain ⟨-, rfl⟩ := Address.isNetmask_iff.mp h
    rfl
  length_eq := rfl
  contains_iff address := by
    cases address with
    | v4 other =>
      rw [Cidr.contains_block_v4_iff]
      simp
    | v6 other =>
      rw [Cidr.contains_block_v4_v6]
      simp
  contains_self := Cidr.contains_block_v4_iff.mpr fun _ _ => rfl

/-- The network by the mask of all bits contains nothing but the address. -/
theorem IsNetworkOf.contains_iff_eq {network : Block} {bits mask : BitVec 32}
    (h : IsNetworkOf network bits mask 32) (address : Address) :
    network.contains address = true ↔ address = .v4 bits := by
  rw [h.contains_iff]
  constructor
  · rintro ⟨other, rfl, hagree⟩
    rw [BitVec.eq_of_getMsbD_eq hagree]
  · rintro rfl
    exact ⟨bits, rfl, fun _ _ => rfl⟩

section

variable {bits : BitVec 32} {network : Block}

/-- An entry with something for its net mask that has no slash and is not too long is read as its
address with the length that it writes, and it cannot be read if it writes no length. -/
theorem cidr?_listed_iff {text : List Char} (hne : text ≠ []) (hl : text.length ≤ Cidr.maxDigits)
    (hs : '/' ∉ text) {cidr : Cidr} :
    cidr? (listed bits (some text)) = some cidr ↔
      ∃ length, Cidr.WritesLengthOrMask text length ∧ cidr = ⟨.v4 bits, length, none⟩ := by
  have hquad := Address.IPv4.writes_toText bits
  have hmask : maskText (listed bits (some text)) = String.ofList text := by
    simp [maskText, listed, hne]
  have htext : (entryText (listed bits (some text))).toList =
      Address.IPv4.toText bits ++ '/' :: text := by
    rw [entryText, hmask]
    simp [listed]
  rw [cidr?, htext, Cidr.ofText?_append_iff hl hquad.slash_not_mem hs]
  constructor
  · rintro ⟨ha, hlength⟩
    -- A dotted quad is no IPv6 address and has no zone.
    obtain ⟨hv, hz⟩ := ha.eq_of_writes hquad
    obtain ⟨value, length, zone⟩ := cidr
    cases hv
    cases hz
    exact ⟨length, hlength, rfl⟩
  · rintro ⟨length, hlength, rfl⟩
    exact ⟨.plain (.v4 hquad), hlength⟩

/-- Such an entry has the network of its address with the length that is written. -/
theorem blockOf_listed_iff {text : List Char} (hne : text ≠ []) (hl : text.length ≤ Cidr.maxDigits)
    (hs : '/' ∉ text) :
    blockOf (listed bits (some text)) = .ok network ↔
      ∃ length, Cidr.WritesLengthOrMask text length ∧
        network = Cidr.block ⟨.v4 bits, length, none⟩ := by
  simp only [blockOf_eq_ok_iff, cidr?_listed_iff hne hl hs]
  constructor
  · rintro ⟨_, ⟨length, hlength, rfl⟩, rfl⟩
    exact ⟨length, hlength, rfl⟩
  · rintro ⟨length, hlength, rfl⟩
    exact ⟨_, ⟨length, hlength, rfl⟩, rfl⟩

/-- An entry with a dotted quad for its net mask has the network of its address with the length that
the bits of the quad stand for. -/
theorem blockOf_quad_iff {netmask : BitVec 32} :
    blockOf (listed bits (some (Address.IPv4.toText netmask))) = .ok network ↔
      ∃ length, Address.StandsFor netmask length ∧
        network = Cidr.block ⟨.v4 bits, length, none⟩ := by
  have hquad := Address.IPv4.writes_toText netmask
  have hshort : (Address.IPv4.toText netmask).length ≤ Cidr.maxDigits :=
    hquad.length_le.trans (by decide)
  have hwrites (length : Nat) :
      Cidr.WritesLengthOrMask (Address.IPv4.toText netmask) length ↔
        Address.StandsFor netmask length := by
    constructor
    · -- A dotted quad is no numeral, and it writes no bits but these.
      rintro (hn | ⟨other, ho, hstands⟩)
      · exact absurd hn.numeral (hquad.not_writesDecimal length)
      · rw [hquad.eq ho]
        exact hstands
    · exact fun hstands => Or.inr ⟨netmask, hquad, hstands⟩
  simp only [blockOf_listed_iff (List.ne_nil_of_mem hquad.dot_mem) hshort hquad.slash_not_mem,
    hwrites]

/-- An entry with the numeral of a length for its net mask has the network of its address with this
length. -/
theorem blockOf_numeral {length : Nat} (h : length ≤ 32) :
    blockOf (listed bits (some (Nat.toDigits 10 length))) =
      .ok (Cidr.block ⟨.v4 bits, length, none⟩) := by
  have hnumeral := Cidr.writesLength_toDigits h
  rw [blockOf_listed_iff hnumeral.numeral.ne_nil (Cidr.length_toDigits_le (by omega))
    hnumeral.slash_not_mem]
  exact ⟨length, Or.inl hnumeral, rfl⟩

/-- An entry without a net mask, or with an empty one, has the network that it has with the mask of all
bits. -/
theorem blockOf_unmasked {netmask : Option (List Char)} (h : netmask = none ∨ netmask = some []) :
    blockOf (listed bits netmask) =
      blockOf (listed bits (some (Address.IPv4.toText (BitVec.allOnes 32)))) := by
  have hmask : maskText (listed bits netmask) =
      maskText (listed bits (some (Address.IPv4.toText (BitVec.allOnes 32)))) := by
    have hhost : hostMask = String.ofList (Address.IPv4.toText (BitVec.allOnes 32)) := by decide
    rcases h with rfl | rfl <;> simp [maskText, listed, hhost]
  rw [blockOf, blockOf, hmask]
  rfl

end

/-- What is read entry by entry is read from each entry. -/
theorem mapM_blockOf_eq_ok_iff {entries : List ListedAddress} {networks : List Block} :
    entries.mapM blockOf = .ok networks ↔
      List.Forall₂ (fun entry network => blockOf entry = .ok network) entries networks := by
  constructor
  · intro h
    induction entries generalizing networks with
    | nil =>
      cases h
      exact .nil
    | cons entry rest ih =>
      rw [List.mapM_cons] at h
      cases hentry : blockOf entry with
      | error cause =>
        rw [hentry] at h
        cases h
      | ok network =>
        cases hrest : rest.mapM blockOf with
        | error cause =>
          rw [hentry, hrest] at h
          cases h
        | ok others =>
          rw [hentry, hrest] at h
          cases h
          exact .cons hentry (ih hrest)
  · intro h
    induction h with
    | nil => rfl
    | cons hentry _ ih =>
      rw [List.mapM_cons, hentry, ih]
      rfl

/-- The networks of an interface are those of its IPv4 entries, in their order. -/
theorem blocks_eq_ok_iff {table : Listing} {interface : String} {entries : List ListedAddress}
    (hi : Table.get? table interface = some entries) {networks : List Block} :
    blocks (.ok table) interface = .ok networks ↔
      List.Forall₂ (fun entry network => blockOf entry = .ok network) (counted entries)
        networks := by
  rw [blocks_ok, hi, ← mapM_blockOf_eq_ok_iff]
  simp only [Option.map_some]
  cases (counted entries).mapM blockOf <;> simp [Except.mapError]

/-- An IPv4 entry with dotted quads for its address and its net mask is read exactly if the bits of the
mask or their complement are the mask of a length. Bits that are a mask give the network by them, and
the numeral of their length gives the same. Bits that are none give the network by their complement.
Without a net mask, or with an empty one, the network contains the address only. An interface has the
networks of its IPv4 entries, one for each and in their order. -/
theorem blocks_netmask (bits netmask : BitVec 32) :
    ((∃ network, blockOf (listed bits (some (Address.IPv4.toText netmask))) = .ok network) ↔
      ∃ length, Address.IsNetmask netmask length ∨ Address.IsNetmask (~~~netmask) length) ∧
    (∀ length, Address.IsNetmask netmask length →
      ∃ network, blockOf (listed bits (some (Address.IPv4.toText netmask))) = .ok network ∧
        IsNetworkOf network bits netmask length ∧
        blockOf (listed bits (some (Nat.toDigits 10 length))) = .ok network) ∧
    (∀ length, (∀ other, ¬ Address.IsNetmask netmask other) →
      Address.IsNetmask (~~~netmask) length →
        ∃ network, blockOf (listed bits (some (Address.IPv4.toText netmask))) = .ok network ∧
          IsNetworkOf network bits (~~~netmask) length) ∧
    (∀ text, text = none ∨ text = some [] →
      ∃ network, blockOf (listed bits text) = .ok network ∧ network.base = .v4 bits ∧
        network.length = 32 ∧ ∀ address, network.contains address = true ↔ address = .v4 bits) ∧
    ∀ (table : Listing) (interface : String) (entries : List ListedAddress) (networks : List Block),
      Table.get? table interface = some entries →
        (blocks (.ok table) interface = .ok networks ↔
          List.Forall₂ (fun entry network => blockOf entry = .ok network) (counted entries)
            networks) := by
  refine ⟨?_, fun length h => ?_, fun length hn h => ?_, fun text ht => ?_,
    fun table interface entries networks hi => blocks_eq_ok_iff hi⟩
  · simp only [blockOf_quad_iff, ← Address.exists_standsFor_iff]
    constructor
    · rintro ⟨_, length, hstands, -⟩
      exact ⟨length, hstands⟩
    · rintro ⟨length, hstands⟩
      exact ⟨_, length, hstands, rfl⟩
  · exact ⟨_, blockOf_quad_iff.mpr ⟨length, Or.inl h, rfl⟩, isNetworkOf_block h,
      blockOf_numeral h.1⟩
  · exact ⟨_, blockOf_quad_iff.mpr ⟨length, Or.inr ⟨hn, h⟩, rfl⟩, isNetworkOf_block h⟩
  · -- The mask of all bits clears nothing, and 32 bits leave nothing open.
    have hall : Address.IsNetmask (BitVec.allOnes 32) 32 := by
      unfold Address.IsNetmask
      decide
    have hnetwork : IsNetworkOf (Cidr.block ⟨.v4 bits, 32, none⟩) bits (BitVec.allOnes 32) 32 :=
      isNetworkOf_block hall
    refine ⟨_, ?_, ?_, rfl, hnetwork.contains_iff_eq⟩
    · rw [blockOf_unmasked ht, blockOf_quad_iff]
      exact ⟨32, Or.inl hall, rfl⟩
    · rw [hnetwork.base_eq, BitVec.and_allOnes]

/-- A host mask gives the network of the bits that it leaves out, the mask without bits gives the network
of all addresses, and bits with a gap are rejected. The networks of an interface leave out what is not of
IPv4. -/
theorem blocks_netmask_mixed :
    (∃ network, blockOf ⟨.inet, "10.42.7.9", some "0.0.0.0"⟩ = .ok network ∧ network.length = 0) ∧
      (¬ ∃ network, blockOf ⟨.inet, "10.42.7.9", some "255.0.255.0"⟩ = .ok network) ∧
      ∃ first second, blocks (.ok [("br-lab", [⟨.inet, "10.42.7.9", some "0.0.255.255"⟩,
          ⟨.packet, "02:42:0a:2a:07:09", none⟩, ⟨.inet, "10.42.7.9", none⟩])]) "br-lab" =
            .ok [first, second] ∧
        first.base = .v4 0x0a2a0000#32 ∧ first.length = 16 ∧ second.length = 32 := by
  have hnone {netmask : BitVec 32} (h : Address.maskLength? netmask = none) (other : Nat) :
      ¬ Address.IsNetmask netmask other := fun ho => by
    rw [Address.maskLength?_eq_some_iff.mpr ho] at h
    cases h
  have hzero : Address.IsNetmask 0#32 0 := by
    unfold Address.IsNetmask
    decide
  have hhost : Address.IsNetmask (~~~0x0000ffff#32) 16 := by
    unfold Address.IsNetmask
    decide
  obtain ⟨-, hmask, -⟩ := blocks_netmask 0x0a2a0709#32 0#32
  obtain ⟨hread, -⟩ := blocks_netmask 0x0a2a0709#32 0xff00ff00#32
  obtain ⟨-, -, hcomplement, hunmasked, hlisting⟩ := blocks_netmask 0x0a2a0709#32 0x0000ffff#32
  obtain ⟨network, hnetwork, hall, -⟩ := hmask 0 hzero
  obtain ⟨first, hfirst, hwide⟩ := hcomplement 16 (hnone (by decide)) hhost
  obtain ⟨second, hsecond, -, hlength, -⟩ := hunmasked none (Or.inl rfl)
  refine ⟨⟨network, hnetwork, hall.length_eq⟩, fun hgap => ?_, first, second, ?_, hwide.base_eq,
    hwide.length_eq, hlength⟩
  · obtain ⟨length, h | h⟩ := hread.mp hgap
    · exact hnone (by decide) length h
    · exact hnone (by decide) length h
  · rw [hlisting _ _ _ _ rfl]
    exact .cons hfirst (.cons hsecond .nil)

end HostOverlay.Inspection
