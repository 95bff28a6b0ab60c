import HostOverlay.Proofs.Address.Fields
import HostOverlay.Proofs.Text.Numerals

/-!
# What a dotted quad writes

A dotted quad is four octets with dots between them, where an octet is a decimal numeral of at most
three digits without a zero in front. `IPv4.Writes` says which address it writes, by the octets of the
address. The reader accepts exactly these texts (`IPv4.ofText?_eq_some_iff`), and the printed text of
an address is one of them (`IPv4.writes_toText`).
-/

namespace HostOverlay.Address.IPv4

/-- Whether a text is the numeral of an octet. -/
structure WritesOctet (cs : List Char) (octet : Nat) : Prop where
  /-- The text is a decimal numeral. -/
  numeral : Text.WritesDecimal cs octet
  /-- It has at most three digits. -/
  length_le : cs.length ≤ 3
  /-- It has no zero in front, unless that is its only digit. -/
  plain : cs = ['0'] ∨ cs.head? ≠ some '0'
  /-- An octet is at most 255. -/
  le : octet ≤ 255

/-- Whether a text writes an address: its octets, with dots between them. -/
def Writes (cs : List Char) (address : BitVec 32) : Prop :=
  ∃ parts, List.Forall₂ WritesOctet parts (octets address) ∧ cs = ['.'].intercalate parts

/-- The numeral of an octet is read as the octet, and nothing else is read. -/
theorem octet?_eq_some_iff {cs : List Char} {octet : Nat} :
    octet? cs = some octet ↔ WritesOctet cs octet := by
  rw [octet?]
  constructor
  · intro h
    split_ifs at h with hcs
    rw [Option.filter_eq_some_iff, Text.decimal?_eq_some_iff, decide_eq_true_eq] at h
    exact ⟨h.1, hcs.1, hcs.2, h.2⟩
  · intro h
    rw [if_pos ⟨h.length_le, h.plain⟩, Option.filter_eq_some_iff, Text.decimal?_eq_some_iff,
      decide_eq_true_eq]
    exact ⟨h.numeral, h.le⟩

/-- The decimal digits of an octet are its numeral. -/
theorem writesOctet_toDigits {octet : Nat} (h : octet ≤ 255) :
    WritesOctet (Nat.toDigits 10 octet) octet where
  numeral := Text.writesDecimal_toDigits octet
  length_le := (Nat.length_toDigits_le_iff (by decide) (by decide)).mpr (by omega)
  plain := by
    rcases Nat.eq_zero_or_pos octet with rfl | hpos
    · exact Or.inl rfl
    · exact Or.inr (Text.head?_toDigits_ne hpos)
  le := h

/-- A dotted quad has nothing but digits and dots in it. -/
theorem Writes.eq_or_isDigit {cs : List Char} {address : BitVec 32} (h : Writes cs address)
    {c : Char} (hc : c ∈ cs) : c = '.' ∨ c.isDigit = true := by
  obtain ⟨parts, hparts, rfl⟩ := h
  rcases Text.eq_or_exists_mem_of_mem_intercalate hc with hdot | ⟨part, hp, hcp⟩
  · exact Or.inl hdot
  · obtain ⟨octet, -, ho⟩ := Text.exists_value_of_mem hparts hp
    exact Or.inr (ho.numeral.isDigit c hcp)

/-- A dotted quad has nothing but letters, digits and dots in it. -/
theorem Writes.eq_or_isAlphanum {cs : List Char} {address : BitVec 32} (h : Writes cs address)
    {c : Char} (hc : c ∈ cs) : c = '.' ∨ c.isAlphanum = true := by
  refine (h.eq_or_isDigit hc).imp_right fun hdigit => ?_
  rw [Char.isAlphanum, hdigit, Bool.or_true]

/-- A dotted quad has a dot. -/
theorem Writes.dot_mem {cs : List Char} {address : BitVec 32} (h : Writes cs address) :
    '.' ∈ cs := by
  obtain ⟨parts, hparts, rfl⟩ := h
  refine Text.mem_intercalate ?_
  rw [hparts.length_eq, length_octets]
  decide

/-- A dotted quad is read as the address that it writes, and nothing else is read. -/
theorem ofText?_eq_some_iff {cs : List Char} {address : BitVec 32} :
    ofText? cs = some address ↔ Writes cs address := by
  have hmapM (parts : List (List Char)) (values : List Nat) :
      parts.mapM octet? = some values ↔ List.Forall₂ WritesOctet parts values := by
    simp only [Text.mapM_eq_some_iff, octet?_eq_some_iff]
  rw [ofText?]
  constructor
  · intro h
    split_ifs at h with hlength
    obtain ⟨values, hvalues, rfl⟩ := Option.map_eq_some_iff.mp h
    have hparts := (hmapM _ values).mp hvalues
    have hoctets : octets (ofOctets values) = values := by
      refine octets_ofOctets (hparts.length_eq ▸ hlength) fun value hv => ?_
      obtain ⟨part, -, ho⟩ := Text.exists_value_of_mem hparts.flip hv
      exact ho.le
    exact ⟨_, hoctets.symm ▸ hparts, (List.intercalate_splitOn '.').symm⟩
  · rintro ⟨parts, hparts, rfl⟩
    have hlength : parts.length = 4 := hparts.length_eq
    have hfree : ∀ part ∈ parts, '.' ∉ part := by
      intro part hp hdot
      obtain ⟨octet, -, ho⟩ := Text.exists_value_of_mem hparts hp
      exact absurd (ho.numeral.isDigit '.' hdot) (by decide)
    have hsplit : (['.'].intercalate parts).splitOn '.' = parts := by
      refine List.splitOn_intercalate '.' hfree ?_
      rintro rfl
      simp at hlength
    simp only [hsplit, hlength, if_true, (hmapM _ _).mpr hparts, Option.map_some, ofOctets_octets]

/-- A dotted quad writes one address only. -/
theorem Writes.eq {cs : List Char} {first second : BitVec 32} (hf : Writes cs first)
    (hs : Writes cs second) : first = second :=
  Option.some.inj ((ofText?_eq_some_iff.mpr hf).symm.trans (ofText?_eq_some_iff.mpr hs))

/-- The printed text of an address writes it. -/
theorem writes_toText (address : BitVec 32) : Writes (toText address) address := by
  refine ⟨_, ?_, rfl⟩
  rw [List.forall₂_map_left_iff, List.forall₂_same]
  intro octet ho
  exact writesOctet_toDigits (le_of_mem_octets ho)

/-- A dotted quad has at most fifteen characters. -/
theorem Writes.length_le {cs : List Char} {address : BitVec 32} (h : Writes cs address) :
    cs.length ≤ 15 := by
  obtain ⟨parts, hparts, rfl⟩ := h
  have hlength : parts.length = 4 := hparts.length_eq
  have hpart : ∀ part ∈ parts, part.length ≤ 3 := by
    intro part hp
    obtain ⟨octet, -, ho⟩ := Text.exists_value_of_mem hparts hp
    exact ho.length_le
  match parts, hlength with
  | [first, second, third, fourth], _ =>
    simp only [List.forall_mem_cons] at hpart
    simp only [List.intercalate_cons_cons, List.intercalate_singleton, List.length_append,
      List.length_singleton]
    omega

/-- A dotted quad has no colon. -/
theorem Writes.colon_not_mem {cs : List Char} {address : BitVec 32} (h : Writes cs address) :
    ':' ∉ cs := by
  intro hc
  rcases h.eq_or_isDigit hc with hdot | hdigit
  · exact absurd hdot (by decide)
  · exact absurd hdigit (by decide)

/-- A dotted quad has no slash. -/
theorem Writes.slash_not_mem {cs : List Char} {address : BitVec 32} (h : Writes cs address) :
    '/' ∉ cs := by
  intro hs
  rcases h.eq_or_isDigit hs with hdot | hdigit
  · exact absurd hdot (by decide)
  · exact absurd hdigit (by decide)

/-- A dotted quad is not a decimal numeral. -/
theorem Writes.not_writesDecimal {cs : List Char} {address : BitVec 32} (h : Writes cs address)
    (number : Nat) : ¬ Text.WritesDecimal cs number := by
  intro hn
  exact absurd (hn.isDigit '.' h.dot_mem) (by decide)

end HostOverlay.Address.IPv4
