import HostOverlay.Proofs.Address.Quads

/-!
# What the text of an IPv6 address writes

The text is made of parts with colons between them. A part writes one group, and a dotted quad as the
last part writes two. Two colons in a row stand for zero groups that are left out, at least one.
`IPv6.Writes` says so, and the reader accepts exactly these texts (`IPv6.ofText?_eq_some_iff`).

The reader cuts a text at the first two colons in a row. Parts are not empty and have no colons, so
there are no two colons in a row in front of those that stand for the zeros
(`IPv6.cutAtGap?_intercalate_append`).
-/

namespace HostOverlay.Address.IPv6

/-- Whether a text is the numeral of a group. -/
structure WritesGroup (cs : List Char) (group : Nat) : Prop where
  /-- The text is a hexadecimal numeral. -/
  numeral : Text.WritesHex cs group
  /-- It has at most four digits. -/
  length_le : cs.length ≤ 4

/-- Whether the parts at the end of a text write groups. -/
inductive WritesParts : List (List Char) → List Nat → Prop
  /-- Without parts there are no groups. -/
  | nil : WritesParts [] []
  /-- A dotted quad at the end writes two groups. -/
  | quad {part : List Char} {bits : BitVec 32} (h : IPv4.Writes part bits) :
      WritesParts [part] (quadGroups bits)
  /-- A part writes one group. -/
  | cons {part : List Char} {group : Nat} {parts : List (List Char)} {groups : List Nat}
      (h : WritesGroup part group) (ht : WritesParts parts groups) :
      WritesParts (part :: parts) (group :: groups)

/-- Whether a text writes groups. -/
inductive WritesGroups : List Char → List Nat → Prop
  /-- All groups are written. -/
  | whole {parts : List (List Char)} {groups : List Nat} (h : WritesParts parts groups) :
      WritesGroups ([':'].intercalate parts) groups
  /-- Two colons stand for one or more zero groups. -/
  | cut {front back : List (List Char)} {high low : List Nat} {count : Nat}
      (hf : List.Forall₂ WritesGroup front high) (hb : WritesParts back low) (hc : 1 ≤ count) :
      WritesGroups ([':'].intercalate front ++ ':' :: ':' :: [':'].intercalate back)
        (high ++ List.replicate count 0 ++ low)

/-- Whether a text writes an address. -/
def Writes (cs : List Char) (address : BitVec 128) : Prop := WritesGroups cs (groups address)

/-- Whether a part can be told from those beside it: there is something in it, and no colon. -/
def IsPart (part : List Char) : Prop := part ≠ [] ∧ ':' ∉ part

/-- The numeral of a group is read as the group, and nothing else is read. -/
theorem group?_eq_some_iff {cs : List Char} {group : Nat} :
    group? cs = some group ↔ WritesGroup cs group := by
  rw [group?]
  constructor
  · intro h
    split_ifs at h with hcs
    exact ⟨Text.hex?_eq_some_iff.mp h, hcs⟩
  · intro h
    rw [if_pos h.length_le, Text.hex?_eq_some_iff]
    exact h.numeral

/-- A group is below 65536. -/
theorem WritesGroup.lt {cs : List Char} {group : Nat} (h : WritesGroup cs group) :
    group < 65536 :=
  calc group < 16 ^ cs.length := h.numeral.lt
    _ ≤ 16 ^ 4 := Nat.pow_le_pow_right (by decide) h.length_le

/-- The hexadecimal digits of a group are its numeral. -/
theorem writesGroup_toDigits {group : Nat} (h : group < 65536) :
    WritesGroup (Nat.toDigits 16 group) group where
  numeral := Text.writesHex_toDigits group
  length_le := (Nat.length_toDigits_le_iff (by decide) (by decide)).mpr h

/-- The numeral of a group has no colon and no dot, and it is not empty. -/
theorem WritesGroup.isPart {cs : List Char} {group : Nat} (h : WritesGroup cs group) :
    IsPart cs ∧ '.' ∉ cs := by
  refine ⟨⟨h.numeral.1, fun hc => ?_⟩, fun hc => ?_⟩
  · exact absurd (h.numeral.isAlphanum hc) (by decide)
  · exact absurd (h.numeral.isAlphanum hc) (by decide)

/-- A dotted quad can stand among the parts. -/
theorem isPart_of_writes {cs : List Char} {bits : BitVec 32} (h : IPv4.Writes cs bits) :
    IsPart cs :=
  ⟨List.ne_nil_of_mem h.dot_mem, h.colon_not_mem⟩

/-- The two groups of a dotted quad are below 65536. -/
theorem lt_of_mem_quadGroups {bits : BitVec 32} {group : Nat} (h : group ∈ quadGroups bits) :
    group < 65536 := by
  have hlt := bits.isLt
  simp only [quadGroups, List.mem_cons, List.not_mem_nil, or_false] at h
  omega

/-- Parts that write groups can be told from each other. -/
theorem WritesParts.isPart {parts : List (List Char)} {groups : List Nat}
    (h : WritesParts parts groups) : ∀ part ∈ parts, IsPart part := by
  induction h with
  | nil => simp
  | quad h => simpa using isPart_of_writes h
  | cons h _ ih => exact List.forall_mem_cons.mpr ⟨h.isPart.1, ih⟩

/-- Groups that parts write are below 65536. -/
theorem WritesParts.lt {parts : List (List Char)} {groups : List Nat}
    (h : WritesParts parts groups) : ∀ group ∈ groups, group < 65536 := by
  induction h with
  | nil => simp
  | quad _ => exact fun group => lt_of_mem_quadGroups
  | cons h _ ih => exact List.forall_mem_cons.mpr ⟨h.lt, ih⟩

/-- There is at most one group more than there are parts. -/
theorem WritesParts.length_le {parts : List (List Char)} {groups : List Nat}
    (h : WritesParts parts groups) : groups.length ≤ parts.length + 1 := by
  induction h with
  | nil => simp
  | quad _ => simp [quadGroups]
  | cons _ _ ih => simpa using ih

/-- Parts that each write one group write them together. -/
theorem writesParts_of_forall₂ {parts : List (List Char)} {groups : List Nat}
    (h : List.Forall₂ WritesGroup parts groups) : WritesParts parts groups := by
  induction h with
  | nil => exact .nil
  | cons h _ ih => exact .cons h ih

/-- One part at the end of a text writes its group, or the two groups of a dotted quad. -/
theorem writesParts_singleton_iff {part : List Char} {groups : List Nat} :
    WritesParts [part] groups ↔
      (∃ bits, IPv4.Writes part bits ∧ groups = quadGroups bits) ∨
        ∃ group, WritesGroup part group ∧ groups = [group] := by
  constructor
  · intro h
    cases h with
    | quad h => exact Or.inl ⟨_, h, rfl⟩
    | cons h ht =>
      cases ht
      exact Or.inr ⟨_, h, rfl⟩
  · rintro (⟨bits, h, rfl⟩ | ⟨group, h, rfl⟩)
    · exact .quad h
    · exact .cons h .nil

/-- The parts at the end of a text are read as the groups that they write, and nothing else is
read. -/
theorem tailGroups?_eq_some_iff {parts : List (List Char)} {groups : List Nat} :
    tailGroups? parts = some groups ↔ WritesParts parts groups := by
  induction parts using tailGroups?.induct generalizing groups with
  | case1 =>
    rw [tailGroups?, Option.some.injEq]
    constructor
    · rintro rfl
      exact .nil
    · rintro ⟨⟩
      rfl
  | case2 part hdot =>
    -- A text with a dot is no group, so it is a dotted quad if it writes anything.
    have hgroup (group : Nat) : ¬ WritesGroup part group := fun h => h.isPart.2 hdot
    rw [tailGroups?, if_pos hdot, Option.map_eq_some_iff, writesParts_singleton_iff]
    simp only [IPv4.ofText?_eq_some_iff, hgroup, false_and, exists_false, or_false,
      @eq_comm _ _ groups]
  | case3 part hdot =>
    have hquad (bits : BitVec 32) : ¬ IPv4.Writes part bits := fun h => hdot h.dot_mem
    rw [tailGroups?, if_neg hdot, Option.map_eq_some_iff, writesParts_singleton_iff]
    simp only [group?_eq_some_iff, hquad, false_and, exists_false, false_or, @eq_comm _ _ groups]
  | case4 part rest hne ih =>
    rw [tailGroups?]
    · simp only [Option.bind_eq_bind, Option.bind_eq_some_iff, group?_eq_some_iff, ih]
      constructor
      · rintro ⟨group, hg, others, ho, h⟩
        cases h
        exact .cons hg ho
      · intro h
        cases h with
        | quad _ => exact absurd rfl hne
        | cons hg ho => exact ⟨_, hg, _, ho, rfl⟩
    · exact hne

/-- What is read of the parts of a text is what stands between its colons. -/
theorem intercalate_parts (cs : List Char) : [':'].intercalate (parts cs) = cs := by
  rw [parts]
  split_ifs with h
  · rw [h]
    rfl
  · exact List.intercalate_splitOn ':'

/-- Parts that can be told from each other are those of the text that they make up. -/
theorem parts_intercalate {list : List (List Char)} (h : ∀ part ∈ list, IsPart part) :
    parts ([':'].intercalate list) = list := by
  cases list with
  | nil => rfl
  | cons part rest =>
    have hne : [':'].intercalate (part :: rest) ≠ [] := by
      have hpart := (h part List.mem_cons_self).1
      cases rest with
      | nil => simpa using hpart
      | cons next rest => simp
    rw [parts, if_neg hne]
    exact List.splitOn_intercalate ':' (fun part hp => (h part hp).2) (List.cons_ne_nil _ _)

/-- A text is cut into what stands in front of the two colons and what follows them. -/
theorem eq_append_of_cutAtGap? {cs front back : List Char} (h : cutAtGap? cs = some (front, back)) :
    cs = front ++ ':' :: ':' :: back := by
  induction cs generalizing front with
  | nil => simp [cutAtGap?] at h
  | cons c rest ih =>
    rw [cutAtGap?] at h
    split_ifs at h with hgap
    · obtain ⟨rfl, hhead⟩ := hgap
      obtain ⟨rfl, rfl⟩ := Prod.mk.inj (Option.some.inj h)
      rw [List.nil_append, List.cons_head?_tail hhead]
    · obtain ⟨sides, hs, he⟩ := Option.map_eq_some_iff.mp h
      obtain ⟨rfl, rfl⟩ := Prod.mk.inj he
      rw [List.cons_append, ← ih hs]

/-- What has no colon is not cut. -/
theorem cutAtGap?_append {front : List Char} (h : ':' ∉ front) (rest : List Char) :
    cutAtGap? (front ++ rest) =
      (cutAtGap? rest).map fun sides => (front ++ sides.1, sides.2) := by
  induction front with
  | nil => simp
  | cons c front ih =>
    rw [List.mem_cons, not_or] at h
    obtain ⟨hc, hf⟩ := h
    rw [List.cons_append, cutAtGap?, if_neg fun hgap => hc hgap.1.symm, ih hf, Option.map_map]
    rfl

/-- Joined parts do not begin with a colon. -/
theorem head?_intercalate_append_ne {part : List Char} (h : IsPart part)
    (others : List (List Char)) (rest : List Char) :
    ([':'].intercalate (part :: others) ++ rest).head? ≠ some ':' := by
  obtain ⟨c, cs, rfl⟩ := List.exists_cons_of_ne_nil h.1
  rw [List.intercalate_cons_cons_left, List.cons_append, List.head?_cons, Ne, Option.some.injEq]
  rintro rfl
  exact h.2 List.mem_cons_self

/-- Parts that can be told from each other have no two colons in a row between them. -/
theorem cutAtGap?_intercalate_append {list : List (List Char)} (h : ∀ part ∈ list, IsPart part)
    (rest : List Char) :
    cutAtGap? ([':'].intercalate list ++ rest) =
      (cutAtGap? rest).map fun sides => ([':'].intercalate list ++ sides.1, sides.2) := by
  induction list with
  | nil => simp
  | cons part others ih =>
    obtain ⟨hpart, hothers⟩ := List.forall_mem_cons.mp h
    cases others with
    | nil => simpa using cutAtGap?_append hpart.2 rest
    | cons next others =>
      -- Behind the colon stands the first character of the next part.
      have hhead := head?_intercalate_append_ne (hothers next List.mem_cons_self) others rest
      rw [List.intercalate_cons_cons, List.append_assoc, List.append_assoc,
        cutAtGap?_append hpart.2, List.singleton_append, cutAtGap?,
        if_neg fun hgap => hhead hgap.2, ih hothers, Option.map_map, Option.map_map]
      simp [Function.comp_def]

/-- The zero groups that are left out make up the eight groups, and there is at least one. -/
theorem fillGap_eq_some_iff {high low groups : List Nat} :
    fillGap high low = some groups ↔
      groups.length = 8 ∧ ∃ count, 1 ≤ count ∧ groups = high ++ List.replicate count 0 ++ low := by
  rw [fillGap]
  constructor
  · intro h
    split_ifs at h with hgiven
    cases h
    refine ⟨?_, _, ?_, rfl⟩
    · simp
      omega
    · omega
  · rintro ⟨hl, count, hc, rfl⟩
    simp only [List.length_append, List.length_replicate] at hl
    rw [if_pos (by omega)]
    have hcount : 8 - (high.length + low.length) = count := by omega
    rw [hcount]

/-- Parts are read as groups one by one if each of them writes one. -/
theorem mapM_group?_eq_some_iff {parts : List (List Char)} {groups : List Nat} :
    parts.mapM group? = some groups ↔ List.Forall₂ WritesGroup parts groups := by
  simp only [Text.mapM_eq_some_iff, group?_eq_some_iff]

/-- Parts that each write one group can be told from each other. -/
theorem isPart_of_forall₂ {parts : List (List Char)} {groups : List Nat}
    (h : List.Forall₂ WritesGroup parts groups) : ∀ part ∈ parts, IsPart part := by
  intro part hp
  obtain ⟨group, -, hg⟩ := Text.exists_value_of_mem h hp
  exact hg.isPart.1

/-- A text is read as the eight groups that it writes, and nothing else is read. -/
theorem groups?_eq_some_iff {cs : List Char} {groups : List Nat} :
    groups? cs = some groups ↔ WritesGroups cs groups ∧ groups.length = 8 := by
  constructor
  · intro h
    rw [groups?] at h
    split at h
    · rw [Option.filter_eq_some_iff, tailGroups?_eq_some_iff, decide_eq_true_eq] at h
      refine ⟨?_, h.2⟩
      rw [← intercalate_parts cs]
      exact .whole h.1
    · rename_i front back hcut
      simp only [Option.bind_eq_bind, Option.bind_eq_some_iff, mapM_group?_eq_some_iff,
        tailGroups?_eq_some_iff, fillGap_eq_some_iff] at h
      obtain ⟨high, hhigh, low, hlow, hlength, count, hc, rfl⟩ := h
      refine ⟨?_, hlength⟩
      rw [eq_append_of_cutAtGap? hcut, ← intercalate_parts front, ← intercalate_parts back]
      exact .cut hhigh hlow hc
  · rintro ⟨hw, hlength⟩
    rw [groups?]
    cases hw with
    | whole h =>
      have hcut := cutAtGap?_intercalate_append h.isPart []
      rw [List.append_nil] at hcut
      rw [hcut]
      simp only [cutAtGap?, Option.map_none]
      rw [parts_intercalate h.isPart, Option.filter_eq_some_iff, tailGroups?_eq_some_iff,
        decide_eq_true_eq]
      exact ⟨h, hlength⟩
    | @cut front back high low count hf hb hc =>
      rw [cutAtGap?_intercalate_append (isPart_of_forall₂ hf)]
      simp only [cutAtGap?, List.head?_cons, List.tail_cons, and_self, if_true, Option.map_some,
        List.append_nil, Option.bind_eq_bind, Option.bind_eq_some_iff, mapM_group?_eq_some_iff,
        tailGroups?_eq_some_iff, fillGap_eq_some_iff, parts_intercalate (isPart_of_forall₂ hf),
        parts_intercalate hb.isPart]
      exact ⟨high, hf, low, hb, hlength, count, hc, rfl⟩

/-- Groups that a text writes are below 65536. -/
theorem WritesGroups.lt {cs : List Char} {groups : List Nat} (h : WritesGroups cs groups) :
    ∀ group ∈ groups, group < 65536 := by
  cases h with
  | whole h => exact h.lt
  | cut hf hb _ =>
    intro group hg
    rw [List.mem_append, List.mem_append] at hg
    rcases hg with (hg | hg) | hg
    · exact (writesParts_of_forall₂ hf).lt group hg
    · rw [List.eq_of_mem_replicate hg]
      decide
    · exact hb.lt group hg

/-- The text of an address is read as the address that it writes, and nothing else is read. -/
theorem ofText?_eq_some_iff {cs : List Char} {address : BitVec 128} :
    ofText? cs = some address ↔ Writes cs address := by
  rw [ofText?, Option.map_eq_some_iff]
  constructor
  · rintro ⟨values, hvalues, rfl⟩
    obtain ⟨hw, hlength⟩ := groups?_eq_some_iff.mp hvalues
    rw [Writes, groups_ofGroups hlength hw.lt]
    exact hw
  · intro h
    exact ⟨groups address, groups?_eq_some_iff.mpr ⟨h, length_groups address⟩,
      ofGroups_groups address⟩

/-- A text writes one address at most. -/
theorem Writes.eq {cs : List Char} {first second : BitVec 128} (hf : Writes cs first)
    (hs : Writes cs second) : first = second :=
  Option.some.inj ((ofText?_eq_some_iff.mpr hf).symm.trans (ofText?_eq_some_iff.mpr hs))

/-- Parts that write groups have nothing but letters, digits and dots in them. -/
theorem WritesParts.eq_or_isAlphanum {parts : List (List Char)} {groups : List Nat}
    (h : WritesParts parts groups) :
    ∀ part ∈ parts, ∀ c ∈ part, c = '.' ∨ c.isAlphanum = true := by
  induction h with
  | nil => simp
  | quad h =>
    rw [List.forall_mem_singleton]
    exact fun c => h.eq_or_isAlphanum
  | cons h _ ih => exact List.forall_mem_cons.mpr ⟨fun c hc => Or.inr (h.numeral.isAlphanum hc), ih⟩

/-- The text of an address has nothing but letters, digits, dots and colons in it. -/
theorem Writes.isAlphanum {cs : List Char} {address : BitVec 128} (h : Writes cs address)
    {c : Char} (hc : c ∈ cs) (hcolon : c ≠ ':') (hdot : c ≠ '.') : c.isAlphanum = true := by
  have hparts {parts : List (List Char)} {values : List Nat} (hp : WritesParts parts values)
      (hc : c ∈ [':'].intercalate parts) : c.isAlphanum = true := by
    obtain ⟨part, hpart, hcp⟩ := (Text.eq_or_exists_mem_of_mem_intercalate hc).resolve_left hcolon
    exact (hp.eq_or_isAlphanum part hpart c hcp).resolve_left hdot
  rw [Writes] at h
  generalize groups address = values at h
  cases h with
  | whole h => exact hparts h hc
  | cut hf hb _ =>
    rw [List.mem_append, List.mem_cons, List.mem_cons] at hc
    rcases hc with hc | hc | hc | hc
    · exact hparts (writesParts_of_forall₂ hf) hc
    · exact absurd hc hcolon
    · exact absurd hc hcolon
    · exact hparts hb hc

/-- The text of an address has a colon. -/
theorem Writes.colon_mem {cs : List Char} {address : BitVec 128} (h : Writes cs address) :
    ':' ∈ cs := by
  have hlength := length_groups address
  rw [Writes] at h
  generalize groups address = values at h hlength
  cases h with
  | whole h =>
    have := h.length_le
    exact Text.mem_intercalate (by omega)
  | cut => simp

end HostOverlay.Address.IPv6
