import HostOverlay.Address.Cidr

/-!
# Rejected texts

A text is rejected as an address with a prefix length for one of two reasons: it has no slash, or it
has one and denotes nothing all the same (`Cidr.Rejects`). The address of every other text is read
(`Cidr.readAddress_eq_ok_iff`). The message tells which of the reasons it is
(`Cidr.Rejects.message_eq_iff`).
-/

namespace HostOverlay

/-- A quoted text begins with its quote. -/
theorem Text.head?_quoted (text : String) :
    (quoted text).toList.head? = some (quoteMark text.toList) := by
  simp only [quoted, String.toList_ofList, List.cons_append, List.head?_cons]

/-- Whether a text is rejected as an address with a prefix length, and why. -/
inductive Cidr.Rejects (text : String) : Malformed → Prop
  /-- There is no slash. -/
  | noLength (hs : '/' ∉ text.toList) : Rejects text (.noLength text)
  /-- There is a slash, but the text denotes no address. -/
  | noAddress (hs : '/' ∈ text.toList) (hn : ofText? text.toList = none) :
    Rejects text (.noAddress text)

/-- A text that denotes an address with a prefix length has a slash. -/
theorem Cidr.slash_mem_of_ofText?_eq_some {cs : List Char} {cidr : Cidr}
    (h : ofText? cs = some cidr) : '/' ∈ cs := by
  refine Decidable.byContradiction fun hs => ?_
  rw [ofText?, List.splitOn_eq_singleton hs] at h
  simp at h

/-- The address of a text that denotes one is read. -/
theorem Cidr.readAddress_of_ofText?_eq_some {text : String} {cidr : Cidr}
    (h : ofText? text.toList = some cidr) : readAddress text = .ok cidr.address := by
  rw [readAddress, if_pos (slash_mem_of_ofText?_eq_some h), read, h]
  rfl

/-- A text that is rejected is not read. -/
theorem Cidr.Rejects.readAddress_eq {text : String} {cause : Malformed}
    (h : Rejects text cause) : readAddress text = .error cause := by
  cases h with
  | noLength hs => rw [readAddress, if_neg hs]
  | noAddress hs hn =>
    rw [readAddress, if_pos hs, read, hn]
    rfl

/-- A text denotes an address with a prefix length, or it is rejected. -/
theorem Cidr.exists_ofText?_or_rejects (text : String) :
    (∃ cidr, ofText? text.toList = some cidr) ∨ ∃ cause, Rejects text cause := by
  cases h : ofText? text.toList with
  | some cidr => exact Or.inl ⟨cidr, rfl⟩
  | none =>
    by_cases hs : '/' ∈ text.toList
    · exact Or.inr ⟨_, .noAddress hs h⟩
    · exact Or.inr ⟨_, .noLength hs⟩

namespace Cidr

/-- An address is read from a text if the text denotes it with some length. -/
theorem readAddress_eq_ok_iff {text : String} {address : Address} :
    readAddress text = .ok address ↔ ∃ cidr, ofText? text.toList = some cidr ∧ cidr.address = address := by
  constructor
  · intro h
    rcases exists_ofText?_or_rejects text with ⟨cidr, hc⟩ | ⟨cause, hr⟩
    · rw [readAddress_of_ofText?_eq_some hc] at h
      exact ⟨cidr, hc, Except.ok.inj h⟩
    · rw [hr.readAddress_eq] at h
      cases h
  · rintro ⟨cidr, hc, rfl⟩
    exact readAddress_of_ofText?_eq_some hc

/-- The message about a rejected text says that the length is missing exactly if there is no slash. -/
theorem Rejects.message_eq_iff {text : String} {cause : Malformed} (h : Rejects text cause) :
    cause.message = "missing prefix length in " ++ Text.quoted text ↔ '/' ∉ text.toList := by
  cases h with
  | noLength hs => exact ⟨fun _ => hs, fun _ => rfl⟩
  | noAddress hs hn =>
    refine ⟨fun hm => ?_, fun hs' => absurd hs hs'⟩
    -- The other message begins with the text, that is, with a quote.
    have hmissing : ("missing prefix length in " ++ Text.quoted text).toList.head? = some 'm' := by
      rw [String.toList_append, List.head?_append]
      rfl
    have hmessage : (Malformed.noAddress text).message =
        Text.quoted text ++ " does not appear to be an IPv4 or IPv6 interface" := rfl
    rw [← hm, hmessage, String.toList_append, List.head?_append, Text.head?_quoted, Option.some_or,
      Text.quoteMark] at hmissing
    split at hmissing <;> simp at hmissing

end Cidr

end HostOverlay
