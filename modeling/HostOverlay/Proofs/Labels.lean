import HostOverlay.Reference

/-!
# The labels of a valid host

The labels of a valid host are texts, so every text that such a host expands becomes a text again:
the text of the label that it names, or the empty text. `expand_of_isValid` says so, and the lemmas
beside it say which text it is. They are what later modules use of `Host.expand`.
-/

namespace HostOverlay

open Schema

/-- A text is no reference exactly when it does not begin with the keyword. -/
theorem Reference.ofText?_eq_none_iff (text : String) :
    Reference.ofText? text = none ↔ ¬ Reference.keyword.toList <+: text.toList := by
  rw [← List.isPrefixOf_iff_prefix]
  unfold Reference.ofText?
  by_cases h : Reference.keyword.toList.isPrefixOf text.toList = true
  · rw [if_pos h]
    split <;> simp [h]
  · simp [h]

namespace Host

/-- The text that a text becomes on a host with texts as labels. -/
def expandText (host : Host) (text : String) : String := (host.expand text).textOrEmpty

/-- The labels of a valid host are a mapping. -/
theorem labels_of_isValid {host : Host} (h : Record.isValid host = true) :
    ∃ entries, host.labels = .mapping entries := by
  obtain ⟨entries, he, -⟩ :=
    Shape.fits_dictionary_iff.mp (Record.fits_of_isValid h "labels" rfl rfl)
  exact ⟨entries, he⟩

/-- The labels of a valid host can be read. -/
theorem labelsMisfit?_of_isValid {host : Host} (h : Record.isValid host = true) :
    host.labelsMisfit? = none := by
  obtain ⟨entries, he⟩ := labels_of_isValid h
  rw [labelsMisfit?, Record.lack?_eq_none h, he]
  rfl

/-- The labels of a valid host are texts. -/
theorem eq_text_of_mem_labels {host : Host} (h : Record.isValid host = true)
    {entries : Table String Tree} (he : host.labels = .mapping entries)
    {label : String × Tree} (hm : label ∈ entries) : ∃ text, label.2 = .text text := by
  obtain ⟨held, hh, hc⟩ :=
    Shape.fits_dictionary_iff.mp (Record.fits_of_isValid h "labels" rfl rfl)
  obtain rfl := Tree.mapping.inj (he.symm.trans hh)
  exact Shape.fits_text_iff.mp (hc label hm)

/-- What a valid host has under a name is a text. -/
theorem eq_text_of_label {host : Host} (h : Record.isValid host = true) {name : String}
    {value : Tree} (hv : host.labels.get? name = some value) : ∃ text, value = .text text := by
  obtain ⟨entries, he⟩ := labels_of_isValid h
  rw [he, Tree.get?, Tree.entries?, Option.bind_some] at hv
  exact eq_text_of_mem_labels h he (Table.mem_of_get?_eq_some hv)

/-- What a valid host has under a label's name is the text of the label, which is empty if the host
lacks the label. -/
theorem labelValue_of_isValid {host : Host} (h : Record.isValid host = true) (name : String) :
    host.labelValue name = .text (host.labels.textAt name) := by
  unfold labelValue Tree.textAt
  cases hv : host.labels.get? name with
  | none => rfl
  | some value =>
    obtain ⟨text, rfl⟩ := eq_text_of_label h hv
    by_cases he : text = ""
    · simp [he, Tree.isVoid, Tree.emptyText, Tree.textOrEmpty]
    · simp [he, Tree.isVoid, Tree.textOrEmpty]

/-- The names of the labels of a host. -/
def labelNames (host : Host) : List String := Table.keys host.labels.entriesOrNone

/-- Only a label that the host has can have a text that is not empty. -/
theorem mem_labelNames_of_textAt_ne {host : Host} {name : String}
    (h : host.labels.textAt name ≠ "") : name ∈ host.labelNames := by
  cases hg : host.labels.get? name with
  | none => simp [Tree.textAt, hg] at h
  | some value =>
    obtain ⟨entries, he, hv⟩ := Option.bind_eq_some_iff.mp hg
    rw [labelNames, Tree.entriesOrNone, he, Option.getD_some]
    exact List.mem_map_of_mem (Table.mem_of_get?_eq_some hv)

/-- A reference to a label stands for the text of the label on a valid host. -/
theorem deref_label_of_isValid {host : Host} (h : Record.isValid host = true) (name : String) :
    host.deref (.label name) = .text (host.labels.textAt name) :=
  labelValue_of_isValid h name

/-- What a reference stands for on a valid host is a text. -/
theorem deref_of_isValid {host : Host} (h : Record.isValid host = true) (reference : Reference) :
    ∃ text, host.deref reference = .text text := by
  cases reference with
  | label name => exact ⟨_, deref_label_of_isValid h name⟩
  | nothing => exact ⟨"", rfl⟩

/-- A valid host expands a text to a text. -/
theorem expand_of_isValid {host : Host} (h : Record.isValid host = true) (text : String) :
    host.expand text = .text (host.expandText text) := by
  have ht : ∃ after, host.expand text = .text after := by
    unfold expand
    split
    · exact deref_of_isValid h _
    · exact ⟨text, rfl⟩
  obtain ⟨after, ha⟩ := ht
  rw [expandText, ha]
  rfl

/-- A text that is no reference stays. -/
theorem expandText_of_ofText?_eq_none (host : Host) {text : String}
    (ht : Reference.ofText? text = none) : host.expandText text = text := by
  rw [expandText, expand, ht]
  rfl

/-- A reference to nothing becomes the empty text. -/
theorem expandText_of_ofText?_eq_nothing (host : Host) {text : String}
    (ht : Reference.ofText? text = some .nothing) : host.expandText text = "" := by
  rw [expandText, expand, ht]
  rfl

/-- On a valid host, a reference to a label becomes the text of the label. -/
theorem expandText_of_ofText?_eq_label {host : Host} (h : Record.isValid host = true)
    {text name : String} (ht : Reference.ofText? text = some (.label name)) :
    host.expandText text = host.labels.textAt name := by
  rw [expandText, expand, ht]
  show (host.deref (.label name)).textOrEmpty = _
  rw [deref_label_of_isValid h]
  rfl

end Host

end HostOverlay
