import HostOverlay.Proofs.Bridge.Discovery

/-!
# How far a discovery comes

A discovery visits the files in the order of their names and ends with the first that declares a
bridge once it is substituted. Which files it visits can therefore be told without a scan: it reaches
a name if no file with a lesser name declares a bridge (`Bridge.Reaches`), and it visits the files
whose names it reaches, each of them substituted, and no others (`Bridge.mem_visitedOn_iff`).

What it takes to declare a bridge is told from the entries of a file alone (`Bridge.IsBridgeFile`,
`Tree.CountsAs`).
-/

namespace HostOverlay

namespace Tree

/-- What counts as the text under a key. -/
inductive CountsAs (tree : Tree) (key : String) : String → Prop
  /-- A text counts as itself. -/
  | held {content : String} (h : tree.get? key = some (.text content)) : CountsAs tree key content
  /-- A missing value, a value that is no text, and every value of a tree that is no mapping count
  as the empty text. -/
  | missing (h : ∀ content, tree.get? key ≠ some (.text content)) : CountsAs tree key ""

/-- What counts as the text under a key is what is read as such. -/
theorem countsAs_iff {tree : Tree} {key content : String} :
    tree.CountsAs key content ↔ content = tree.textAt key := by
  unfold textAt
  constructor
  · intro h
    cases h with
    | held h => rw [h]; rfl
    | missing h =>
      cases hv : tree.get? key with
      | none => rfl
      | some value =>
        cases value with
        | text other => exact absurd hv (h other)
        | _ => rfl
  · rintro rfl
    cases hv : tree.get? key with
    | none => exact .missing (by simp [hv])
    | some value =>
      cases value with
      | text content => exact .held hv
      | _ => exact .missing (by simp [hv])

/-- A text under a key that is not empty is held there. -/
theorem get?_eq_some_text {tree : Tree} {key : String} (h : tree.textAt key ≠ "") :
    tree.get? key = some (.text (tree.textAt key)) := by
  have hc : tree.CountsAs key (tree.textAt key) := countsAs_iff.mpr rfl
  generalize tree.textAt key = content at h hc
  cases hc with
  | held hv => exact hv
  | missing => exact absurd rfl h

end Tree

namespace Bridge

/-- Whether a file declares a bridge. -/
structure IsBridgeFile (settings : Settings) (file : Tree) : Prop where
  /-- The file is a mapping. -/
  isMapping : ∃ entries, file = .mapping entries
  /-- What counts as the type of the file is the bridge type of the settings. -/
  hasType : ∃ type, file.CountsAs "type" type ∧ settings.bridgeCniType = .text type
  /-- The file names a bridge. -/
  names : ∃ bridge, bridge ≠ "" ∧ file.get? "bridge" = some (.text bridge)

/-- A scan ends with the files that declare a bridge. -/
theorem qualifies_iff {settings : Settings} {file : Tree} :
    qualifies settings file = true ↔ IsBridgeFile settings file := by
  rw [qualifies, Bool.and_eq_true, Tree.text_beq_iff, bne_iff_ne]
  constructor
  · rintro ⟨ht, hb⟩
    have hget := Tree.get?_eq_some_text hb
    refine ⟨?_, ⟨_, Tree.countsAs_iff.mpr rfl, ht⟩, _, hb, hget⟩
    cases file with
    | mapping entries => exact ⟨entries, rfl⟩
    | _ => simp [Tree.get?, Tree.entries?] at hget
  · rintro ⟨-, ⟨type, ht, hs⟩, bridge, hb, hget⟩
    rw [Tree.countsAs_iff.mp ht] at hs
    rw [← Tree.countsAs_iff.mp (.held hget)]
    exact ⟨hs, hb⟩

instance (settings : Settings) (file : Tree) : Decidable (IsBridgeFile settings file) :=
  decidable_of_iff _ qualifies_iff

/-- Files with different names are in strict order when they are sorted by name. -/
theorem pairwise_byName {files : Table String Tree} (hd : (Table.keys files).Nodup) :
    (byName files).Pairwise fun a b => a.1 < b.1 := by
  have hsorted : (byName files).Pairwise fun a b => decide (a.1 ≤ b.1) = true := by
    unfold byName
    apply List.pairwise_mergeSort
    · intro a b c hab hbc
      exact decide_eq_true (String.le_trans (of_decide_eq_true hab) (of_decide_eq_true hbc))
    · intro a b
      simpa using String.le_total a.1 b.1
  have hdistinct : (byName files).Pairwise fun a b => a.1 ≠ b.1 :=
    List.pairwise_map.mp (nodup_keys_byName hd)
  refine (hsorted.and hdistinct).imp fun {a b} hab => ?_
  exact Std.lt_of_le_of_ne (of_decide_eq_true hab.1) hab.2

/-- A scan of files in strict order visits those in front of which no file declares a bridge. -/
theorem mem_visited_iff {settings : Settings} {files : Table String Tree}
    (hs : files.Pairwise fun a b => a.1 < b.1) {file : String × Tree} :
    file ∈ visited settings files ↔
      file ∈ files ∧ ∀ other ∈ files, IsBridgeFile settings other.2 → file.1 ≤ other.1 := by
  induction files with
  | nil => simp [visited]
  | cons first rest ih =>
    obtain ⟨hfirst, hs⟩ := List.pairwise_cons.mp hs
    -- The first file comes before every other, so nothing declares a bridge in front of it.
    have hleast : ∀ other ∈ first :: rest, first.1 ≤ other.1 := by
      intro other ho
      rcases List.mem_cons.mp ho with rfl | ho
      · exact String.le_refl _
      · exact Std.le_of_lt (hfirst other ho)
    rw [visited]
    by_cases hq : qualifies settings first.2 = true
    · rw [if_pos hq, List.mem_singleton]
      constructor
      · rintro rfl
        exact ⟨List.mem_cons_self, fun other ho _ => hleast other ho⟩
      · rintro ⟨hm, hreach⟩
        rcases List.mem_cons.mp hm with rfl | hm
        · rfl
        · -- The file would come behind one that declares a bridge.
          have hle := hreach first List.mem_cons_self (qualifies_iff.mp hq)
          exact absurd (hfirst file hm) (String.not_lt.mpr hle)
    · rw [if_neg hq, List.mem_cons, ih hs]
      constructor
      · rintro (rfl | ⟨hm, hreach⟩)
        · exact ⟨List.mem_cons_self, fun other ho _ => hleast other ho⟩
        · refine ⟨List.mem_cons_of_mem _ hm, fun other ho hb => ?_⟩
          rcases List.mem_cons.mp ho with rfl | ho
          · exact absurd (qualifies_iff.mpr hb) hq
          · exact hreach other ho hb
      · rintro ⟨hm, hreach⟩
        rcases List.mem_cons.mp hm with rfl | hm
        · exact Or.inl rfl
        · exact Or.inr ⟨hm, fun other ho => hreach other (List.mem_cons_of_mem _ ho)⟩

/-- Whether a discovery on a host reaches a name: no file with a lesser name declares a bridge there.
If no file declares one, every name is reached. -/
def Reaches (settings : Settings) (host : Host) (files : Table String Tree) (name : String) : Prop :=
  ∀ file ∈ files, IsBridgeFile settings (file.2.substitute host) → name ≤ file.1

instance (settings : Settings) (host : Host) (files : Table String Tree) (name : String) :
    Decidable (Reaches settings host files name) :=
  inferInstanceAs (Decidable (∀ file ∈ files, _ → _))

/-- Substitution in each file keeps the order of the names. -/
theorem pairwise_mapValues {change : Tree → Tree} {files : Table String Tree}
    (hs : files.Pairwise fun a b => a.1 < b.1) :
    (Table.mapValues change files).Pairwise fun a b => a.1 < b.1 :=
  List.pairwise_map.mpr hs

section

variable {settings : Settings} {host : Host} {files : Table String Tree}
  (hd : (Table.keys files).Nodup)
include hd

/-- A discovery visits the files whose names it reaches, and it leaves them substituted. -/
theorem mem_visitedOn_iff {name : String} {value : Tree} :
    (name, value) ∈ visitedOn settings host files ↔
      (∃ file, (name, file) ∈ files ∧ file.substitute host = value) ∧
        Reaches settings host files name := by
  have hmem (entry : String × Tree) :
      entry ∈ Table.mapValues (Tree.substitute host) (byName files) ↔
        ∃ file ∈ files, (file.1, file.2.substitute host) = entry := by
    simp only [Table.mapValues, List.mem_map, (byName_perm files).mem_iff]
  rw [visitedOn, mem_visited_iff (pairwise_mapValues (pairwise_byName hd)), hmem]
  refine and_congr ?_ ?_
  · constructor
    · rintro ⟨⟨other, file⟩, hm, he⟩
      obtain ⟨rfl, rfl⟩ := Prod.mk.inj he
      exact ⟨file, hm, rfl⟩
    · rintro ⟨file, hm, rfl⟩
      exact ⟨_, hm, rfl⟩
  · constructor
    · intro hreach file hm
      exact hreach _ ((hmem _).mpr ⟨file, hm, rfl⟩)
    · intro hreach entry hm
      obtain ⟨file, hfile, rfl⟩ := (hmem _).mp hm
      exact hreach file hfile

end

end Bridge

end HostOverlay
