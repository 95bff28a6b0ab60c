import HostOverlay.Proofs.Labels
import HostOverlay.Substitution
import Mathlib.Data.Finset.Card
import Mathlib.Data.List.Nodup
import Mathlib.Data.Nat.ModEq
import Mathlib.Dynamics.PeriodicPts.Defs

/-!
# Convergence of repeated substitution

Each substitution on the same host moves every text along the references between the host's labels:
from a reference to the text of the label that it names. So the texts of a tree walk through a graph
whose points are the labels, each with at most one successor. If the labels have no cycle of two or
more, every walk comes to rest, and it does so within one substitution more than there are labels,
for a longer walk would meet a label twice (`exists_isCycle_of_walk`) and so find a cycle. A cycle in
turn makes a text that never comes to rest (`iterate_expandText_of_isCycle`). Both directions and
the bound are `substitute_converges_iff`; a tree comes to rest as its texts do
(`iterate_substituteHeld_congr`).
-/

namespace HostOverlay

open Schema

/-- What a function does not change once stays the same from then on. -/
theorem iterate_eq_iterate_of_rest {α : Type} {f : α → α} {a : α} {k m n : ℕ}
    (hrest : f^[k] a = f^[k + 1] a) (hm : k ≤ m) (hn : k ≤ n) : f^[m] a = f^[n] a := by
  have hfixed : f (f^[k] a) = f^[k] a := by
    rw [← Function.iterate_succ_apply' f, ← hrest]
  have hsame : ∀ l, k ≤ l → f^[l] a = f^[k] a := by
    intro l hl
    rw [show l = (l - k) + k by omega, Function.iterate_add_apply]
    exact Function.iterate_fixed hfixed (l - k)
  rw [hsame m hm, hsame n hn]

namespace Host

/-- The label to which the text of a label refers, if it is a reference to a label. -/
def successor? (host : Host) (name : String) : Option String :=
  match Reference.ofText? (host.labels.textAt name) with
  | some (.label other) => some other
  | some .nothing | none => none

/-- Whether different labels of a host, two or more, refer to one another in a circle. A name that
refers to another one is the name of a label. -/
structure IsCycle (host : Host) (names : List String) : Prop where
  /-- A label that refers to itself is no cycle. -/
  two_le_length : 2 ≤ names.length
  /-- The labels are different. -/
  nodup : names.Nodup
  /-- Each refers to the next, and the last to the first. -/
  successor?_getElem : ∀ (i : ℕ) (hi : i < names.length),
    host.successor? names[i] = names[(i + 1) % names.length]?

/-- The label to which the text of a label refers; a label whose text is no such reference comes
next to itself. -/
def next (host : Host) (name : String) : String := (host.successor? name).getD name

/-- The number of labels of a host. -/
def labelCount (host : Host) : ℕ := host.labels.entriesOrNone.length

/-- A label has a successor exactly if its text is a reference to a label. -/
theorem successor?_eq_some_iff (host : Host) (name other : String) :
    host.successor? name = some other ↔
      Reference.ofText? (host.labels.textAt name) = some (.label other) := by
  unfold successor?
  split <;> simp_all

/-- The empty text is no reference, so it stays. -/
@[simp] theorem expandText_empty (host : Host) : host.expandText "" = "" :=
  expandText_of_ofText?_eq_none host (by decide)

/-- A text that two substitutions in a row change differently refers to a label whose text is not
empty, and it becomes that text. -/
theorem exists_label_of_expandText_ne {host : Host} (h : Record.isValid host = true)
    {text : String} (hne : host.expandText (host.expandText text) ≠ host.expandText text) :
    ∃ name, Reference.ofText? text = some (.label name) ∧
      host.expandText text = host.labels.textAt name ∧ host.labels.textAt name ≠ "" := by
  cases hr : Reference.ofText? text with
  | none =>
    have he := expandText_of_ofText?_eq_none host hr
    rw [he, he] at hne
    exact absurd rfl hne
  | some reference =>
    cases reference with
    | nothing =>
      rw [expandText_of_ofText?_eq_nothing host hr, expandText_empty] at hne
      exact absurd rfl hne
    | label name =>
      have he := expandText_of_ofText?_eq_label h hr
      refine ⟨name, rfl, he, ?_⟩
      intro hempty
      rw [he, hempty, expandText_empty] at hne
      exact absurd rfl hne

/-- A walk through labels, each the successor of the one before, always goes to the next one. -/
theorem iterate_next_of_walk {host : Host} {walk : ℕ → String} {bound : ℕ}
    (hwalk : ∀ k < bound, host.successor? (walk k) = some (walk (k + 1))) (i : ℕ) :
    ∀ t, i + t ≤ bound → host.next^[t] (walk i) = walk (i + t) := by
  intro t
  induction t with
  | zero =>
    intro _
    rfl
  | succ t ih =>
    intro ht
    rw [Function.iterate_succ_apply', ih (by omega), next, hwalk _ (by omega), Option.getD_some,
      Nat.add_assoc]

/-- The labels that come next to a label, one after the other until it comes again, are a cycle if
there are two or more of them and each is the successor of the one before. -/
theorem isCycle_of_minimalPeriod {host : Host} {first : String} {period : ℕ}
    (hp : Function.minimalPeriod host.next first = period) (htwo : 2 ≤ period)
    (hsuccessor : ∀ t < period,
      host.successor? (host.next^[t] first) = some (host.next^[t + 1] first)) :
    host.IsCycle ((List.range period).map fun t => host.next^[t] first) where
  two_le_length := by
    rw [List.length_map, List.length_range]
    exact htwo
  nodup := by
    refine List.Nodup.map_on ?_ List.nodup_range
    intro s hs t ht heq
    rw [List.mem_range, ← hp] at hs ht
    exact Function.iterate_injOn_Iio_minimalPeriod hs ht heq
  successor?_getElem := by
    intro t ht
    rw [List.length_map, List.length_range] at ht
    -- The last label comes next to the first, which a remainder of the period says as well.
    have hmod : host.next^[(t + 1) % period] first = host.next^[t + 1] first := by
      rw [← hp, Function.iterate_mod_minimalPeriod_eq]
    have hlt : (t + 1) % period < period := Nat.mod_lt _ (by omega)
    simp only [List.getElem_map, List.getElem_range, List.length_map, List.length_range,
      List.getElem?_map, List.getElem?_range hlt, Option.map_some, hmod]
    exact hsuccessor t ht

/-- A walk through labels, each the successor of the one before, that comes back to a label and does
not stay there goes round a cycle. -/
theorem exists_isCycle_of_walk {host : Host} {walk : ℕ → String} {bound i j : ℕ}
    (hwalk : ∀ k < bound, host.successor? (walk k) = some (walk (k + 1)))
    (hij : i < j) (hj : j ≤ bound) (he : walk i = walk j) (hne : walk (i + 1) ≠ walk i) :
    ∃ names, host.IsCycle names := by
  have hiter := iterate_next_of_walk hwalk i
  have hperiodic : Function.IsPeriodicPt host.next (j - i) (walk i) := by
    show host.next^[j - i] (walk i) = walk i
    rw [hiter _ (by omega), show i + (j - i) = j by omega, he]
  have hpos := hperiodic.minimalPeriod_pos (by omega)
  have hle := hperiodic.minimalPeriod_le (by omega)
  have hne_one : Function.minimalPeriod host.next (walk i) ≠ 1 := by
    rw [ne_eq, Function.minimalPeriod_eq_one_iff_isFixedPt]
    intro hfixed
    exact hne ((hiter 1 (by omega)).symm.trans hfixed)
  have htwo : 2 ≤ Function.minimalPeriod host.next (walk i) := by omega
  have hsuccessor : ∀ t < Function.minimalPeriod host.next (walk i),
      host.successor? (host.next^[t] (walk i)) = some (host.next^[t + 1] (walk i)) := by
    intro t ht
    rw [hiter t (by omega), hiter (t + 1) (by omega), hwalk _ (by omega), Nat.add_assoc]
  exact ⟨_, isCycle_of_minimalPeriod rfl htwo hsuccessor⟩

/-- A text that still changes after `bound` substitutions and one more has walked through labels all
the way: each name is that of the label to which the text refers at that point, and the text after
it is the text of that label. -/
theorem exists_walk_of_expandText_ne {host : Host} (h : Record.isValid host = true) {text : String}
    {bound : ℕ} (hne : host.expandText^[bound + 1] text ≠ host.expandText^[bound + 2] text) :
    ∃ walk : ℕ → String, ∀ k ≤ bound,
      Reference.ofText? (host.expandText^[k] text) = some (.label (walk k)) ∧
        host.expandText^[k + 1] text = host.labels.textAt (walk k) ∧
        host.labels.textAt (walk k) ≠ "" := by
  -- A text that has come to rest stays at rest, so every step up to there is a change.
  have hchange : ∀ k ≤ bound + 1, host.expandText^[k] text ≠ host.expandText^[k + 1] text := by
    intro k hk hrest
    exact hne (iterate_eq_iterate_of_rest hrest hk (by omega))
  have hlabel : ∀ k, ∃ name, k ≤ bound →
      Reference.ofText? (host.expandText^[k] text) = some (.label name) ∧
        host.expandText^[k + 1] text = host.labels.textAt name ∧
        host.labels.textAt name ≠ "" := by
    intro k
    by_cases hk : k ≤ bound
    · have hk' := hchange (k + 1) (by omega)
      simp only [Function.iterate_succ_apply'] at hk' ⊢
      obtain ⟨name, hname⟩ := exists_label_of_expandText_ne h hk'.symm
      exact ⟨name, fun _ => hname⟩
    · exact ⟨"", fun hk' => absurd hk' hk⟩
  choose walk hwalk using hlabel
  exact ⟨walk, hwalk⟩

/-- On a host whose labels have no cycle, a text has come to rest after one substitution more than
the host has labels. -/
theorem iterate_expandText_of_forall_not_isCycle {host : Host} (h : Record.isValid host = true)
    (hacyclic : ∀ names, ¬ host.IsCycle names) (text : String) :
    host.expandText^[host.labelCount + 1] text = host.expandText^[host.labelCount + 2] text := by
  by_contra hne
  obtain ⟨walk, hwalk⟩ := exists_walk_of_expandText_ne h hne
  -- One name more than the host has labels: two of them are the same.
  have hcard : host.labelNames.toFinset.card < (Finset.range (host.labelCount + 1)).card := by
    rw [Finset.card_range, Nat.lt_succ_iff]
    calc host.labelNames.toFinset.card
        ≤ host.labelNames.length := List.toFinset_card_le _
      _ = host.labelCount := by rw [labelNames, Table.keys, List.length_map, labelCount]
  have hmaps : ∀ k ∈ Finset.range (host.labelCount + 1),
      walk k ∈ host.labelNames.toFinset := by
    intro k hk
    rw [Finset.mem_range, Nat.lt_succ_iff] at hk
    exact List.mem_toFinset.mpr (mem_labelNames_of_textAt_ne (hwalk k hk).2.2)
  obtain ⟨i, hi, j, hj, hij, he⟩ := Finset.exists_ne_map_eq_of_card_lt_of_maps_to hcard hmaps
  rw [Finset.mem_range] at hi hj
  wlog hlt : i < j generalizing i j
  · exact this j hj i hi hij.symm he.symm (by omega)
  have hstep : ∀ k < host.labelCount, host.successor? (walk k) = some (walk (k + 1)) := by
    intro k hk
    rw [successor?_eq_some_iff, ← (hwalk k (by omega)).2.1]
    exact (hwalk (k + 1) (by omega)).1
  have hleaves : walk (i + 1) ≠ walk i := by
    intro hstay
    have hrest : host.expandText^[i + 1] text = host.expandText^[i + 2] text := by
      rw [(hwalk (i + 1) (by omega)).2.1, hstay, (hwalk i (by omega)).2.1]
    exact hne (iterate_eq_iterate_of_rest hrest (by omega) (by omega))
  obtain ⟨names, hcycle⟩ := exists_isCycle_of_walk hstep hlt (by omega) he hleaves
  exact hacyclic names hcycle

/-- A text that refers along a cycle walks round it: after any number of substitutions it is the text
of the label that many places further. -/
theorem iterate_expandText_of_isCycle {host : Host} (h : Record.isValid host = true)
    {names : List String} (hcycle : host.IsCycle names) {first : String}
    (hfirst : names[0]? = some first) (n : ℕ) :
    ∃ name, names[n % names.length]? = some name ∧
      host.expandText^[n] (host.labels.textAt first) = host.labels.textAt name := by
  have hlength := hcycle.two_le_length
  induction n with
  | zero => exact ⟨first, by rw [Nat.zero_mod, hfirst], rfl⟩
  | succ n ih =>
    obtain ⟨name, hname, hn⟩ := ih
    obtain ⟨hlt, hget⟩ := List.getElem?_eq_some_iff.mp hname
    have hsuccessor := hcycle.successor?_getElem _ hlt
    have hnext : (n % names.length + 1) % names.length < names.length :=
      Nat.mod_lt _ (by omega)
    rw [hget, List.getElem?_eq_getElem hnext, successor?_eq_some_iff] at hsuccessor
    refine ⟨_, by rw [← Nat.mod_add_mod, List.getElem?_eq_getElem hnext], ?_⟩
    rw [Function.iterate_succ_apply', hn, expandText_of_ofText?_eq_label h hsuccessor]

/-- A text that refers along a cycle never comes to rest. -/
theorem iterate_expandText_ne_of_isCycle {host : Host} (h : Record.isValid host = true)
    {names : List String} (hcycle : host.IsCycle names) {first : String}
    (hfirst : names[0]? = some first) (n : ℕ) :
    host.expandText^[n] (host.labels.textAt first) ≠
      host.expandText^[n + 1] (host.labels.textAt first) := by
  have hlength := hcycle.two_le_length
  obtain ⟨a, ha, hna⟩ := iterate_expandText_of_isCycle h hcycle hfirst n
  obtain ⟨b, hb, hnb⟩ := iterate_expandText_of_isCycle h hcycle hfirst (n + 1)
  obtain ⟨hlta, rfl⟩ := List.getElem?_eq_some_iff.mp ha
  obtain ⟨hltb, rfl⟩ := List.getElem?_eq_some_iff.mp hb
  rw [hna, hnb]
  intro heq
  -- Equal texts have the same successor, so the names after them are at the same place.
  have hsuccessor : host.successor? names[n % names.length] =
      host.successor? names[(n + 1) % names.length] := by
    rw [successor?, successor?, heq]
  rw [hcycle.successor?_getElem _ hlta, hcycle.successor?_getElem _ hltb] at hsuccessor
  have hplace := (List.getElem?_inj (Nat.mod_lt _ (by omega)) hcycle.nodup).mp hsuccessor
  rw [Nat.mod_add_mod, Nat.mod_add_mod] at hplace
  have hdvd : names.length ∣ n + 1 + 1 - (n + 1) := (Nat.modEq_iff_dvd' (by omega)).mp hplace
  rw [show n + 1 + 1 - (n + 1) = 1 by omega, Nat.dvd_one] at hdvd
  omega

end Host

namespace Tree

/-- Substituting a held text again and again moves the text and nothing else. -/
theorem iterate_substituteHeld_text {host : Host} (h : Record.isValid host = true) (n : ℕ)
    (value : String) :
    (substituteHeld host)^[n] (text value) = text (host.expandText^[n] value) := by
  have hs : Function.Semiconj text host.expandText (substituteHeld host) := fun value => by
    rw [substituteHeld, Host.expand_of_isValid h]
  exact (hs.iterate_right n value).symm

/-- Substituting a held mapping again and again is substituting its entries. -/
theorem iterate_substituteHeld_mapping (host : Host) (n : ℕ) (entries : List (String × Tree)) :
    (substituteHeld host)^[n] (mapping entries) = mapping ((substituteEntries host)^[n] entries) := by
  have hs : Function.Semiconj mapping (substituteEntries host) (substituteHeld host) :=
    fun entries => by rw [substituteHeld]
  exact (hs.iterate_right n entries).symm

/-- Substituting a root mapping again and again is substituting its entries. -/
theorem iterate_substitute_mapping (host : Host) (n : ℕ) (entries : List (String × Tree)) :
    (substitute host)^[n] (mapping entries) = mapping ((substituteEntries host)^[n] entries) := by
  have hs : Function.Semiconj mapping (substituteEntries host) (substitute host) :=
    fun entries => by rw [substitute]
  exact (hs.iterate_right n entries).symm

/-- Substituting entries again and again is substituting the value of each. -/
theorem iterate_substituteEntries_eq_mapValues (host : Host) (n : ℕ)
    (entries : List (String × Tree)) :
    (substituteEntries host)^[n] entries = Table.mapValues (substituteHeld host)^[n] entries := by
  induction n with
  | zero => simp [Table.mapValues]
  | succ n ih =>
    rw [Function.iterate_succ_apply', ih, substituteEntries_eq_mapValues, Table.mapValues_mapValues]
    exact Table.mapValues_eq_mapValues_iff.mpr fun entry _ =>
      (Function.iterate_succ_apply' _ n entry.2).symm

/-- If two numbers of substitutions do the same to every text, they do the same to every value that
a mapping holds. -/
theorem iterate_substituteHeld_congr {host : Host} (h : Record.isValid host = true) {a b : ℕ}
    (hab : ∀ value, host.expandText^[a] value = host.expandText^[b] value) (tree : Tree) :
    (substituteHeld host)^[a] tree = (substituteHeld host)^[b] tree := by
  induction tree using mappingInduction with
  | text value => rw [iterate_substituteHeld_text h, iterate_substituteHeld_text h, hab]
  | mapping entries ih =>
    rw [iterate_substituteHeld_mapping, iterate_substituteHeld_mapping,
      iterate_substituteEntries_eq_mapValues, iterate_substituteEntries_eq_mapValues,
      Table.mapValues_eq_mapValues_iff.mpr ih]
  | other tree ht hm =>
    have hfixed := substituteHeld_of_other host ht hm
    rw [Function.iterate_fixed hfixed, Function.iterate_fixed hfixed]

/-- If two numbers of substitutions do the same to every text, they do the same to every tree. -/
theorem iterate_substitute_congr {host : Host} (h : Record.isValid host = true) {a b : ℕ}
    (hab : ∀ value, host.expandText^[a] value = host.expandText^[b] value) (tree : Tree) :
    (substitute host)^[a] tree = (substitute host)^[b] tree := by
  cases tree with
  | mapping entries =>
    rw [iterate_substitute_mapping, iterate_substitute_mapping, ← iterate_substituteHeld_mapping,
      ← iterate_substituteHeld_mapping, iterate_substituteHeld_congr h hab]
  | _ => rw [Function.iterate_fixed rfl, Function.iterate_fixed rfl]

/-- Substituting a tree with one text again and again. -/
theorem iterate_substitute_single {host : Host} (h : Record.isValid host = true) (n : ℕ)
    (key value : String) :
    (substitute host)^[n] (mapping [(key, text value)]) =
      mapping [(key, text (host.expandText^[n] value))] := by
  rw [iterate_substitute_mapping, iterate_substituteEntries_eq_mapValues, Table.mapValues,
    List.map_singleton, iterate_substituteHeld_text h]

end Tree

/-- Repeated substitution on a valid host comes to rest on every tree exactly if the host's labels
have no cycle, and then it has come to rest after one substitution more than there are labels. -/
theorem Tree.substitute_converges_iff {host : Host} (h : Record.isValid host = true) :
    ((∀ names, ¬ host.IsCycle names) ↔
        ∀ tree : Tree, ∃ n, (substitute host)^[n] tree = (substitute host)^[n + 1] tree) ∧
      ((∀ names, ¬ host.IsCycle names) →
        ∀ tree : Tree, (substitute host)^[host.labelCount + 1] tree =
          (substitute host)^[host.labelCount + 2] tree) := by
  have hbound : (∀ names, ¬ host.IsCycle names) →
      ∀ tree : Tree, (substitute host)^[host.labelCount + 1] tree =
        (substitute host)^[host.labelCount + 2] tree := fun hacyclic =>
    iterate_substitute_congr h (Host.iterate_expandText_of_forall_not_isCycle h hacyclic)
  refine ⟨⟨fun hacyclic tree => ⟨_, hbound hacyclic tree⟩, ?_⟩, hbound⟩
  intro hrest names hcycle
  have hlength := hcycle.two_le_length
  obtain ⟨n, hn⟩ := hrest (mapping [("bridge", text (host.labels.textAt names[0]))])
  rw [iterate_substitute_single h, iterate_substitute_single h] at hn
  simp only [mapping.injEq, List.cons.injEq, Prod.mk.injEq, text.injEq, true_and, and_true] at hn
  exact Host.iterate_expandText_ne_of_isCycle h hcycle (List.getElem?_eq_getElem (by omega)) n hn

/-- A host two of whose labels refer to each other. -/
def Host.circling : Host where
  labels := .mapping [("left", .text "__host_label__: right"),
    ("right", .text "__host_label__: left"), ("self", .text "__host_label__:self")]

/-- Repeated substitution on the circling host does not come to rest on every tree. -/
theorem Tree.not_substitute_converges_circling :
    Record.isValid Host.circling = true ∧
      ¬ ∀ tree : Tree, ∃ n, (substitute Host.circling)^[n] tree =
        (substitute Host.circling)^[n + 1] tree := by
  have h : Record.isValid Host.circling = true := by decide
  have hcycle : Host.circling.IsCycle ["left", "right"] := ⟨by decide, by decide, by decide⟩
  exact ⟨h, fun hrest => (substitute_converges_iff h).1.mpr hrest _ hcycle⟩

end HostOverlay
