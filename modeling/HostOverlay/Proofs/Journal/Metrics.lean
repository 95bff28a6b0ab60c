import HostOverlay.Journal.Exposition
import HostOverlay.Proofs.Journal.History
import Mathlib.Data.List.Nodup

/-!
# The metrics and the history

The metrics of a journal tell of the resolutions that were completed, if the journal agrees with
them: the counter has one sample for each outcome that occurred, with the number of its occurrences
(`Journal.AgreesWith.mem_outcomeSamples_iff`, `Journal.AgreesWith.nodup_outcomeSamples`), and the
gauge has the number of local networks of the last resolution. So an outcome that occurred has its
line in what is exposed (`Journal.AgreesWith.line_mem_exposition`).
-/

namespace HostOverlay

/-- Outcomes are told apart by their labels. -/
theorem Outcome.label_injective : Function.Injective Outcome.label := by
  intro first second h
  cases first <;> cases second <;> first | rfl | exact absurd h (by decide)

namespace Journal.AgreesWith

variable {journal : Journal} {completed : List Resolution} (h : journal.AgreesWith completed)
include h

/-- The counter has a sample for each outcome that occurred, and no other sample. -/
theorem mem_outcomeSamples_iff {sample : Metric.Sample} :
    sample ∈ journal.outcomeSamples ↔ ∃ outcome, occurrences completed outcome ≠ 0 ∧
      sample = ⟨[outcome.label], occurrences completed outcome⟩ := by
  have hread (outcome : Outcome) (count : Nat) : (outcome, count) ∈ journal.resolutions ↔
      occurrences completed outcome ≠ 0 ∧ occurrences completed outcome = count := by
    rw [Table.mem_iff_get?_eq_some h.distinct, h.resolutions]
    split <;> simp_all
  constructor
  · intro hm
    obtain ⟨⟨outcome, count⟩, he, rfl⟩ := List.mem_map.mp hm
    obtain ⟨ho, rfl⟩ := (hread outcome count).mp he
    exact ⟨outcome, ho, rfl⟩
  · rintro ⟨outcome, ho, rfl⟩
    exact List.mem_map.mpr ⟨_, (hread outcome _).mpr ⟨ho, rfl⟩, rfl⟩

/-- No two samples of the counter have the same label. -/
theorem nodup_outcomeSamples : (journal.outcomeSamples.map Metric.Sample.labels).Nodup := by
  have hlabels : journal.outcomeSamples.map Metric.Sample.labels =
      (Table.keys journal.resolutions).map fun outcome => [outcome.label] := by
    simp [outcomeSamples, Table.keys]
  rw [hlabels]
  refine List.Nodup.map (fun first second he => ?_) h.distinct
  exact Outcome.label_injective (List.cons.inj he).1

/-- The metrics are the counter, and the gauge with the number of local networks of the last
resolution. -/
theorem metrics_eq : journal.metrics =
    [(Metric.resolutions, journal.outcomeSamples), (Metric.localNetworks,
      [⟨[], (completed.getLast?.map fun resolution => resolution.networks.length).getD 0⟩])] := by
  rw [metrics, h.localNetworks]

/-- An outcome that occurred has its line in the exposition. -/
theorem line_mem_exposition {outcome : Outcome} (ho : occurrences completed outcome ≠ 0) :
    Metric.resolutions.line ⟨[outcome.label], occurrences completed outcome⟩ ∈
      journal.exposition := by
  rw [exposition, h.metrics_eq]
  have hsample := h.mem_outcomeSamples_iff.mpr ⟨outcome, ho, rfl⟩
  simp only [Metric.Format.write, List.flatMap_cons, List.mem_append]
  exact .inl (.inr (List.mem_map_of_mem hsample))

end Journal.AgreesWith

end HostOverlay
