import HostOverlay.Inspection
import HostOverlay.Journal.Basic

/-!
# The journal and the history

A journal agrees with the resolutions that were completed if its counts are the numbers of those
with each outcome, its gauge is the number of local networks of the last, and its complaints are
about those with a bad outcome, one each, in their order. The empty journal agrees with no
resolution. Reports that are no complaints make no difference, and taking in a resolution that is
completed adds it to those that the journal agrees with (`AgreesWith.enter`).
-/

namespace HostOverlay

/-- Whether an event is a complaint: an error that the resolution of the local topology reports. -/
def Event.isComplaint (event : Event) : Bool :=
  event.level = .error && event.reporter = .topology

namespace Journal

/-- The number of resolutions with an outcome. -/
def occurrences (completed : List Resolution) (outcome : Outcome) : Nat :=
  completed.countP fun resolution => resolution.outcome = outcome

/-- Whether a journal agrees with the resolutions that were completed, oldest first. -/
structure AgreesWith (journal : Journal) (completed : List Resolution) : Prop where
  /-- Each outcome is counted at most once. -/
  distinct : (Table.keys journal.resolutions).Nodup
  /-- An outcome that occurred is counted as often as it did, and no other outcome is counted. -/
  resolutions : ∀ outcome, Table.get? journal.resolutions outcome =
    if occurrences completed outcome = 0 then none else some (occurrences completed outcome)
  /-- The gauge is the number of local networks of the last resolution, and zero before the first. -/
  localNetworks : journal.localNetworks =
    (completed.getLast?.map fun resolution => resolution.networks.length).getD 0
  /-- There is one complaint about each resolution with a bad outcome, with the number of its
  candidates. -/
  complaints : journal.records.filter Event.isComplaint =
    (completed.filter fun resolution => resolution.outcome ≠ .ok).map fun resolution =>
      .driverCountWrong resolution.candidates.length

variable {journal : Journal} {completed : List Resolution} {settings : Settings}
  {snapshot : Snapshot} {found : Resolution}

/-- The empty journal agrees with no resolution. -/
theorem agreesWith_nil : AgreesWith {} [] where
  distinct := List.nodup_nil
  resolutions _ := rfl
  localNetworks := rfl
  complaints := rfl

/-- What a journal counts for an outcome is the number of resolutions with it. -/
theorem AgreesWith.count_eq (h : journal.AgreesWith completed) (outcome : Outcome) :
    journal.count outcome = occurrences completed outcome := by
  rw [count, h.resolutions]
  split
  · simp [*]
  · rfl

/-- Reports that are no complaints make no difference. -/
theorem AgreesWith.report (h : journal.AgreesWith completed) {events : List Event}
    (he : ∀ event ∈ events, event.isComplaint = false) :
    (journal.report events).AgreesWith completed where
  distinct := h.distinct
  resolutions := h.resolutions
  localNetworks := h.localNetworks
  complaints := by
    have hquiet : events.filter Event.isComplaint = [] :=
      List.filter_eq_nil_iff.mpr fun event hm => by simp [he event hm]
    rw [Journal.report, List.filter_append, hquiet, List.append_nil]
    exact h.complaints

/-- A resolution that is completed is taken in with everything that it reports, a count, and a
note. -/
theorem enter_of_resolve_eq_ok (journal : Journal) (h : snapshot.resolve settings = .ok found) :
    journal.enter settings snapshot =
      ((journal.report (selectionEvents settings snapshot.services ++ found.candidateEvents
        ++ [found.topologyEvent])).tally found.outcome).note found.networks.length := by
  unfold Snapshot.resolve at h
  split at h
  · simp at h
  · rename_i hnone
    obtain rfl : snapshot.resolution settings = found := Except.ok.inj h
    simp only [enter, Snapshot.events, hnone, Stage.isPassed_none, if_true]

/-- The choice of the candidates reports no complaint. -/
theorem isComplaint_of_mem_selectionEvents {services : List Service} {event : Event}
    (h : event ∈ selectionEvents settings services) : event.isComplaint = false := by
  unfold selectionEvents at h
  dsimp only at h
  split at h
  · simp at h
  · rw [List.mem_singleton.mp h]
    rfl

/-- An inspection reports no complaint. -/
theorem isComplaint_of_mem_inspectionEvents {answer : Except InspectionError Bool} {event : Event}
    (h : event ∈ Inspection.events answer) : event.isComplaint = false := by
  cases answer with
  | ok found => exact absurd h List.not_mem_nil
  | error cause =>
    cases cause with
    | badSubnet subnet cause =>
      rw [List.mem_singleton.mp h]
      rfl
    | _ => exact absurd h List.not_mem_nil

/-- Among what a completed resolution reports, there is a complaint exactly if its outcome is bad. -/
theorem filter_isComplaint_events (services : List Service) (found : Resolution) :
    (selectionEvents settings services ++ found.candidateEvents
        ++ [found.topologyEvent]).filter Event.isComplaint =
      if found.outcome = .ok then [] else [.driverCountWrong found.candidates.length] := by
  have hselection : (selectionEvents settings services).filter Event.isComplaint = [] :=
    List.filter_eq_nil_iff.mpr fun event hm => by simp [isComplaint_of_mem_selectionEvents hm]
  -- The other reports of the candidates and the topology are of interest only.
  have hcomplaint : found.complaint.filter Event.isComplaint = found.complaint := by
    unfold Resolution.complaint
    split <;> rfl
  rw [List.filter_append, List.filter_append, hselection, List.nil_append,
    Resolution.candidateEvents, List.filter_append, hcomplaint]
  exact List.append_nil _

/-- One more resolution is one more with its outcome. -/
theorem occurrences_append_singleton (completed : List Resolution) (found : Resolution)
    (outcome : Outcome) :
    occurrences (completed ++ [found]) outcome =
      occurrences completed outcome + if found.outcome = outcome then 1 else 0 := by
  simp [occurrences, List.countP_append, List.countP_singleton]

/-- Counting a resolution counts its outcome once more and no other. -/
theorem AgreesWith.get?_tally (h : journal.AgreesWith completed) (found : Resolution)
    (outcome : Outcome) :
    Table.get? (journal.tally found.outcome).resolutions outcome =
      if occurrences (completed ++ [found]) outcome = 0 then none
      else some (occurrences (completed ++ [found]) outcome) := by
  rw [occurrences_append_singleton, tally, h.count_eq]
  by_cases ho : found.outcome = outcome
  · rw [if_pos ho, if_neg (by omega), ho]
    exact Table.get?_put_self _ _ _
  · rw [if_neg ho, Nat.add_zero]
    exact (Table.get?_put_of_ne (Ne.symm ho) _ _).trans (h.resolutions outcome)

/-- Taking in a resolution that is completed adds it to those that the journal agrees with. -/
theorem AgreesWith.enter (h : journal.AgreesWith completed)
    (hr : snapshot.resolve settings = .ok found) :
    (journal.enter settings snapshot).AgreesWith (completed ++ [found]) := by
  rw [enter_of_resolve_eq_ok journal hr]
  exact
    { distinct := Table.nodup_keys_put h.distinct _ _
      resolutions := h.get?_tally found
      localNetworks := by simp [note]
      complaints := by
        show (journal.records ++ _).filter Event.isComplaint = _
        rw [List.filter_append, h.complaints, filter_isComplaint_events, List.filter_append,
          List.map_append]
        by_cases hok : found.outcome = .ok <;> simp [hok] }

end Journal

end HostOverlay
