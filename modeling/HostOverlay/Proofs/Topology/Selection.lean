import HostOverlay.Agent.Basic
import HostOverlay.Proofs.Topology.Candidates
import HostOverlay.Proofs.Topology.Pruned
import HostOverlay.Topology.Validity

/-!
# The choice of the driver among clutter

While the driver is being replaced, the cluster has services of the driver kind that are not the
driver. One service of that kind is chosen as it is, and the name decides among none or several, so
a single service more or less can change which rule applies. The two rules agree as soon as some
service has both the kind and the name (`driverCandidates_of_namedDriverCount_ne_zero`), and this is
why a choice that was made by name withstands any number of other services
(`driverCandidates_of_inserted_unnamed`). How a resolution goes depends on two numbers only, that of
the services of the driver kind and that of those which carry the driver's name as well.
-/

namespace HostOverlay

open Schema

/-- Whether a list becomes another when elements that meet a condition are inserted into it, any
number of them at any positions. -/
def Inserted {α : Type} (added : α → Prop) (before after : List α) : Prop :=
  Pruned added Eq after before

/-- Whether a service is of the driver kind and carries the driver's name. -/
def Service.isNamedDriver (settings : Settings) (service : Service) : Bool :=
  service.isDriver settings && service.hasDriverName settings

/-- The number of services of the driver kind. -/
def driverCount (settings : Settings) (services : List Service) : ℕ :=
  services.countP (Service.isDriver settings)

/-- The number of services of the driver kind that carry the driver's name. -/
def namedDriverCount (settings : Settings) (services : List Service) : ℕ :=
  services.countP (Service.isNamedDriver settings)

/-- The candidates for the driver, or what stops their choice. -/
def selectDrivers (settings : Settings) (services : List Service) :
    Except Failure (List Service) :=
  match selectionObstacle? settings services with
  | some obstacle => .error (.misfit obstacle.cause)
  | none => .ok (driverCandidates settings services)

/-- What the agent answers when it is asked for the candidates. -/
theorem Agent.fst_select (agent : Agent) (services : Handle (Roster Service)) :
    (agent.select services).1 = selectDrivers agent.settings (agent.store.servicesOf services) := by
  unfold select selectDrivers
  cases h : selectionObstacle? agent.settings (agent.store.servicesOf services) with
  | some obstacle => simp only [h]
  | none =>
    -- The report does not touch the settings.
    simp only [h]
    split <;> rfl

section

variable {settings : Settings} {services services' : List Service}

/-- Among valid services, the candidates are chosen. -/
theorem selectDrivers_of_isValid (hs : Record.isValid settings = true)
    (h : ∀ service ∈ services, service.isValid = true) :
    selectDrivers settings services = .ok (driverCandidates settings services) := by
  rw [selectDrivers, selectionObstacle?_eq_none hs h]

/-- The services of the driver kind that carry the driver's name are found among those of the driver
kind. -/
theorem filter_isNamedDriver (settings : Settings) (services : List Service) :
    services.filter (Service.isNamedDriver settings) =
      (drivers settings services).filter (Service.hasDriverName settings) := by
  rw [drivers, List.filter_filter]
  exact List.filter_congr fun service _ => Bool.and_comm _ _

/-- The services of the driver kind, counted. -/
theorem length_drivers (settings : Settings) (services : List Service) :
    (drivers settings services).length = driverCount settings services :=
  List.countP_eq_length_filter.symm

/-- The named services of the driver kind, counted. -/
theorem length_filter_isNamedDriver (settings : Settings) (services : List Service) :
    (services.filter (Service.isNamedDriver settings)).length =
      namedDriverCount settings services :=
  List.countP_eq_length_filter.symm

/-- There are no more named services of the driver kind than services of that kind. -/
theorem namedDriverCount_le (settings : Settings) (services : List Service) :
    namedDriverCount settings services ≤ driverCount settings services := by
  rw [← length_drivers, ← length_filter_isNamedDriver, filter_isNamedDriver]
  exact List.length_filter_le _ _

/-- One service of the driver kind is chosen as it is. -/
theorem driverCandidates_of_driverCount_eq_one (h : driverCount settings services = 1) :
    driverCandidates settings services = drivers settings services := by
  rw [← length_drivers] at h
  refine List.filter_congr fun service _ => ?_
  rw [isCandidate, h, beq_self_eq_true, Bool.true_or, Bool.and_true]

/-- Among none or several services of the driver kind, the name decides. -/
theorem driverCandidates_of_driverCount_ne_one (h : driverCount settings services ≠ 1) :
    driverCandidates settings services = services.filter (Service.isNamedDriver settings) := by
  rw [← length_drivers] at h
  refine List.filter_congr fun service _ => ?_
  rw [isCandidate, beq_eq_false_iff_ne.mpr h, Bool.false_or, Service.isNamedDriver]

/-- Where some service has the kind and the name, the name decides in any case: if there is only one
service of the driver kind, it is this one. -/
theorem driverCandidates_of_namedDriverCount_ne_zero (h : namedDriverCount settings services ≠ 0) :
    driverCandidates settings services = services.filter (Service.isNamedDriver settings) := by
  by_cases hone : driverCount settings services = 1
  · rw [driverCandidates_of_driverCount_eq_one hone]
    have hle := namedDriverCount_le settings services
    have hlength : (services.filter (Service.isNamedDriver settings)).length =
        (drivers settings services).length := by
      rw [length_filter_isNamedDriver, length_drivers]
      omega
    rw [filter_isNamedDriver] at hlength ⊢
    exact (List.filter_sublist.eq_of_length hlength).symm
  · exact driverCandidates_of_driverCount_ne_one hone

/-- The number of candidates. -/
theorem length_driverCandidates (settings : Settings) (services : List Service) :
    (driverCandidates settings services).length =
      if driverCount settings services = 1 then 1 else namedDriverCount settings services := by
  by_cases hone : driverCount settings services = 1
  · rw [if_pos hone, driverCandidates_of_driverCount_eq_one hone, length_drivers, hone]
  · rw [if_neg hone, driverCandidates_of_driverCount_ne_one hone, length_filter_isNamedDriver]

/-- Choosing among the candidates chooses all of them. -/
theorem driverCandidates_driverCandidates (settings : Settings) (services : List Service) :
    driverCandidates settings (driverCandidates settings services) =
      driverCandidates settings services := by
  refine List.filter_eq_self.mpr fun service hm => ?_
  by_cases hone : driverCount settings services = 1
  · -- There is still one service of the driver kind.
    rw [driverCandidates_of_driverCount_eq_one hone] at hm ⊢
    have hdriver : service.isDriver settings = true := (List.mem_filter.mp hm).2
    have hsame : drivers settings (drivers settings services) = drivers settings services :=
      List.filter_eq_self.mpr fun other ho => (List.mem_filter.mp ho).2
    rw [isCandidate, hdriver, hsame, length_drivers, hone]
    rfl
  · rw [driverCandidates_of_driverCount_ne_one hone] at hm
    have hnamed : service.isDriver settings = true ∧ service.hasDriverName settings = true := by
      have hboth := (List.mem_filter.mp hm).2
      rwa [Service.isNamedDriver, Bool.and_eq_true] at hboth
    rw [isCandidate, hnamed.1, hnamed.2, Bool.or_true, Bool.and_true]

/-- Services of other kinds do not change the choice. -/
theorem driverCandidates_of_inserted
    (h : Inserted (fun service => service.isDriver settings = false) services services') :
    driverCandidates settings services' = driverCandidates settings services := by
  have hdrivers : drivers settings services = drivers settings services' :=
    h.filter_eq fun _ hother => hother
  rw [driverCandidates, driverCandidates, isCandidate_eq_of_length_eq (by rw [hdrivers])]
  exact (h.filter_eq fun _ hother => isCandidate_eq_false hother services).symm

/-- Services that lack the driver's kind or its name do not change a choice that was made by name,
also if the first of them to have the kind makes it the name that decides. -/
theorem driverCandidates_of_inserted_unnamed (hc : driverCandidates settings services ≠ [])
    (hn : ∀ service ∈ driverCandidates settings services, service.hasDriverName settings = true)
    (h : Inserted (fun service => service.isNamedDriver settings = false) services services') :
    driverCandidates settings services' = driverCandidates settings services := by
  have hfilter : services.filter (Service.isNamedDriver settings) =
      services'.filter (Service.isNamedDriver settings) := h.filter_eq fun _ hother => hother
  have hcount : namedDriverCount settings services ≠ 0 := by
    -- A candidate is of the driver kind, so one that carries the name counts.
    obtain ⟨service, hm⟩ := List.exists_mem_of_ne_nil _ hc
    have hnamed : service.isNamedDriver settings = true := by
      have hcandidate := (List.mem_filter.mp hm).2
      rw [isCandidate, Bool.and_eq_true] at hcandidate
      rw [Service.isNamedDriver, hcandidate.1, hn service hm, Bool.and_true]
    have hpos : 0 < namedDriverCount settings services :=
      List.countP_pos_iff.mpr ⟨service, (List.mem_filter.mp hm).1, hnamed⟩
    omega
  have hcount' : namedDriverCount settings services' ≠ 0 := by
    rwa [← length_filter_isNamedDriver, ← hfilter, length_filter_isNamedDriver]
  rw [driverCandidates_of_namedDriverCount_ne_zero hcount,
    driverCandidates_of_namedDriverCount_ne_zero hcount', hfilter]

end

namespace Outcome

/-- The outcome is good exactly if one candidate is counted. -/
theorem ofCandidates_eq_ok_iff_length (candidates : List Service) :
    ofCandidates candidates = .ok ↔ candidates.length = 1 := by
  rw [ofCandidates_eq_ok_iff, List.length_eq_one_iff]

/-- There are several drivers exactly if two or more candidates are counted. -/
theorem ofCandidates_eq_multiple_iff (candidates : List Service) :
    ofCandidates candidates = .multipleDriverServices ↔ 2 ≤ candidates.length := by
  match candidates with
  | [] | [_] => simp [ofCandidates]
  | _ :: _ :: _ => simp [ofCandidates]

/-- There is no driver exactly if no candidate is counted. -/
theorem ofCandidates_eq_none_iff (candidates : List Service) :
    ofCandidates candidates = .noDriverService ↔ candidates.length = 0 := by
  match candidates with
  | [] => simp [ofCandidates]
  | [_] | _ :: _ :: _ => simp [ofCandidates]

end Outcome

namespace Snapshot

variable {settings : Settings} {snapshot : Snapshot}

/-- The choice of the driver is stable. With valid settings, how the resolution of a valid snapshot
goes is told by the number of services of the driver kind and the number of those that carry the
driver's name; choosing again among the candidates chooses them all; services of other kinds,
inserted anywhere, do not change the choice; and if there are candidates and all of them carry the
driver's name, neither do services that lack the kind or the name. -/
theorem selectDrivers_stable (hs : Record.isValid settings = true)
    (hv : snapshot.isValid = true) :
    let services := snapshot.services
    ∃ found, snapshot.resolve settings = .ok found ∧
      (found.outcome = .ok ↔
        driverCount settings services = 1 ∨ namedDriverCount settings services = 1) ∧
      (found.outcome = .multipleDriverServices ↔ 2 ≤ namedDriverCount settings services) ∧
      (found.outcome = .noDriverService ↔
        driverCount settings services ≠ 1 ∧ namedDriverCount settings services = 0) ∧
      selectDrivers settings services = .ok found.candidates ∧
      selectDrivers settings found.candidates = .ok found.candidates ∧
      (∀ services', (∀ service ∈ services', service.isValid = true) →
        Inserted (fun service => service.isDriver settings = false) services services' →
          selectDrivers settings services' = .ok found.candidates) ∧
      (found.candidates ≠ [] →
        (∀ service ∈ found.candidates, service.hasDriverName settings = true) →
          ∀ services', (∀ service ∈ services', service.isValid = true) →
            Inserted (fun service => service.isNamedDriver settings = false) services services' →
              selectDrivers settings services' = .ok found.candidates) := by
  intro services
  have hservices : ∀ service ∈ services, service.isValid = true :=
    fun _ hm => isValid_of_mem_services hv hm
  have hlength := length_driverCandidates settings services
  have hle := namedDriverCount_le settings services
  refine ⟨_, resolve_of_isValid hv hs, ?_, ?_, ?_, ?_, ?_, ?_, ?_⟩
  · show Outcome.ofCandidates (driverCandidates settings services) = _ ↔ _
    rw [Outcome.ofCandidates_eq_ok_iff_length, hlength]
    split <;> omega
  · show Outcome.ofCandidates (driverCandidates settings services) = _ ↔ _
    rw [Outcome.ofCandidates_eq_multiple_iff, hlength]
    split <;> omega
  · show Outcome.ofCandidates (driverCandidates settings services) = _ ↔ _
    rw [Outcome.ofCandidates_eq_none_iff, hlength]
    split <;> omega
  · exact selectDrivers_of_isValid hs hservices
  · have hcandidates : ∀ service ∈ driverCandidates settings services, service.isValid = true :=
      fun service hm => hservices service (List.mem_filter.mp hm).1
    have hagain := selectDrivers_of_isValid hs hcandidates
    rwa [driverCandidates_driverCandidates] at hagain
  · intro services' hservices' h
    rw [selectDrivers_of_isValid hs hservices', driverCandidates_of_inserted h]
    rfl
  · intro hc hn services' hservices' h
    rw [selectDrivers_of_isValid hs hservices', driverCandidates_of_inserted_unnamed hc hn h]
    rfl

/-- A snapshot with nothing but a driver that carries the driver's name. -/
def settled : Snapshot where
  services :=
    [{ uuid := .text "driver"
       kind := .text "networkDriverService"
       name := .text "cni-driver" }]

/-- A driver of another name. -/
def legacyDriver : Service where
  uuid := .text "legacy"
  kind := .text "networkDriverService"
  name := .text "old-driver"

/-- With a legacy driver in front of the driver and another behind it, an agent still chooses the
driver. -/
theorem select_settled_among_legacy :
    let services := legacyDriver :: settled.services ++ [legacyDriver]
    let agent : Agent := { store := (Store.addSnapshot {} { services }).2 }
    (agent.select (Store.addSnapshot {} { services }).1.services).1 = .ok settled.services := by
  intro services agent
  have hs : Record.isValid ({} : Settings) = true := by decide
  have hv : settled.isValid = true := by decide
  obtain ⟨found, hfound, -, -, -, -, -, -, hstable⟩ := selectDrivers_stable hs hv
  obtain rfl : settled.resolution {} = found :=
    Except.ok.inj ((resolve_of_isValid hv hs).symm.trans hfound)
  have hcandidates : (settled.resolution {}).candidates = settled.services := rfl
  rw [hcandidates] at hstable
  have hnamed : ∀ service ∈ settled.services, service.hasDriverName {} = true := by
    intro service hm
    rw [List.mem_singleton.mp hm]
    decide
  have hservices : ∀ service ∈ services, service.isValid = true := by
    intro service hm
    simp only [services, settled, List.cons_append, List.nil_append, List.mem_cons,
      List.not_mem_nil, or_false] at hm
    rcases hm with rfl | rfl | rfl <;> decide
  have hinserted : Inserted (fun service => service.isNamedDriver {} = false) settled.services
      services := .remove rfl (.keep rfl (.remove rfl .nil))
  rw [Agent.fst_select]
  exact hstable (by simp [settled]) hnamed services hservices hinserted

end Snapshot

end HostOverlay
