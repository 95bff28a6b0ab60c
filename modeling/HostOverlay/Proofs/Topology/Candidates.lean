import HostOverlay.Topology.Resolution

/-!
# Candidates for the driver

Which services are candidates depends on the other services only through the number of those of the
driver kind, and the outcome of a resolution depends on the candidates only through their number. So
two lists of services that agree in these numbers are treated alike, service by service.
-/

namespace HostOverlay

/-- Whether a service is a candidate depends on the other services only through the number of those
of the driver kind. -/
theorem isCandidate_eq_of_length_eq {settings : Settings} {services services' : List Service}
    (h : (drivers settings services').length = (drivers settings services).length) :
    isCandidate settings services' = isCandidate settings services := by
  funext service
  rw [isCandidate, isCandidate, h]

/-- A candidate is of the driver kind. -/
theorem isCandidate_eq_false {settings : Settings} {service : Service}
    (h : service.isDriver settings = false) (services : List Service) :
    isCandidate settings services service = false := by
  rw [isCandidate, h, Bool.false_and]

/-- The outcome depends on the candidates only through their number. -/
theorem Outcome.ofCandidates_eq_of_length_eq {candidates candidates' : List Service}
    (h : candidates'.length = candidates.length) :
    Outcome.ofCandidates candidates' = Outcome.ofCandidates candidates := by
  match candidates, candidates', h with
  | [], [], _ => rfl
  | [_], [_], _ => rfl
  | _ :: _ :: _, _ :: _ :: _, _ => rfl

/-- The outcome is good exactly if there is one candidate. -/
theorem Outcome.ofCandidates_eq_ok_iff {candidates : List Service} :
    Outcome.ofCandidates candidates = .ok ↔ ∃ driver, candidates = [driver] := by
  match candidates with
  | [] => simp [ofCandidates]
  | [driver] => simp [ofCandidates]
  | _ :: _ :: _ => simp [ofCandidates]

end HostOverlay
