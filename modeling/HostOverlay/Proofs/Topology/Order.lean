import HostOverlay.Proofs.Topology.Candidates
import HostOverlay.Topology.Validity

/-!
# The order of the services

A listing of the same services in another order has the same candidates in another order, so the
outcome of a resolution does not depend on the order. If there is one candidate, it is the driver in
either order; and if at most one service then serves that driver, it is found in either order, so
the whole resolution is the same (`resolve_of_perm`). Without the last condition the first service
that serves the driver is taken, and that depends on the order.
-/

namespace HostOverlay

open Schema

/-- What at most one element of a list passes is found in any order. -/
theorem find?_eq_of_perm {α : Type} {p : α → Bool} {l l' : List α} (hp : l.Perm l')
    (h : l.countP p ≤ 1) : l'.find? p = l.find? p := by
  -- What is found is the first of those that pass, and there is at most one of them.
  have hfilter : (l.filter p).Perm (l'.filter p) := hp.filter p
  rw [← List.head?_filter, ← List.head?_filter]
  rw [List.countP_eq_length_filter] at h
  cases hl : l.filter p with
  | nil => rw [hl, List.nil_perm] at hfilter; rw [hfilter]
  | cons a rest =>
    obtain rfl : rest = [] := by
      rw [hl, List.length_cons] at h
      exact List.length_eq_zero_iff.mp (by omega)
    rw [hl, List.singleton_perm] at hfilter
    rw [hfilter]

/-- The candidates for the driver do not depend on the order of the services. -/
theorem driverCandidates_perm (settings : Settings) {services services' : List Service}
    (h : services.Perm services') :
    (driverCandidates settings services).Perm (driverCandidates settings services') := by
  have hlength : (drivers settings services').length = (drivers settings services).length :=
    (h.filter _).length_eq.symm
  rw [driverCandidates, driverCandidates, isCandidate_eq_of_length_eq hlength]
  exact h.filter _

namespace Snapshot

variable {settings : Settings} {snapshot : Snapshot} {services : List Service}

/-- A valid snapshot is valid with its services in any order. -/
theorem isValid_of_perm (hv : snapshot.isValid = true) (h : snapshot.services.Perm services) :
    { snapshot with services }.isValid = true := by
  simp only [Snapshot.isValid, Bool.and_eq_true, List.all_eq_true] at hv ⊢
  exact ⟨hv.1, fun service hm => hv.2 service (h.mem_iff.mpr hm)⟩

/-- If there is one candidate, and at most one service serves it, the resolution does not depend on
the order of the services. -/
theorem resolution_eq_of_perm (h : snapshot.services.Perm services) {driver : Service}
    (hc : driverCandidates settings snapshot.services = [driver])
    (hd : snapshot.services.countP driver.serves ≤ 1) :
    { snapshot with services }.resolution settings = snapshot.resolution settings := by
  -- A list that permutes a single candidate is that candidate, so the driver is the same.
  have hc' : driverCandidates settings services = [driver] := by
    have hperm := driverCandidates_perm settings h
    rw [hc, List.singleton_perm] at hperm
    exact hperm.symm
  have hfind : findNetworkService? driver services =
      findNetworkService? driver snapshot.services := find?_eq_of_perm h hd
  have hservice : { snapshot with services }.networkService settings =
      snapshot.networkService settings := by
    simp only [networkService, networkService?, driver?, hc, hc', List.head?_cons,
      Option.bind_some, hfind]
  have hrouters : { snapshot with services }.routers settings = snapshot.routers settings := by
    rw [routers, routers, hservice]
  have hlocal : { snapshot with services }.localNetworks settings =
      snapshot.localNetworks settings := by
    refine List.filter_congr fun network _ => ?_
    rw [hasLocal, hasLocal, hrouters]
  simp only [resolution, hc, hc', hservice, hrouters, hlocal]

/-- Resolution does not depend on the order of the services. With valid settings, a valid snapshot
and the same snapshot with its services in another order are both resolved, with the same outcome.
If that outcome is good, and at most one service serves the driver, the resolutions are the same. -/
theorem resolve_of_perm (hs : Record.isValid settings = true) (hv : snapshot.isValid = true)
    (h : snapshot.services.Perm services) :
    ∃ found found', snapshot.resolve settings = .ok found ∧
      { snapshot with services }.resolve settings = .ok found' ∧
      found'.outcome = found.outcome ∧
      (found.outcome = .ok →
        (∀ driver ∈ snapshot.driver? settings, snapshot.services.countP driver.serves ≤ 1) →
        found' = found) := by
  refine ⟨_, _, resolve_of_isValid hv hs, resolve_of_isValid (isValid_of_perm hv h) hs, ?_, ?_⟩
  · exact Outcome.ofCandidates_eq_of_length_eq (driverCandidates_perm settings h).length_eq.symm
  · intro hok hone
    obtain ⟨driver, hc⟩ := Outcome.ofCandidates_eq_ok_iff.mp hok
    refine resolution_eq_of_perm h hc (hone driver ?_)
    show (driverCandidates settings snapshot.services).head? = some driver
    rw [show driverCandidates settings snapshot.services = [driver] from hc]
    rfl

/-- A snapshot whose services are a sidekick in the driver's stack, the network service, an older
driver in a stack of its own, and the driver, which its name tells from the older one. -/
def upgrading : Snapshot where
  networks :=
    [{ uuid := .text "net"
       environmentUuid := .text "env"
       metadata := .mapping [("cniConfig", .mapping [])] }]
  host := { uuid := .text "host", environmentUuid := .text "env" }
  services :=
    [{ uuid := .text "sidekick"
       stackUuid := .text "stack"
       name := .text "agent"
       primaryServiceName := .text "router" },
     { uuid := .text "service"
       stackUuid := .text "stack"
       name := .text "router"
       primaryServiceName := .text "router"
       members := .list [.container
         { uuid := .text "container", hostUuid := .text "host", networkUuid := .text "net" }] },
     { uuid := .text "old", stackUuid := .text "legacy", kind := .text "networkDriverService" },
     { uuid := .text "driver"
       stackUuid := .text "stack"
       kind := .text "networkDriverService"
       name := .text "cni-driver" }]

/-- Listed the other way round, these services are resolved the same. -/
theorem resolve_upgrading_reverse :
    ∃ found, upgrading.resolve {} = .ok found ∧
      { upgrading with services := upgrading.services.reverse }.resolve {} = .ok found ∧
      found.outcome = .ok ∧ found.service.uuid = .text "service" := by
  have hs : Record.isValid ({} : Settings) = true := by decide
  have hv : upgrading.isValid = true := by decide
  have hperm : upgrading.services.Perm upgrading.services.reverse :=
    (List.reverse_perm upgrading.services).symm
  obtain ⟨found, found', hfound, hfound', -, hsame⟩ := resolve_of_perm hs hv hperm
  obtain rfl : upgrading.resolution {} = found :=
    Except.ok.inj ((resolve_of_isValid hv hs).symm.trans hfound)
  have hone : ∀ driver ∈ upgrading.driver? {}, upgrading.services.countP driver.serves ≤ 1 := by
    intro driver hd
    rw [← Option.some.inj hd]
    decide
  rw [hsame rfl hone] at hfound'
  exact ⟨_, hfound, hfound', rfl, rfl⟩

end Snapshot

end HostOverlay
