import HostOverlay.Proofs.Topology.Candidates
import HostOverlay.Proofs.Topology.Pruned
import HostOverlay.Topology.Validity

/-!
# Locality of a resolution

What a host finds as its local topology depends on nothing outside the host, its environment and the
driver's stack. A snapshot is pruned to another if networks of other environments are taken out,
services that are no drivers and stand in other stacks than the driver, containers on other hosts,
or any number of these, and if what the host has besides its identity and its environment is
replaced. Pruning keeps the candidates in their order, so it keeps the outcome and the driver; what
is taken out would neither serve that driver nor route nor be local, so it keeps the network service
up to containers on other hosts, the routers, and the local networks (`resolve_of_prunesTo`).
-/

namespace HostOverlay

open Schema

/-- Whether a member of a service is a container on another host. -/
def Member.IsElsewhere (host : Host) : Member → Prop
  | .container held => (held.hostUuid == host.uuid) = false
  | .stray _ => False

/-- Whether members become others when containers on other hosts are taken out. -/
inductive Members.TrimsTo (host : Host) : Members → Members → Prop
  /-- Nothing is taken out. -/
  | same (members : Members) : TrimsTo host members members
  /-- Containers on other hosts are taken out of a list. -/
  | list {before after : List Member} (h : Pruned (Member.IsElsewhere host) Eq before after) :
      TrimsTo host (.list before) (.list after)

/-- Whether a service becomes another when containers on other hosts are taken out. -/
structure Service.TrimsTo (host : Host) (before after : Service) : Prop where
  /-- The services differ in their members at most. -/
  fields : after = { before with members := after.members }
  /-- The members differ in containers on other hosts. -/
  members : before.members.TrimsTo host after.members

/-- Whether a service has nothing to do with the choice of the driver and with the driver that is
chosen, if one is: it is of another kind and stands in another stack. -/
def Service.IsUnrelated (settings : Settings) (driver? : Option Service) (service : Service) :
    Prop :=
  service.isDriver settings = false ∧
    ∀ driver ∈ driver?, (service.stackUuid == driver.stackUuid) = false

/-- Whether a network belongs to another environment than a host. -/
def Network.IsForeign (host : Host) (network : Network) : Prop :=
  (network.environmentUuid == host.environmentUuid) = false

/-- Whether a snapshot becomes another when what is outside its host, the host's environment and the
driver's stack is taken out or replaced; `trimmed` tells what may become of a service that stays. -/
structure Snapshot.PrunesTo (settings : Settings) (trimmed : Service → Service → Prop)
    (before after : Snapshot) : Prop where
  /-- Networks of other environments are taken out. -/
  networks : Pruned (Network.IsForeign before.host) Eq before.networks after.networks
  /-- The host keeps its identity and its environment; its names, its address and its labels are
  replaced. -/
  host : after.host =
    { before.host with
      name := after.host.name
      hostname := after.host.hostname
      agentIp := after.host.agentIp
      labels := after.host.labels }
  /-- Unrelated services are taken out, and the others are trimmed. -/
  services : Pruned (Service.IsUnrelated settings (before.driver? settings)) trimmed
    before.services after.services
  /-- Trimming takes out containers on other hosts. -/
  trimsTo : ∀ service service', trimmed service service' →
    service.TrimsTo before.host service'

namespace Members

variable {host : Host} {before after : Members}

/-- Trimming keeps the containers on the host. -/
theorem TrimsTo.filter_containers_eq (h : before.TrimsTo host after) :
    (after.containers.filter fun container => container.hostUuid == host.uuid) =
      before.containers.filter fun container => container.hostUuid == host.uuid := by
  cases h with
  | same => rfl
  | list h =>
    rw [containers, containers, List.filter_filterMap, List.filter_filterMap]
    refine h.filterMap_eq fun member hm => ?_
    cases member with
    | container held => exact Option.filter_some_neg (by simpa [Member.IsElsewhere] using hm)
    | stray value => exact absurd hm id

/-- Trimming adds nothing that a search for routers would stop at. -/
theorem TrimsTo.routerMisfit?_eq_none (h : before.TrimsTo host after)
    (hb : before.routerMisfit? host = none) : after.routerMisfit? host = none := by
  cases h with
  | same => exact hb
  | list h => exact h.findSome?_eq_none (fun _ _ he hn => he ▸ hn) hb

end Members

namespace Service

variable {settings : Settings} {host : Host} {before after driver driver' : Service}

/-- A service becomes itself if nothing is taken out. -/
theorem TrimsTo.refl (host : Host) (service : Service) : service.TrimsTo host service :=
  ⟨rfl, .same _⟩

/-- Trimming keeps whether a service is of the driver kind. -/
theorem TrimsTo.isDriver_eq (h : before.TrimsTo host after) :
    after.isDriver settings = before.isDriver settings := by
  rw [h.fields]
  rfl

/-- Trimming keeps whether a service is a candidate. -/
theorem TrimsTo.isCandidate_eq (h : before.TrimsTo host after) (services : List Service) :
    isCandidate settings services after = isCandidate settings services before := by
  rw [h.fields]
  rfl

/-- Trimming keeps whether a service serves the networks of a driver. -/
theorem TrimsTo.serves_eq (hd : driver.TrimsTo host driver') (h : before.TrimsTo host after) :
    driver'.serves after = driver.serves before := by
  rw [h.fields, hd.fields]
  rfl

/-- Trimming keeps which fields a service lacks. -/
theorem TrimsTo.lack?_eq (h : before.TrimsTo host after) (field : String) :
    Record.lack? after field = Record.lack? before field := by
  rw [h.fields]
  rfl

/-- Trimming keeps which of several services is the first to lack a field. -/
theorem findSome?_lack?_eq {services services' : List Service}
    (h : List.Forall₂ (TrimsTo host) services services') (field : String) :
    (services'.findSome? fun service => Record.lack? service field) =
      services.findSome? fun service => Record.lack? service field := by
  induction h with
  | nil => rfl
  | cons h _ ih => rw [List.findSome?_cons, List.findSome?_cons, h.lack?_eq, ih]

/-- Trimming keeps why a service cannot be asked whether it is of the driver kind. -/
theorem TrimsTo.kindMisfit?_eq (h : before.TrimsTo host after) :
    after.kindMisfit? settings = before.kindMisfit? settings := by
  rw [kindMisfit?, kindMisfit?, h.lack?_eq]

/-- Trimming keeps why a service cannot be asked whether it serves the networks of a driver. -/
theorem TrimsTo.servesMisfit?_eq (hd : driver.TrimsTo host driver')
    (h : before.TrimsTo host after) :
    driver'.servesMisfit? after = driver.servesMisfit? before := by
  rw [h.fields, hd.fields]
  rfl

/-- Trimming keeps the routers on the host. -/
theorem TrimsTo.routersOn_eq (h : before.TrimsTo host after) :
    after.routersOn host.uuid = before.routersOn host.uuid := by
  rw [routersOn, routersOn, containers, containers, h.members.filter_containers_eq]

/-- An unrelated service does not serve the networks of the driver. -/
theorem IsUnrelated.serves_eq_false {service : Service}
    (h : service.IsUnrelated settings (some driver)) : driver.serves service = false := by
  rw [serves, h.2 driver rfl, Bool.false_and, Bool.false_and]

end Service

/-- What lets the network service of a driver be found lets it be found after pruning: the first
service that serves the driver stays, and nothing is put in front of it. -/
theorem Pruned.findMisfit?_eq_none {settings : Settings} {host : Host}
    {driver driver' : Service} {services services' : List Service}
    (h : Pruned (Service.IsUnrelated settings (some driver)) (Service.TrimsTo host)
      services services')
    (hd : driver.TrimsTo host driver') (hb : findMisfit? driver services = none) :
    findMisfit? driver' services' = none := by
  induction h with
  | nil => rfl
  | remove h _ ih =>
    -- The search went past this service, since it does not serve the driver.
    rw [findMisfit?, Option.or_eq_none_iff, h.serves_eq_false] at hb
    exact ih hb.2
  | @keep service service' _ _ h _ ih =>
    rw [findMisfit?, Option.or_eq_none_iff] at hb ⊢
    rw [hd.servesMisfit?_eq h, hd.serves_eq h]
    refine ⟨hb.1, ?_⟩
    by_cases hs : driver.serves service = true
    · rw [if_pos hs]
    · rw [if_neg hs] at hb ⊢
      exact ih hb.2

namespace Snapshot

variable {settings : Settings} {trimmed : Service → Service → Prop} {before after : Snapshot}

namespace PrunesTo

/-- Pruning keeps the identity of the host. -/
theorem hostUuid_eq (h : before.PrunesTo settings trimmed after) : after.host.uuid = before.host.uuid := by
  rw [h.host]

/-- Pruning keeps the environment of the host. -/
theorem environmentUuid_eq (h : before.PrunesTo settings trimmed after) :
    after.host.environmentUuid = before.host.environmentUuid := by
  rw [h.host]

/-- Pruning trims the services of the driver kind, in their order. -/
theorem forall₂_drivers (h : before.PrunesTo settings trimmed after) :
    List.Forall₂ (Service.TrimsTo before.host) (drivers settings before.services)
      (drivers settings after.services) :=
  (h.services.imp h.trimsTo).forall₂_filter (fun _ hu => hu.1) fun _ _ ht => ht.isDriver_eq

/-- Pruning trims the candidates for the driver, in their order. -/
theorem forall₂_driverCandidates (h : before.PrunesTo settings trimmed after) :
    List.Forall₂ (Service.TrimsTo before.host) (driverCandidates settings before.services)
      (driverCandidates settings after.services) := by
  -- Whether names decide depends on the number of drivers, which all stay.
  have hlength := h.forall₂_drivers.length_eq
  rw [driverCandidates, driverCandidates, isCandidate_eq_of_length_eq hlength.symm]
  exact (h.services.imp h.trimsTo).forall₂_filter (fun _ hu => isCandidate_eq_false hu.1 _)
    fun _ _ ht => ht.isCandidate_eq _

/-- Pruning trims the driver. -/
theorem rel_driver? (h : before.PrunesTo settings trimmed after) :
    Option.Rel (Service.TrimsTo before.host) (before.driver? settings)
      (after.driver? settings) :=
  Pruned.rel_head?_of_forall₂ h.forall₂_driverCandidates

/-- Pruning trims the network service. -/
theorem rel_networkService? (h : before.PrunesTo settings trimmed after) :
    Option.Rel trimmed (before.networkService? settings) (after.networkService? settings) := by
  have hdriver := h.rel_driver?
  have hservices := h.services
  rw [networkService?, networkService?]
  cases hb : before.driver? settings <;> cases ha : after.driver? settings <;>
    simp only [hb, ha, Option.rel_some_some, Option.not_rel_none_some, Option.not_rel_some_none]
      at hdriver
  · exact .none
  · rw [hb] at hservices
    exact hservices.rel_find? (fun _ hu => hu.serves_eq_false)
      fun _ _ ht => hdriver.serves_eq (h.trimsTo _ _ ht)

/-- Pruning trims the network service, or there is none before and after. -/
theorem trimmed_networkService (h : before.PrunesTo settings trimmed after) :
    trimmed (before.networkService settings) (after.networkService settings) ∨
      before.networkService settings = {} ∧ after.networkService settings = {} := by
  have hrel := h.rel_networkService?
  rw [networkService, networkService]
  cases hb : before.networkService? settings <;> cases ha : after.networkService? settings <;>
    simp only [hb, ha, Option.rel_some_some, Option.not_rel_none_some, Option.not_rel_some_none]
      at hrel
  · exact Or.inr ⟨rfl, rfl⟩
  · exact Or.inl hrel

/-- Pruning takes containers on other hosts out of the network service. -/
theorem trimsTo_networkService (h : before.PrunesTo settings trimmed after) :
    (before.networkService settings).TrimsTo before.host (after.networkService settings) := by
  rcases h.trimmed_networkService with ht | ⟨hb, ha⟩
  · exact h.trimsTo _ _ ht
  · rw [hb, ha]
    exact .refl _ _

/-- Pruning keeps the routers. -/
theorem routers_eq (h : before.PrunesTo settings trimmed after) :
    after.routers settings = before.routers settings := by
  rw [routers, routers, h.hostUuid_eq]
  exact h.trimsTo_networkService.routersOn_eq

/-- Pruning keeps the local networks. -/
theorem localNetworks_eq (h : before.PrunesTo settings trimmed after) :
    after.localNetworks settings = before.localNetworks settings := by
  have hlocal : after.hasLocal settings = before.hasLocal settings := by
    funext network
    rw [hasLocal, hasLocal, h.routers_eq, Network.isLocal, Network.isLocal, h.environmentUuid_eq]
  rw [localNetworks, localNetworks, hlocal]
  -- Routers do not matter here: a network of another environment is never local.
  refine h.networks.filter_eq fun network hf => ?_
  rw [hasLocal, Network.isLocal, show (_ == _) = false from hf, Bool.false_and, Bool.false_and]

/-- Pruning adds nothing that the choice of the candidates would stop at. -/
theorem selectionObstacle?_eq_none (h : before.PrunesTo settings trimmed after)
    (hb : selectionObstacle? settings before.services = none) :
    selectionObstacle? settings after.services = none := by
  simp only [selectionObstacle?, Option.or_eq_none_iff, Obstacle.at?, Option.map_eq_none_iff]
    at hb ⊢
  -- The services of the driver kind all stay, so only the search for them may become shorter.
  rw [h.forall₂_drivers.length_eq.symm, Service.findSome?_lack?_eq h.forall₂_drivers,
    Service.findSome?_lack?_eq h.forall₂_drivers]
  exact ⟨(h.services.imp h.trimsTo).findSome?_eq_none
    (fun _ _ ht hn => ht.kindMisfit?_eq.trans hn) hb.1, hb.2⟩

/-- Pruning adds nothing that the search for the network service would stop at. -/
theorem findMisfit?_eq_none (h : before.PrunesTo settings trimmed after)
    (hb : ((before.driver? settings).bind fun driver =>
      findMisfit? driver before.services) = none) :
    ((after.driver? settings).bind fun driver => findMisfit? driver after.services) = none := by
  rw [Option.bind_eq_none_iff] at hb ⊢
  intro driver' ha
  have hdriver := h.rel_driver?
  have hservices := h.services.imp h.trimsTo
  cases hd : before.driver? settings with
  | none => simp [hd, ha] at hdriver
  | some driver =>
    rw [hd, ha, Option.rel_some_some] at hdriver
    rw [hd] at hservices
    exact hservices.findMisfit?_eq_none hdriver (hb driver hd)

/-- Pruning adds nothing that the search for the local topology would stop at. -/
theorem topologyMisfit?_eq_none (h : before.PrunesTo settings trimmed after)
    (hb : before.topologyMisfit? settings = none) : after.topologyMisfit? settings = none := by
  have hrouter : Members.routerMisfit? after.host = Members.routerMisfit? before.host := by
    rw [h.host]
    rfl
  have hlocal : Network.localMisfit? settings after.host =
      Network.localMisfit? settings before.host := by
    rw [h.host]
    rfl
  have hservice := h.trimsTo_networkService
  simp only [topologyMisfit?, Option.or_eq_none_iff, hrouter, hlocal, hservice.lack?_eq]
    at hb ⊢
  obtain ⟨hfind, hmembers, hrouters, hnetworks⟩ := hb
  exact ⟨h.findMisfit?_eq_none hfind, hmembers, hservice.members.routerMisfit?_eq_none hrouters,
    h.networks.findSome?_eq_none (fun _ _ he hn => he ▸ hn) hnetworks⟩

/-- Pruning adds nothing that a resolution would stop at. -/
theorem obstacle?_eq_none (h : before.PrunesTo settings trimmed after)
    (hb : before.obstacle? settings = none) : after.obstacle? settings = none := by
  simp only [obstacle?, Option.or_eq_none_iff, Obstacle.at?, Option.map_eq_none_iff,
    h.routers_eq, Service.findSome?_lack?_eq h.forall₂_driverCandidates] at hb ⊢
  obtain ⟨hselection, hcandidates, htopology, hrouters⟩ := hb
  exact ⟨h.selectionObstacle?_eq_none hselection, hcandidates,
    h.topologyMisfit?_eq_none htopology, hrouters⟩

end PrunesTo

/-- A resolution is local. With valid settings, resolving a valid snapshot and resolving what it is
pruned to both give a local topology, with the same outcome, the same routers in the same order and
the same local networks. The network service is the same up to the containers on other hosts that
were taken out of it, or there is none either time. -/
theorem resolve_of_prunesTo (hs : Record.isValid settings = true) (hv : before.isValid = true)
    (h : before.PrunesTo settings trimmed after) :
    ∃ found found', before.resolve settings = .ok found ∧ after.resolve settings = .ok found' ∧
      found'.outcome = found.outcome ∧ found'.routers = found.routers ∧
      found'.networks = found.networks ∧
      (trimmed found.service found'.service ∧ found.service.TrimsTo before.host found'.service ∨
        found.service = {} ∧ found'.service = {}) := by
  have hresolve : after.resolve settings = .ok (after.resolution settings) := by
    rw [resolve, h.obstacle?_eq_none (obstacle?_eq_none hv hs)]
  have houtcome : (after.resolution settings).outcome = (before.resolution settings).outcome :=
    Outcome.ofCandidates_eq_of_length_eq h.forall₂_driverCandidates.length_eq.symm
  have hservice := h.trimmed_networkService.imp_left fun ht => And.intro ht (h.trimsTo _ _ ht)
  exact ⟨_, _, resolve_of_isValid hv hs, hresolve, houtcome, h.routers_eq, h.localNetworks_eq,
    hservice⟩

/-- A snapshot with a network of another environment, a service of another stack in front of the
driver, and a second container of the network service, which is on another host. -/
def cluttered : Snapshot where
  networks :=
    [{ uuid := .text "far"
       environmentUuid := .text "elsewhere"
       metadata := .mapping [("cniConfig", .mapping [])] },
     { uuid := .text "net"
       environmentUuid := .text "env"
       metadata := .mapping [("cniConfig", .mapping [])] }]
  host :=
    { uuid := .text "host"
      environmentUuid := .text "env"
      labels := .mapping [("bridge", .text "br-lab")] }
  services :=
    [{ uuid := .text "web", stackUuid := .text "shop" },
     { uuid := .text "driver", stackUuid := .text "stack", kind := .text "networkDriverService" },
     { uuid := .text "service"
       stackUuid := .text "stack"
       name := .text "router"
       primaryServiceName := .text "router"
       members := .list
         [.container
            { uuid := .text "there", hostUuid := .text "other", networkUuid := .text "net" },
          .container
            { uuid := .text "here", hostUuid := .text "host", networkUuid := .text "net" }] }]

/-- The same snapshot without these, on a host with another name and without labels. -/
def uncluttered : Snapshot where
  networks :=
    [{ uuid := .text "net"
       environmentUuid := .text "env"
       metadata := .mapping [("cniConfig", .mapping [])] }]
  host := { uuid := .text "host", environmentUuid := .text "env", name := .text "renamed" }
  services :=
    [{ uuid := .text "driver", stackUuid := .text "stack", kind := .text "networkDriverService" },
     { uuid := .text "service"
       stackUuid := .text "stack"
       name := .text "router"
       primaryServiceName := .text "router"
       members := .list
         [.container
            { uuid := .text "here", hostUuid := .text "host", networkUuid := .text "net" }] }]

/-- Without the clutter, the snapshot has the same router and the same local network. -/
theorem resolve_uncluttered :
    ∃ found found', cluttered.resolve {} = .ok found ∧ uncluttered.resolve {} = .ok found' ∧
      found'.outcome = .ok ∧
      Table.mapValues Container.uuid found'.routers = [(.text "net", .text "here")] ∧
      found'.networks.map Network.uuid = [.text "net"] ∧
      found.service.TrimsTo cluttered.host found'.service := by
  have hs : Record.isValid ({} : Settings) = true := by decide
  have hv : cluttered.isValid = true := by decide
  have hprunes : cluttered.PrunesTo {} (Service.TrimsTo cluttered.host) uncluttered :=
    { networks := .remove rfl (.keep rfl .nil)
      host := rfl
      services := .remove ⟨rfl, fun _ hd => Option.some.inj hd ▸ rfl⟩ <|
        .keep (.refl _ _) <| .keep ⟨rfl, .list (.remove rfl (.keep rfl .nil))⟩ .nil
      trimsTo := fun _ _ ht => ht }
  obtain ⟨found, found', hfound, hfound', houtcome, hrouters, hnetworks, hservice⟩ :=
    resolve_of_prunesTo hs hv hprunes
  obtain rfl : cluttered.resolution {} = found :=
    Except.ok.inj ((resolve_of_isValid hv hs).symm.trans hfound)
  refine ⟨_, found', hfound, hfound', houtcome, ?_, ?_, ?_⟩
  · rw [hrouters]
    rfl
  · rw [hnetworks]
    rfl
  · rcases hservice with ⟨-, ht⟩ | ⟨hb, ha⟩
    · exact ht
    · rw [hb, ha]
      exact .refl _ _

end Snapshot

end HostOverlay
