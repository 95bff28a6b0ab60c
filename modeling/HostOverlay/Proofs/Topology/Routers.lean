import Mathlib.Data.List.Induction
import HostOverlay.Proofs.Topology.Selection

/-!
# The network service and its routers

The routers are collected in one pass over the containers of the network service: a container on the
host is stored under the network that it serves, and if that network has a router already, it takes
the router's place. So the networks come in the order of their first containers, and each holds its
last one. `Routers.AreCollected` says this of the containers that the pass has seen. One more
container keeps it (`AreCollected.put`, `AreCollected.skip`), so the whole pass does
(`AreCollected.foldl`).

A resolution compares values. In valid parts the values that it compares are texts, and a text is
equal to nothing but itself, so the conditions are stated here as plain equations.
-/

namespace HostOverlay

open Schema

section

variable {α : Type} {p q : α → Prop} {l : List α}

/-- Whether an element is the last of a list that meets a condition. -/
def IsLast (p : α → Prop) (l : List α) (a : α) : Prop :=
  ∃ front back, l = front ++ a :: back ∧ p a ∧ ∀ b ∈ back, ¬ p b

/-- Whether an element of a list meets a condition before any meets another: some front part of the
list has an element that meets the one and none that meets the other. -/
def Precedes (p q : α → Prop) (l : List α) : Prop :=
  ∃ front, front <+: l ∧ (∃ a ∈ front, p a) ∧ ∀ a ∈ front, ¬ q a

/-- An element of a list that ends in another is that end, or what stands behind it ends in the
same. -/
theorem eq_or_of_concat_eq {a b : α} {front back : List α} (h : l ++ [a] = front ++ b :: back) :
    a = b ∨ ∃ rest, back = rest ++ [a] ∧ l = front ++ b :: rest := by
  rcases List.eq_nil_or_concat back with rfl | ⟨rest, c, rfl⟩
  · exact Or.inl (List.cons.inj (List.append_inj_right' h rfl)).1
  · rw [List.concat_eq_append, ← List.cons_append, ← List.append_assoc] at h
    obtain rfl : a = c := (List.cons.inj (List.append_inj_right' h rfl)).1
    exact Or.inr ⟨rest, List.concat_eq_append, List.append_inj_left' h rfl⟩

/-- An element at the end that meets the condition is the last. -/
theorem isLast_concat_of_pos {a b : α} (ha : p a) : IsLast p (l ++ [a]) b ↔ b = a := by
  constructor
  · rintro ⟨front, back, he, -, hback⟩
    rcases eq_or_of_concat_eq he with rfl | ⟨rest, rfl, -⟩
    · rfl
    · -- The element at the end would stand behind the last that meets the condition.
      exact absurd ha (hback a (List.mem_append_right _ (List.mem_singleton_self a)))
  · rintro rfl
    exact ⟨l, [], rfl, ha, by simp⟩

/-- An element at the end that does not meet the condition does not change which is the last. -/
theorem isLast_concat_of_neg {a b : α} (ha : ¬ p a) : IsLast p (l ++ [a]) b ↔ IsLast p l b := by
  constructor
  · rintro ⟨front, back, he, hb, hback⟩
    rcases eq_or_of_concat_eq he with rfl | ⟨rest, rfl, hl⟩
    · exact absurd hb ha
    · exact ⟨front, rest, hl, hb, fun other ho => hback other (List.mem_append_left _ ho)⟩
  · rintro ⟨front, back, rfl, hb, hback⟩
    refine ⟨front, back ++ [a], by simp, hb, fun other ho => ?_⟩
    rcases List.mem_append.mp ho with ho | ho
    · exact hback other ho
    · rwa [List.mem_singleton.mp ho]

/-- Where some element meets the condition, one is the last to do so. -/
theorem exists_isLast_iff : (∃ a, IsLast p l a) ↔ ∃ a ∈ l, p a := by
  induction l using List.reverseRecOn with
  | nil => simp [IsLast]
  | append_singleton l a ih =>
    by_cases ha : p a
    · simp only [isLast_concat_of_pos ha, exists_eq, true_iff]
      exact ⟨a, by simp, ha⟩
    · simp only [isLast_concat_of_neg ha, ih, List.mem_append, List.mem_singleton, or_and_right,
        exists_or, exists_eq_left, ha, or_false]

/-- Elements at the end do not change what comes first. -/
theorem Precedes.append (h : Precedes p q l) (more : List α) : Precedes p q (l ++ more) := by
  obtain ⟨front, hfront, hp, hq⟩ := h
  exact ⟨front, hfront.trans (List.prefix_append l more), hp, hq⟩

end

/-- Whether a container runs on a host and serves a network. -/
structure Container.Routes (hostUuid network : Tree) (container : Container) : Prop where
  /-- It runs on the host. -/
  host : container.hostUuid = hostUuid
  /-- It serves the network. -/
  network : container.networkUuid = network

/-- Whether routers are those of a host among containers. -/
structure Routers.AreCollected (hostUuid : Tree) (containers : List Container)
    (routers : Routers) : Prop where
  /-- No network comes twice. -/
  nodup : (Table.keys routers).Nodup
  /-- The networks are those that a container on the host serves. -/
  mem_keys_iff : ∀ network, network ∈ Table.keys routers ↔
    ∃ container ∈ containers, container.Routes hostUuid network
  /-- They come in the order in which the first containers that serve them on the host come. -/
  ordered : (Table.keys routers).Pairwise fun earlier later =>
    Precedes (Container.Routes hostUuid earlier) (Container.Routes hostUuid later) containers
  /-- The router for a network is the last container that serves it on the host. -/
  get?_eq_some_iff : ∀ network container, Table.get? routers network = some container ↔
    IsLast (Container.Routes hostUuid network) containers container

namespace Routers.AreCollected

variable {hostUuid : Tree} {containers rest : List Container} {container : Container}
  {routers : Routers}

/-- Among no containers there are no routers. -/
theorem nil (hostUuid : Tree) : AreCollected hostUuid [] [] where
  nodup := List.nodup_nil
  mem_keys_iff := by simp [Table.keys]
  ordered := List.Pairwise.nil
  get?_eq_some_iff := by simp [IsLast]

/-- A container on the host becomes the router for its network. -/
theorem put (h : AreCollected hostUuid containers routers)
    (hk : Table.IsSharp container.networkUuid) (hc : container.hostUuid = hostUuid) :
    AreCollected hostUuid (containers ++ [container])
      (Table.put container.networkUuid container routers) := by
  have hself : container.Routes hostUuid container.networkUuid := ⟨hc, rfl⟩
  constructor
  case nodup => exact hk.nodup_keys_put h.nodup
  case mem_keys_iff =>
    intro network
    rw [hk.mem_keys_put, h.mem_keys_iff]
    constructor
    · rintro (rfl | ⟨other, ho, hr⟩)
      · exact ⟨container, by simp, hself⟩
      · exact ⟨other, List.mem_append_left _ ho, hr⟩
    · rintro ⟨other, ho, hr⟩
      rcases List.mem_append.mp ho with ho | ho
      · exact Or.inr ⟨other, ho, hr⟩
      · obtain rfl := List.mem_singleton.mp ho
        exact Or.inl hr.network.symm
  case ordered =>
    have hordered := h.ordered.imp fun hp => Precedes.append hp [container]
    by_cases hm : container.networkUuid ∈ Table.keys routers
    · rwa [hk.keys_put_of_mem hm]
    · -- A new network comes last, since no container seen so far serves it.
      rw [hk.keys_put_of_not_mem hm, List.pairwise_append]
      refine ⟨hordered, List.pairwise_singleton _ _, fun earlier he later hl => ?_⟩
      obtain rfl := List.mem_singleton.mp hl
      exact ⟨containers, List.prefix_append _ _, (h.mem_keys_iff earlier).mp he,
        fun other ho hr => hm ((h.mem_keys_iff _).mpr ⟨other, ho, hr⟩)⟩
  case get?_eq_some_iff =>
    intro network router
    by_cases hn : network = container.networkUuid
    · subst hn
      rw [hk.get?_put_self, isLast_concat_of_pos hself, Option.some.injEq, eq_comm]
    · have hother : ¬ container.Routes hostUuid network := fun hr => hn hr.network.symm
      rw [hk.get?_put_of_ne hn, isLast_concat_of_neg hother, h.get?_eq_some_iff]

/-- A container elsewhere changes nothing. -/
theorem skip (h : AreCollected hostUuid containers routers)
    (hc : container.hostUuid ≠ hostUuid) :
    AreCollected hostUuid (containers ++ [container]) routers := by
  have hother : ∀ network, ¬ container.Routes hostUuid network := fun _ hr => hc hr.host
  constructor
  case nodup => exact h.nodup
  case mem_keys_iff =>
    intro network
    rw [h.mem_keys_iff]
    simp [or_and_right, exists_or, hother]
  case ordered => exact h.ordered.imp fun hp => Precedes.append hp [container]
  case get?_eq_some_iff =>
    intro network router
    rw [isLast_concat_of_neg (hother network), h.get?_eq_some_iff]

/-- The pass over further containers collects the routers among all of them. -/
theorem foldl (h : AreCollected hostUuid containers routers) (hh : Table.IsSharp hostUuid)
    (hr : ∀ container ∈ rest, Table.IsSharp container.networkUuid) :
    AreCollected hostUuid (containers ++ rest)
      ((rest.filter fun container => container.hostUuid == hostUuid).foldl
        (fun routers container => Table.put container.networkUuid container routers) routers) := by
  -- The containers move one by one from those that are to come to those that were seen.
  induction rest generalizing containers routers with
  | nil => simpa using h
  | cons container rest ih =>
    have hrest : ∀ other ∈ rest, Table.IsSharp other.networkUuid :=
      fun other ho => hr other (List.mem_cons_of_mem _ ho)
    rw [List.append_cons, List.filter_cons]
    by_cases hc : container.hostUuid = hostUuid
    · have hb : (container.hostUuid == hostUuid) = true := (hh.right _).mpr hc
      rw [if_pos hb, List.foldl_cons]
      exact ih (h.put (hr container List.mem_cons_self) hc) hrest
    · have hb : ¬ (container.hostUuid == hostUuid) = true := fun hb => hc ((hh.right _).mp hb)
      rw [if_neg hb]
      exact ih (h.skip hc) hrest

/-- A network has a router exactly if a container on the host serves it. -/
theorem isSome_get?_iff (h : AreCollected hostUuid containers routers) (network : Tree) :
    (Table.get? routers network).isSome = true ↔
      ∃ container ∈ containers, container.Routes hostUuid network := by
  rw [Option.isSome_iff_exists, ← exists_isLast_iff]
  exact exists_congr (h.get?_eq_some_iff network)

/-- The router for a network runs on the host and serves the network. -/
theorem routes_of_get?_eq_some (h : AreCollected hostUuid containers routers) {network : Tree}
    (hr : Table.get? routers network = some container) : container.Routes hostUuid network := by
  obtain ⟨-, -, -, hroutes, -⟩ := (h.get?_eq_some_iff network container).mp hr
  exact hroutes

end Routers.AreCollected

namespace Service

variable {driver service : Service}

/-- Whether a service serves the networks of a driver, in equations. -/
structure IsPrimaryBeside (driver service : Service) : Prop where
  /-- It stands in the driver's stack. -/
  stack : service.stackUuid = driver.stackUuid
  /-- It is not the driver. -/
  other : service.uuid ≠ driver.uuid
  /-- It is its own primary service. -/
  primary : service.name = service.primaryServiceName

/-- Among valid services, the equations decide which one serves the networks of a driver. -/
theorem serves_iff (hd : driver.isValid = true) (h : service.isValid = true) :
    driver.serves service = true ↔ IsPrimaryBeside driver service := by
  have hstack : Table.IsSharp driver.stackUuid :=
    Record.isSharp_of_isValid (record_of_isValid hd) "stack_uuid" rfl rfl rfl
  have huuid : Table.IsSharp driver.uuid :=
    Record.isSharp_of_isValid (record_of_isValid hd) "uuid" rfl rfl rfl
  have hprimary : Table.IsSharp service.primaryServiceName :=
    Record.isSharp_of_isValid (record_of_isValid h) "primary_service_name"
      rfl rfl rfl
  rw [serves, Bool.and_eq_true, Bool.and_eq_true, hstack.right, hprimary.right, bne,
    Bool.not_eq_true', Bool.eq_false_iff, ne_eq, huuid.right]
  constructor
  · rintro ⟨⟨hs, hu⟩, hp⟩
    exact ⟨hs, hu, hp⟩
  · rintro ⟨hs, hu, hp⟩
    exact ⟨⟨hs, hu⟩, hp⟩

/-- The routers of a valid service on a host are collected from all its containers. -/
theorem areCollected_routersOn (h : service.isValid = true) {hostUuid : Tree}
    (hh : Table.IsSharp hostUuid) :
    (service.routersOn hostUuid).AreCollected hostUuid service.containers := by
  have hsharp : ∀ container ∈ service.containers, Table.IsSharp container.networkUuid := by
    intro container hm
    exact Record.isSharp_of_isValid (isValid_of_mem_containers h hm) "network_uuid"
      rfl rfl rfl
  exact (Routers.AreCollected.nil hostUuid).foldl hh hsharp

end Service

/-- Which service is the network service with given candidates for the driver. -/
inductive IsNetworkService (candidates services : List Service) : Service → Prop
  /-- Without a candidate it is the empty service. -/
  | noDriver (hc : candidates = []) : IsNetworkService candidates services {}
  /-- It is the empty service if none serves the networks of the first candidate. -/
  | absent {driver : Service} (hd : candidates.head? = some driver)
      (hs : ∀ service ∈ services, ¬ driver.IsPrimaryBeside service) :
      IsNetworkService candidates services {}
  /-- Otherwise it is the first service that does. -/
  | first {driver service : Service} {front back : List Service}
      (hd : candidates.head? = some driver) (hs : services = front ++ service :: back)
      (h : driver.IsPrimaryBeside service)
      (hf : ∀ other ∈ front, ¬ driver.IsPrimaryBeside other) :
      IsNetworkService candidates services service

namespace Snapshot

variable {settings : Settings} {snapshot : Snapshot}

/-- The network service of a valid snapshot is the first service that serves the networks of the
first candidate. -/
theorem isNetworkService_networkService (hv : snapshot.isValid = true) (settings : Settings) :
    IsNetworkService (driverCandidates settings snapshot.services) snapshot.services
      (snapshot.networkService settings) := by
  unfold networkService networkService? driver?
  cases hd : (driverCandidates settings snapshot.services).head? with
  | none => exact .noDriver (List.head?_eq_none_iff.mp hd)
  | some driver =>
    have hdriver : driver.isValid = true :=
      isValid_of_mem_services hv (List.mem_filter.mp (List.mem_of_head? hd)).1
    have hserves : ∀ service ∈ snapshot.services,
        (driver.serves service = true ↔ driver.IsPrimaryBeside service) :=
      fun service hm => Service.serves_iff hdriver (isValid_of_mem_services hv hm)
    rw [Option.bind_some, findNetworkService?]
    cases hf : snapshot.services.find? driver.serves with
    | none =>
      have hnone := List.find?_eq_none.mp hf
      exact .absent hd fun service hm hp => hnone service hm ((hserves service hm).mpr hp)
    | some service =>
      obtain ⟨hfound, front, back, hs, hfront⟩ := List.find?_eq_some_iff_append.mp hf
      have hm : service ∈ snapshot.services := List.mem_of_find?_eq_some hf
      refine .first hd hs ((hserves service hm).mp hfound) fun other ho hp => ?_
      -- The search went past the services in front of the one that it found.
      have hother : other ∈ snapshot.services := hs ▸ List.mem_append_left _ ho
      have hskipped : (!driver.serves other) = true := hfront other ho
      rw [(hserves other hother).mpr hp] at hskipped
      exact absurd hskipped (by decide)

/-- The routers of a valid snapshot are those of its host among the containers of its network
service. -/
theorem areCollected_routers (hv : snapshot.isValid = true) (settings : Settings) :
    (snapshot.routers settings).AreCollected snapshot.host.uuid
      (snapshot.networkService settings).containers :=
  Service.areCollected_routersOn (isValid_networkService hv settings)
    (Record.isSharp_of_isValid (isValid_host hv) "uuid" rfl rfl rfl)

/-- The network service and the routers of a resolution. With valid settings, resolving a valid
snapshot finds the first service that serves the networks of the first candidate, or the empty
service if there is no candidate or no such service; and the routers are those of the snapshot's
host among the containers of what was found. -/
theorem resolve_collects (hs : Record.isValid settings = true) (hv : snapshot.isValid = true) :
    ∃ found, snapshot.resolve settings = .ok found ∧
      selectDrivers settings snapshot.services = .ok found.candidates ∧
      IsNetworkService found.candidates snapshot.services found.service ∧
      found.routers.AreCollected snapshot.host.uuid found.service.containers := by
  refine ⟨_, resolve_of_isValid hv hs, ?_, ?_, ?_⟩
  · exact selectDrivers_of_isValid hs fun _ hm => isValid_of_mem_services hv hm
  · exact isNetworkService_networkService hv settings
  · exact areCollected_routers hv settings

/-- A snapshot in which the driver is its own primary service and stands in front of the network
service, which has two containers on the host for one network, one for another between them, and one
on another host. -/
def relayed : Snapshot where
  host := { uuid := .text "host" }
  services :=
    [{ uuid := .text "driver"
       stackUuid := .text "stack"
       kind := .text "networkDriverService"
       name := .text "cni-driver"
       primaryServiceName := .text "cni-driver" },
     { uuid := .text "service"
       stackUuid := .text "stack"
       name := .text "router"
       primaryServiceName := .text "router"
       members := .list
         [.container
            { uuid := .text "old", hostUuid := .text "host", networkUuid := .text "net" },
          .container
            { uuid := .text "lone", hostUuid := .text "host", networkUuid := .text "lan" },
          .container
            { uuid := .text "new", hostUuid := .text "host", networkUuid := .text "net" },
          .container
            { uuid := .text "there", hostUuid := .text "other", networkUuid := .text "net" }] }]

/-- The network that has two containers comes first, with the second of them. -/
theorem resolve_relayed :
    ∃ found, relayed.resolve {} = .ok found ∧ found.service.uuid = .text "service" ∧
      Table.mapValues Container.uuid found.routers =
        [(.text "net", .text "new"), (.text "lan", .text "lone")] ∧
      IsNetworkService found.candidates relayed.services found.service ∧
      found.routers.AreCollected (.text "host") found.service.containers := by
  have hs : Record.isValid ({} : Settings) = true := by decide
  have hv : relayed.isValid = true := by decide
  obtain ⟨found, hfound, -, hservice, hrouters⟩ := resolve_collects hs hv
  obtain rfl : relayed.resolution {} = found :=
    Except.ok.inj ((resolve_of_isValid hv hs).symm.trans hfound)
  exact ⟨_, hfound, rfl, rfl, hservice, hrouters⟩

end Snapshot

end HostOverlay
