import HostOverlay.Proofs.Fetching.Run

/-!
# What a client captures

A client takes over objects when it is made: those that the given lists refer to at that moment, in
their order, and the given host. It keeps them in lists of its own. No call of the agent changes a
list that is there already, and a list that is handed out is a new one (`fetched_networks_fresh`,
`fetched_services_fresh`); only a change from outside reaches a list, and it has to name it. So a
client has its capture after every call that does not name one of its own lists
(`Captures.perform`), whatever becomes of the objects.
-/

namespace HostOverlay

open Schema

/-- The objects that a client takes over, by handle. -/
structure Capture where
  /-- The networks, in their order. -/
  networks : Roster Network
  /-- The host. -/
  host : Handle Host
  /-- The services, in their order. -/
  services : Roster Service

/-- What a client takes over that is made of the given lists and the given host. A list that is not
given counts as empty, and in the place of a host that is not given there is a new one. -/
def Store.capture (store : Store) (networks : Option (Handle (Roster Network)))
    (host : Option (Handle Host)) (services : Option (Handle (Roster Service))) : Capture where
  networks := (networks.map store.networkRosters.get).getD []
  host := host.getD store.hosts.fresh
  services := (services.map store.serviceRosters.get).getD []

namespace Capture

/-- The snapshot that the captured objects make up, as they are now. -/
def contents (capture : Capture) (store : Store) : Snapshot where
  networks := capture.networks.map store.readNetwork
  host := store.readHost capture.host
  services := capture.services.map store.services.get

/-- Whether something is what a fetch has to give: a list of the captured objects in their order, or
the captured host. -/
def IsGiven (capture : Capture) (store : Store) : Fetch → Fetched → Prop
  | .networks, .networks roster => store.networkRosters.get roster = capture.networks
  | .host, .host host => host = capture.host
  | .services, .services roster => store.serviceRosters.get roster = capture.services
  | _, _ => False

end Capture

/-- A handle that has its object is not that of the next object. -/
theorem Pool.Holds.ne_fresh {α : Type} {pool : Pool α} {handle : Handle α}
    (h : pool.Holds handle) : pool.fresh ≠ handle := by
  rintro rfl
  exact Nat.lt_irrefl _ h

/-- An object that was just added is there. -/
theorem Pool.holds_fresh_add {α : Type} (pool : Pool α) (object : α) :
    (pool.add object).Holds pool.fresh := by
  simp [Pool.Holds, Pool.add, Pool.fresh]

/-- Whether a call leaves the lists of a view alone: it does not change one of them from outside. -/
def Call.Spares (view : View) : Call → Prop
  | .edit (.setNetworkRoster roster _) => roster ≠ view.networks
  | .edit (.setServiceRoster roster _) => roster ≠ view.services
  | _ => True

namespace Store

variable {before after store : Store} {view : View}

/-- Whether a store has the lists of a view as another store has them. -/
structure KeepsLists (before after : Store) (view : View) : Prop where
  /-- The lists are there. -/
  shows : after.Shows view
  /-- The list of networks refers to the same networks. -/
  networks : after.networkRosters.get view.networks = before.networkRosters.get view.networks
  /-- The list of services refers to the same services. -/
  services : after.serviceRosters.get view.services = before.serviceRosters.get view.services

/-- A store keeps the lists of a view if it has the same lists. -/
theorem KeepsLists.of_eq (h : before.Shows view)
    (hn : after.networkRosters = before.networkRosters)
    (hs : after.serviceRosters = before.serviceRosters) : before.KeepsLists after view where
  shows := ⟨by rw [hn]; exact h.networks, by rw [hs]; exact h.services⟩
  networks := by rw [hn]
  services := by rw [hs]

/-- Lists that are kept twice are kept. -/
theorem KeepsLists.trans {first second third : Store} (h : first.KeepsLists second view)
    (h' : second.KeepsLists third view) : first.KeepsLists third view where
  shows := h'.shows
  networks := h'.networks.trans h.networks
  services := h'.services.trans h.services

section

variable (h : store.Shows view)
include h

/-- Adding a list of networks keeps the lists of a view. -/
theorem keepsLists_addNetworkRoster (roster : Roster Network) :
    store.KeepsLists (store.addNetworkRoster roster).2 view where
  shows := ⟨h.networks.add _, h.services⟩
  networks := Pool.get_add_of_holds h.networks roster
  services := rfl

/-- Adding a list of services keeps the lists of a view. -/
theorem keepsLists_addServiceRoster (roster : Roster Service) :
    store.KeepsLists (store.addServiceRoster roster).2 view where
  shows := ⟨h.networks, h.services.add _⟩
  networks := rfl
  services := Pool.get_add_of_holds h.services roster

/-- A change from outside keeps the lists of a view that it does not name. -/
theorem keepsLists_apply {edit : Edit} (he : (Call.edit edit).Spares view) :
    store.KeepsLists (store.apply edit) view := by
  cases edit with
  | addNetworkRoster roster => exact keepsLists_addNetworkRoster h roster
  | addServiceRoster roster => exact keepsLists_addServiceRoster h roster
  | setNetworkRoster changed roster =>
    exact ⟨⟨h.networks.set _ _, h.services⟩, Pool.get_set_of_ne _ (Ne.symm he) roster, rfl⟩
  | setServiceRoster changed roster =>
    exact ⟨⟨h.networks, h.services.set _ _⟩, rfl, Pool.get_set_of_ne _ (Ne.symm he) roster⟩
  | _ => exact .of_eq h rfl rfl

end

end Store

namespace Agent

variable {agent : Agent} {client : Handle Client} {view : View} {call : Call}

/-- Making a client keeps the lists of a view. -/
theorem keepsLists_openClient (h : agent.store.Shows view)
    (networks : Option (Handle (Roster Network))) (host : Option (Handle Host))
    (services : Option (Handle (Roster Service))) (errors : Table String Failure) :
    agent.store.KeepsLists (agent.openClient networks host services errors).2.store view := by
  have hnetworks := Store.keepsLists_addNetworkRoster h
    ((networks.map agent.store.networkRosters.get).getD [])
  cases host with
  | some host => exact hnetworks.trans (Store.keepsLists_addServiceRoster hnetworks.shows _)
  | none =>
    have hhost : agent.store.KeepsLists ((agent.store.addNetworkRoster
        ((networks.map agent.store.networkRosters.get).getD [])).2.addHost {}).2 view :=
      hnetworks.trans (.of_eq hnetworks.shows rfl rfl)
    exact hhost.trans (Store.keepsLists_addServiceRoster hhost.shows _)

/-- Handing something out of a view keeps the lists of any view. -/
theorem keepsLists_retrieve (agent : Agent) (h : agent.store.Shows view) (held : View)
    (fetch : Fetch) : agent.store.KeepsLists (agent.retrieve held fetch).2.store view := by
  cases fetch with
  | networks => exact Store.keepsLists_addNetworkRoster h _
  | host => exact .of_eq h rfl rfl
  | services => exact Store.keepsLists_addServiceRoster h _

/-- A call keeps the lists of a view, unless it changes one of them from outside. -/
theorem keepsLists_perform (h : agent.store.Shows view) (hc : call.Spares view) :
    agent.store.KeepsLists (agent.perform call).2.store view := by
  cases call with
  | edit edit => exact Store.keepsLists_apply h hc
  | openClient networks host services errors =>
    exact keepsLists_openClient h networks host services errors
  | fetch asked fetch =>
    show agent.store.KeepsLists (agent.fetch asked fetch).2.store view
    rw [Agent.fetch, Client.attempt]
    cases (agent.clients.get asked).failure? fetch with
    | some failure => exact .of_eq h rfl rfl
    | none => exact keepsLists_retrieve (agent.recording asked [fetch]) h _ fetch
  | resolveFrom asked | localsFrom asked =>
    show agent.store.KeepsLists (agent.resolveFrom asked).2.store view
    rw [(resolveFrom_keeps agent asked).2]
    exact .of_eq h rfl rfl
  | select services =>
    show agent.store.KeepsLists (agent.select services).2.store view
    rw [snd_select]
    exact .of_eq h rfl rfl
  | findService driver services =>
    show agent.store.KeepsLists (agent.findService driver services).2.store view
    rw [snd_findService]
    exact .of_eq h rfl rfl
  | _ => exact .of_eq h rfl rfl

/-- What a call hands out comes from the fetch that it asks for. -/
theorem exists_fetch_of_perform_eq {fetched : Fetched}
    (h : (agent.perform call).1 = .fetched fetched) :
    ∃ asked fetch, call = .fetch asked fetch ∧ (agent.fetch asked fetch).1 = .ok fetched := by
  have hno {α : Type} {answer : α → Reply} (ha : ∀ a, answer a ≠ .fetched fetched)
      (result : Except Failure α) : Reply.ofExcept answer result ≠ .fetched fetched := by
    cases result with
    | ok a => exact ha a
    | error failure => simp [Reply.ofExcept]
  cases call with
  | fetch asked fetch =>
    refine ⟨asked, fetch, rfl, ?_⟩
    simp only [perform, Prod.map] at h
    cases hf : (agent.fetch asked fetch).1 with
    | ok other =>
      rw [hf] at h
      rw [Reply.fetched.inj h]
    | error failure => simp [hf, Reply.ofExcept] at h
  | configure settings => simp [perform] at h
  | edit edit => simp [perform] at h
  | forget => simp [perform] at h
  | openClient networks host services errors => simp [perform] at h
  | inspect listing interface subnet => simp [perform] at h
  | locals view | localsFrom asked => exact absurd h (hno (by simp [Reply.ofLocals]) _)
  | _ => exact absurd h (hno (by simp) _)

/-- A fetch that does not fail is recorded, and hands something out of what the client holds. -/
theorem fetch_of_failure?_eq_none {fetch : Fetch}
    (h : (agent.clients.get client).failure? fetch = none) :
    agent.fetch client fetch =
      (((agent.recording client [fetch]).retrieve (agent.clients.get client).view fetch).map
        .ok id) := by
  rw [Agent.fetch, Client.attempt, h]
  rfl

/-- A fetch hands something out only if it does not fail. -/
theorem failure?_of_fetch_eq_ok {fetch : Fetch} {fetched : Fetched}
    (h : (agent.fetch client fetch).1 = .ok fetched) :
    (agent.clients.get client).failure? fetch = none := by
  cases hf : (agent.clients.get client).failure? fetch with
  | none => rfl
  | some failure =>
    rw [Agent.fetch, Client.attempt, hf] at h
    simp at h

/-- A list of networks that is handed out is a new one. -/
theorem fetched_networks_fresh {roster : Handle (Roster Network)}
    (h : (agent.perform call).1 = .fetched (.networks roster)) :
    roster = agent.store.networkRosters.fresh := by
  obtain ⟨asked, fetch, rfl, hf⟩ := exists_fetch_of_perform_eq h
  rw [fetch_of_failure?_eq_none (failure?_of_fetch_eq_ok hf)] at hf
  cases fetch with
  | networks => exact (Fetched.networks.inj (Except.ok.inj hf)).symm
  | host => cases hf
  | services => cases hf

/-- A list of services that is handed out is a new one. -/
theorem fetched_services_fresh {roster : Handle (Roster Service)}
    (h : (agent.perform call).1 = .fetched (.services roster)) :
    roster = agent.store.serviceRosters.fresh := by
  obtain ⟨asked, fetch, rfl, hf⟩ := exists_fetch_of_perform_eq h
  rw [fetch_of_failure?_eq_none (failure?_of_fetch_eq_ok hf)] at hf
  cases fetch with
  | networks => cases hf
  | host => cases hf
  | services => exact (Fetched.services.inj (Except.ok.inj hf)).symm

/-- Whether an agent has a client that holds a capture in a view. -/
structure Captures (agent : Agent) (client : Handle Client) (view : View) (capture : Capture) :
    Prop where
  /-- The agent has the client. -/
  holds : agent.clients.Holds client
  /-- The client fetches from the view. -/
  view_eq : (agent.clients.get client).view = view
  /-- The lists of the view are there. -/
  shows : agent.store.Shows view
  /-- The list of networks refers to those of the capture. -/
  networks : agent.store.networkRosters.get view.networks = capture.networks
  /-- The host is that of the capture. -/
  host : view.host = capture.host
  /-- The list of services refers to those of the capture. -/
  services : agent.store.serviceRosters.get view.services = capture.services

variable {capture : Capture}

/-- A client that was just made holds what it was made of, in new lists. -/
theorem captures_openClient (agent : Agent) (networks : Option (Handle (Roster Network)))
    (host : Option (Handle Host)) (services : Option (Handle (Roster Service)))
    (errors : Table String Failure) :
    (agent.openClient networks host services errors).2.Captures
      (agent.openClient networks host services errors).1
      ⟨agent.store.networkRosters.fresh, host.getD agent.store.hosts.fresh,
        agent.store.serviceRosters.fresh⟩
      (agent.store.capture networks host services) := by
  have hview : ((agent.openClient networks host services errors).2.clients.get
      (agent.openClient networks host services errors).1).view =
        ⟨agent.store.networkRosters.fresh, host.getD agent.store.hosts.fresh,
          agent.store.serviceRosters.fresh⟩ := by
    rw [openClient]
    cases host <;> exact congrArg Client.view (Pool.get_add_fresh agent.clients _)
  -- Whether a host is given decides only whether there is one more object in the end.
  cases host <;> exact
    { holds := Pool.holds_fresh_add _ _
      view_eq := hview
      shows := ⟨Pool.holds_fresh_add _ _, Pool.holds_fresh_add _ _⟩
      networks := Pool.get_add_fresh _ _
      host := rfl
      services := Pool.get_add_fresh _ _ }

/-- A client has its capture after a call that does not change one of its own lists from outside. -/
theorem Captures.perform (h : agent.Captures client view capture) (hc : call.Spares view) :
    (agent.perform call).2.Captures client view capture := by
  have hlists := keepsLists_perform h.shows hc
  refine ⟨holds_perform h.holds call, ?_, hlists.shows, hlists.networks.trans h.networks, h.host,
    hlists.services.trans h.services⟩
  rw [get_clients_perform h.holds]
  exact h.view_eq

/-- What the view of a client shows is the contents of its capture. -/
theorem Captures.snapshot_eq (h : agent.Captures client view capture) :
    agent.store.snapshot view = capture.contents agent.store := by
  rw [Store.snapshot, Store.networksOf, Store.servicesOf, h.networks, h.host, h.services]
  rfl

end Agent

end HostOverlay
