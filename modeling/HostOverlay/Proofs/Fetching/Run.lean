import HostOverlay.Proofs.Fetching.Calls

/-!
# Runs of fetches

In a run, any number of clients may be asked for single fetches and for snapshots to resolve, in any
order. A single fetch may make a list for the caller, and a resolution from a client adds to the
journal; neither touches what any client holds, so every snapshot reads the same at every moment of
the run. Each client records what it was asked for, in the order of the run, and each resolution from
a client either fails with the failure of the first fetch that fails and leaves no trace but the
record, or is the resolution of the client's snapshot (`run_fetches`).
-/

namespace HostOverlay

open Schema

namespace Journal

/-- A resolution that is taken in adds what it reports to the records. -/
theorem records_enter (journal : Journal) (settings : Settings) (snapshot : Snapshot) :
    (journal.enter settings snapshot).records = journal.records ++ snapshot.events settings := by
  unfold enter
  dsimp only
  split <;> split <;> rfl

/-- A report in front of a resolution that is taken in makes no difference but for itself. -/
theorem enter_report (journal : Journal) (event : Event) (settings : Settings)
    (snapshot : Snapshot) :
    (journal.report [event]).enter settings snapshot =
      { journal.enter settings snapshot with
        records := journal.records ++ event :: snapshot.events settings } := by
  unfold enter
  dsimp only
  split <;> split <;> simp [report, tally, note, count]

end Journal

namespace Store

/-- Whether a store has the lists of a view. -/
structure Shows (store : Store) (view : View) : Prop where
  /-- The store has the list of networks. -/
  networks : store.networkRosters.Holds view.networks
  /-- The store has the list of services. -/
  services : store.serviceRosters.Holds view.services

/-- Whether every view that a store shows is shown by another, with the same snapshot. -/
def KeepsSnapshots (before after : Store) : Prop :=
  ∀ view, before.Shows view → after.Shows view ∧ after.snapshot view = before.snapshot view

/-- A store keeps its own snapshots. -/
theorem KeepsSnapshots.refl (store : Store) : store.KeepsSnapshots store :=
  fun _ h => ⟨h, rfl⟩

/-- Snapshots that are kept twice are kept. -/
theorem KeepsSnapshots.trans {first second third : Store} (h : first.KeepsSnapshots second)
    (h' : second.KeepsSnapshots third) : first.KeepsSnapshots third := by
  intro view hview
  obtain ⟨hshows, hsnapshot⟩ := h view hview
  obtain ⟨hshows', hsnapshot'⟩ := h' view hshows
  exact ⟨hshows', hsnapshot'.trans hsnapshot⟩

/-- Adding a list of networks keeps the snapshots. -/
theorem keepsSnapshots_addNetworkRoster (store : Store) (roster : Roster Network) :
    store.KeepsSnapshots (store.addNetworkRoster roster).2 := by
  intro view h
  refine ⟨⟨h.networks.add _, h.services⟩, ?_⟩
  have hroster : (store.addNetworkRoster roster).2.networkRosters.get view.networks =
      store.networkRosters.get view.networks := Pool.get_add_of_holds h.networks roster
  rw [snapshot, networksOf, hroster]
  rfl

/-- Adding a list of services keeps the snapshots. -/
theorem keepsSnapshots_addServiceRoster (store : Store) (roster : Roster Service) :
    store.KeepsSnapshots (store.addServiceRoster roster).2 := by
  intro view h
  refine ⟨⟨h.networks, h.services.add _⟩, ?_⟩
  have hroster : (store.addServiceRoster roster).2.serviceRosters.get view.services =
      store.serviceRosters.get view.services := Pool.get_add_of_holds h.services roster
  rw [snapshot, servicesOf, hroster]
  rfl

end Store

/-- Whether an agent has a client, the lists that the client holds, and a valid snapshot in them. -/
structure Agent.Serves (agent : Agent) (client : Handle Client) : Prop where
  /-- The agent has the client. -/
  holds : agent.clients.Holds client
  /-- The store has the lists that the client holds. -/
  shows : agent.store.Shows (agent.clients.get client).view
  /-- What the client holds is valid. -/
  isValid : (agent.store.snapshot (agent.clients.get client).view).isValid = true

/-- Whether a call asks a client for a single fetch, or a client that the agent serves for a snapshot
to resolve. -/
def Call.Fetches (agent : Agent) : Call → Prop
  | .fetch _ _ => True
  | .resolveFrom client | .localsFrom client => agent.Serves client
  | _ => False

namespace Agent

variable {agent : Agent} {call : Call} {calls : List Call}

/-- What is handed out from a view keeps the settings and the snapshots. -/
theorem retrieve_keeps (agent : Agent) (view : View) (fetch : Fetch) :
    (agent.retrieve view fetch).2.settings = agent.settings ∧
      agent.store.KeepsSnapshots (agent.retrieve view fetch).2.store := by
  cases fetch with
  | networks => exact ⟨rfl, Store.keepsSnapshots_addNetworkRoster _ _⟩
  | host => exact ⟨rfl, .refl _⟩
  | services => exact ⟨rfl, Store.keepsSnapshots_addServiceRoster _ _⟩

/-- A resolution from a client leaves the settings and the store alone. -/
theorem resolveFrom_keeps (agent : Agent) (client : Handle Client) :
    (agent.resolveFrom client).2.settings = agent.settings ∧
      (agent.resolveFrom client).2.store = agent.store := by
  rw [resolveFrom, Client.attemptAll_eq, ← Client.obstruction?]
  cases (agent.clients.get client).obstruction? with
  | some failure => exact ⟨rfl, rfl⟩
  | none =>
    simp only [Option.elim_none]
    split <;> exact ⟨rfl, rfl⟩

/-- A call that fetches keeps the settings and the snapshots. -/
theorem perform_keeps (hc : call.Fetches agent) :
    (agent.perform call).2.settings = agent.settings ∧
      agent.store.KeepsSnapshots (agent.perform call).2.store := by
  cases call with
  | fetch client fetch =>
    show (agent.fetch client fetch).2.settings = _ ∧
      agent.store.KeepsSnapshots (agent.fetch client fetch).2.store
    rw [Agent.fetch, Client.attempt]
    cases (agent.clients.get client).failure? fetch with
    | some failure => exact ⟨rfl, .refl _⟩
    | none => exact retrieve_keeps (agent.recording client [fetch]) _ fetch
  | resolveFrom client | localsFrom client =>
    obtain ⟨hsettings, hstore⟩ := resolveFrom_keeps agent client
    refine ⟨hsettings, ?_⟩
    show agent.store.KeepsSnapshots (agent.resolveFrom client).2.store
    rw [hstore]
    exact .refl _
  | _ => exact absurd hc id

/-- A client that the agent serves is served after a call that keeps the snapshots. -/
theorem Serves.perform {client : Handle Client} (h : agent.Serves client)
    (hk : agent.store.KeepsSnapshots (agent.perform call).2.store) :
    (agent.perform call).2.Serves client := by
  have hview : ((agent.perform call).2.clients.get client).view =
      (agent.clients.get client).view := by
    rw [get_clients_perform h.holds]
    rfl
  obtain ⟨hshows, hsnapshot⟩ := hk _ h.shows
  exact ⟨holds_perform h.holds call, hview ▸ hshows, by rw [hview, hsnapshot]; exact h.isValid⟩

/-- What fetches does so also after a call that fetches. -/
theorem fetches_perform (hc : call.Fetches agent) {other : Call} (ho : other.Fetches agent) :
    other.Fetches (agent.perform call).2 := by
  cases other with
  | fetch client fetch => trivial
  | resolveFrom client | localsFrom client => exact Serves.perform ho (perform_keeps hc).2
  | _ => exact ho

/-- A run of calls that fetch keeps the settings and the snapshots. -/
theorem run_keeps (hc : ∀ call ∈ calls, call.Fetches agent) :
    (agent.run calls).2.settings = agent.settings ∧
      agent.store.KeepsSnapshots (agent.run calls).2.store := by
  induction calls generalizing agent with
  | nil => exact ⟨rfl, .refl _⟩
  | cons call rest ih =>
    have hcall := hc call List.mem_cons_self
    obtain ⟨hsettings, hstore⟩ := perform_keeps hcall
    obtain ⟨hsettings', hstore'⟩ := ih fun other ho =>
      fetches_perform hcall (hc other (List.mem_cons_of_mem _ ho))
    exact ⟨hsettings'.trans hsettings, hstore.trans hstore'⟩

/-- In a run of fetches, each client records what it was asked for, in the order of the run. Take any
resolution on the way, and the client that it is from. If a fetch of this client fails, the reply is
the failure of the first that does, and the journal and the store stay as they are. Otherwise the
reply is the resolution of the snapshot that the client has held from the start, the metrics are
those after resolving this snapshot directly, and the records are those after that, with a report of
what was fetched in front of the ones that are new. -/
theorem run_fetches (hs : Record.isValid agent.settings = true)
    (hc : ∀ call ∈ calls, call.Fetches agent) :
    (∀ handle, agent.clients.Holds handle →
      ((agent.run calls).2.clients.get handle).calls = (agent.clients.get handle).calls ++
        calls.flatMap (Call.fetchesFrom handle (agent.clients.get handle))) ∧
    ∀ i call handle, calls[i]? = some call → call.source? = some handle →
      let client := agent.clients.get handle
      let snapshot := agent.store.snapshot client.view
      let current := (agent.run (calls.take i)).2
      let after := (agent.run (calls.take (i + 1))).2
      after.store = current.store ∧
      (∀ failure, client.obstruction? = some failure →
        (agent.run calls).1[i]? = some (.failed failure) ∧ after.journal = current.journal) ∧
      (client.obstruction? = none → ∃ found direct events,
        snapshot.resolve agent.settings = .ok found ∧
        current.resolve client.view = (.ok found, direct) ∧
        (agent.run calls).1[i]? = some (call.replyWith found) ∧
        direct.journal.records = current.journal.records ++ events ∧
        after.journal =
          { direct.journal with
            records := current.journal.records ++ snapshot.fetchedReport :: events }) := by
  refine ⟨fun handle hh => congrArg Client.calls (get_clients_run hh calls), ?_⟩
  intro i call handle hi hsource client snapshot current after
  have hcall : call.Fetches agent := hc call (List.mem_of_getElem? hi)
  have hserves : agent.Serves handle := by
    cases call with
    | resolveFrom asked | localsFrom asked => exact Option.some.inj hsource ▸ hcall
    | _ => simp [Call.source?] at hsource
  -- Up to this call, nothing happened to what the client holds and to which fetches fail.
  obtain ⟨hsettings, hkeeps⟩ : current.settings = agent.settings ∧
      agent.store.KeepsSnapshots current.store :=
    run_keeps fun other ho => hc other (List.mem_of_mem_take ho)
  have hclient : current.clients.get handle = client.recording _ :=
    get_clients_run hserves.holds (calls.take i)
  have hsnapshot : current.store.snapshot client.view = snapshot := (hkeeps _ hserves.shows).2
  have hafter : after = (current.perform call).2 := run_take_succ agent hi
  have hreply : (agent.run calls).1[i]? = some (current.perform call).1 := by
    rw [getElem?_run, hi]
    rfl
  have hobstruction : (current.clients.get handle).obstruction? = client.obstruction? := by
    rw [hclient, Client.obstruction?_recording]
  have hview : (current.clients.get handle).view = client.view := by
    rw [hclient]
    rfl
  have hstore : after.store = current.store := by
    rw [hafter]
    cases call with
    | resolveFrom asked | localsFrom asked => exact (resolveFrom_keeps current asked).2
    | _ => simp [Call.source?] at hsource
  refine ⟨hstore, fun failure hf => ?_, fun hnone => ?_⟩
  · rw [hreply, hafter, perform_of_obstruction?_eq_some hsource (hobstruction.trans hf)]
    exact ⟨rfl, rfl⟩
  · have hresolve : snapshot.resolve agent.settings = .ok (snapshot.resolution agent.settings) :=
      Snapshot.resolve_of_isValid hserves.isValid hs
    have hdirect : current.resolve client.view = (.ok (snapshot.resolution agent.settings),
        { current with journal := current.journal.enter agent.settings snapshot }) := by
      rw [resolve, hsnapshot, hsettings, hresolve]
    have hperform := perform_of_obstruction?_eq_none (hsettings ▸ hs) hsource
      (hobstruction.trans hnone) (by rw [hview, hsnapshot]; exact hserves.isValid)
    rw [hview, hsnapshot, hsettings] at hperform
    rw [hreply, hafter, hperform, Journal.enter_report]
    exact ⟨_, _, _, hresolve, hdirect, rfl, Journal.records_enter _ _ _, rfl⟩

/-- An agent with two clients of one snapshot, in which there is a driver. The second client fails
to give the host and the services, and has a failure for something that cannot be fetched. -/
def attended : Agent where
  store := (Store.addSnapshot {}
    { host := { uuid := .text "host" }
      services := [{ uuid := .text "driver", kind := .text "networkDriverService" }] }).2
  clients := ⟨[{ view := ⟨⟨0⟩, ⟨0⟩, ⟨0⟩⟩ },
    { view := ⟨⟨0⟩, ⟨0⟩, ⟨0⟩⟩
      errors := [("get_services", .timeout "late"), ("get_volumes", .value "unknown"),
        ("get_self_host", .metadata "gone")] }]⟩

/-- Among resolutions from both clients, those from the second fail without the host and leave the
services alone, and those from the first succeed. -/
theorem run_attended :
    let calls : List Call :=
      [.localsFrom ⟨1⟩, .fetch ⟨0⟩ .services, .fetch ⟨1⟩ .services, .resolveFrom ⟨0⟩]
    ((attended.run calls).2.clients.get ⟨0⟩).calls = [.services, .networks, .host, .services] ∧
      ((attended.run calls).2.clients.get ⟨1⟩).calls = [.networks, .host, .services] ∧
      (attended.run calls).1[0]? = some (.failed (.metadata "gone")) ∧
      ∃ found, (attended.run calls).1[3]? = some (.resolution found) ∧ found.outcome = .ok := by
  intro calls
  have hs : Record.isValid attended.settings = true := by decide
  have hserves (client : Handle Client) (hh : client = ⟨0⟩ ∨ client = ⟨1⟩) :
      attended.Serves client := by
    rcases hh with rfl | rfl <;> exact ⟨by decide, ⟨by decide, by decide⟩, by decide⟩
  have hc : ∀ call ∈ calls, call.Fetches attended := by
    intro call hm
    simp only [calls, List.mem_cons, List.not_mem_nil, or_false] at hm
    rcases hm with rfl | rfl | rfl | rfl
    · exact hserves ⟨1⟩ (Or.inr rfl)
    · trivial
    · trivial
    · exact hserves ⟨0⟩ (Or.inl rfl)
  obtain ⟨hcalls, hresolutions⟩ := run_fetches hs hc
  obtain ⟨-, hfails, -⟩ := hresolutions 0 _ ⟨1⟩ rfl rfl
  obtain ⟨-, -, hsucceeds⟩ := hresolutions 3 _ ⟨0⟩ rfl rfl
  obtain ⟨found, -, -, hfound, -, hreply, -⟩ := hsucceeds rfl
  refine ⟨hcalls ⟨0⟩ (hserves _ (Or.inl rfl)).holds, hcalls ⟨1⟩ (hserves _ (Or.inr rfl)).holds,
    (hfails _ rfl).1, found, hreply, ?_⟩
  rw [← Except.ok.inj hfound]
  rfl

end Agent

end HostOverlay
