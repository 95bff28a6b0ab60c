import HostOverlay.Agent.Run
import HostOverlay.Proofs.Rewriting.Resolution
import HostOverlay.Proofs.Store

/-!
# Resolutions among substitutions

Between the resolutions of a snapshot, bridges may be discovered and configuration files
substituted, on any valid hosts and in any order. Each of these operations rewrites the networks of
the store and touches nothing else, and rewriting is transitive. So at every moment of a run the
snapshot is a rewritten form of the first one, and every resolution on the way answers as the first
would have answered (`run_rewritesTo_and_resolves`).
-/

namespace HostOverlay

open Schema

/-- Whether a call resolves a view, or discovers the bridge or substitutes the files of one of the
view's networks on a valid host. -/
def Call.RewritesOrResolves (store : Store) (view : View) : Call → Prop
  | .discoverBridge network host | .substituteConfig network host =>
    network ∈ store.networkRosters.get view.networks ∧ Record.isValid host = true
  | .resolve resolved => resolved = view
  | _ => False

namespace Agent

/-- What an agent and a view have if everything in them is as it is declared: every field holds a
value of its shape, no network has two configuration files of one name, and no label is a mapping
that could be shared. -/
structure IsReady (agent : Agent) (view : View) : Prop where
  /-- The settings are valid. -/
  settings : Record.isValid agent.settings = true
  /-- All parts of the snapshot are valid. -/
  snapshot : (agent.store.snapshot view).isValid = true
  /-- The configuration files of each network have different names. -/
  files : ∀ network ∈ (agent.store.snapshot view).networks,
    network.HasDistinctFiles agent.settings
  /-- There are no fragments. -/
  fragments : agent.store.fragments.size = 0

/-- An agent to whose empty store a valid snapshot was added is ready for it, if no network of the
snapshot has two configuration files of one name. -/
theorem isReady_addSnapshot {settings : Settings} (hs : Record.isValid settings = true)
    {snapshot : Snapshot} (h : snapshot.isValid = true)
    (hd : ∀ network ∈ snapshot.networks, network.HasDistinctFiles settings) :
    IsReady { settings, store := (Store.addSnapshot {} snapshot).2 }
      (Store.addSnapshot {} snapshot).1 := by
  have hempty : ({} : Store).fragments.size = 0 := rfl
  obtain ⟨hsnapshot, hf⟩ := Store.snapshot_addSnapshot hempty h
  exact ⟨hs, by rwa [hsnapshot], by rwa [hsnapshot], hf⟩

/-- Whether an agent becomes another while its networks are rewritten: of the settings and the store
everything else is the same. -/
structure RewritesTo (before after : Agent) : Prop where
  /-- The settings are the same. -/
  settings : after.settings = before.settings
  /-- The store is the same but for its networks. -/
  store : after.store = { before.store with networks := after.store.networks }
  /-- The networks are rewritten. -/
  networks : ∀ handle, (before.store.networks.get handle).RewritesTo before.settings
    (after.store.networks.get handle)

/-- An agent whose networks are rewritten twice is one whose networks are rewritten. -/
theorem RewritesTo.trans {first second third : Agent} (h : first.RewritesTo second)
    (h' : second.RewritesTo third) : first.RewritesTo third where
  settings := h'.settings.trans h.settings
  store := by
    rw [h'.store, h.store]
  networks handle := by
    have hsecond := h'.networks handle
    rw [h.settings] at hsecond
    exact (h.networks handle).trans hsecond

variable {agent before after : Agent} {view : View}

/-- An agent stays the same in this sense if its settings and its store do. -/
theorem RewritesTo.of_eq (hs : after.settings = before.settings)
    (hst : after.store = before.store) : before.RewritesTo after where
  settings := hs
  store := by rw [hst]
  networks handle := by
    rw [hst]
    exact .refl _ _

/-- Rewriting the networks of a store rewrites each snapshot. -/
theorem RewritesTo.snapshot (h : before.RewritesTo after)
    (hf : before.store.fragments.size = 0) (view : View) :
    (before.store.snapshot view).RewritesTo before.settings (after.store.snapshot view) where
  networks := by
    have hf' : after.store.fragments.size = 0 := by rw [h.store, hf]
    have hroster : after.store.networkRosters = before.store.networkRosters := by rw [h.store]
    simp only [Store.snapshot, Store.networksOf, hroster, List.forall₂_map_left_iff,
      List.forall₂_map_right_iff, List.forall₂_same, Store.readNetwork_eq hf,
      Store.readNetwork_eq hf']
    exact fun handle _ => h.networks handle
  host := by
    rw [h.store]
    rfl
  services := by
    rw [h.store]
    rfl

/-- An agent that is ready for a view stays so while its networks are rewritten. -/
theorem IsReady.of_rewritesTo (hr : before.IsReady view) (h : before.RewritesTo after) :
    after.IsReady view where
  settings := by
    rw [h.settings]
    exact hr.settings
  snapshot := (h.snapshot hr.fragments view).isValid hr.snapshot
  files network hmem := by
    obtain ⟨original, ho, hn⟩ := (h.snapshot hr.fragments view).exists_of_mem hmem
    rw [h.settings]
    exact hn.hasDistinctFiles (hr.files original ho)
  fragments := by
    rw [h.store]
    exact hr.fragments

/-- A network of the view is valid and has files with different names. -/
theorem IsReady.network (hr : agent.IsReady view) {handle : Handle Network}
    (hm : handle ∈ agent.store.networkRosters.get view.networks) :
    Record.isValid (agent.store.networks.get handle) = true ∧
      (agent.store.networks.get handle).HasDistinctFiles agent.settings := by
  have hmem : agent.store.networks.get handle ∈ (agent.store.snapshot view).networks := by
    rw [← Store.readNetwork_eq hr.fragments]
    exact List.mem_map_of_mem hm
  exact ⟨Snapshot.isValid_of_mem_networks hr.snapshot hmem, hr.files _ hmem⟩

/-- Changing one network to what it is rewritten to rewrites the networks. -/
theorem rewritesTo_setNetwork {handle : Handle Network} {changed : Network}
    (h : (agent.store.networks.get handle).RewritesTo agent.settings changed) :
    agent.RewritesTo (agent.setNetwork handle changed agent.store.fragments) where
  settings := rfl
  store := rfl
  networks other := by
    show (agent.store.networks.get other).RewritesTo agent.settings
      ((agent.store.networks.set handle changed).get other)
    rcases agent.store.networks.get_set_eq_or handle other changed with ⟨rfl, hg⟩ | hg
    · rw [hg]
      exact h
    · rw [hg]
      exact .refl _ _

/-- A call that rewrites or resolves touches nothing but the networks, which it rewrites, and the
journal. -/
theorem perform_rewritesTo (hr : agent.IsReady view) {call : Call}
    (hc : call.RewritesOrResolves agent.store view) : agent.RewritesTo (agent.perform call).2 := by
  cases call with
  | discoverBridge handle host =>
    obtain ⟨hv, hd⟩ := hr.network hc.1
    obtain ⟨info, changed, he, hn⟩ :=
      Network.discoverBridge_rewritesTo hr.settings hv hd hc.2 hr.fragments
    have hagent : (agent.perform (.discoverBridge handle host)).2 =
        agent.setNetwork handle changed agent.store.fragments := by
      simp only [perform, discoverBridge, he, Prod.map, id]
    rw [hagent]
    exact rewritesTo_setNetwork hn
  | substituteConfig handle host =>
    obtain ⟨files, changed, he, hn⟩ :=
      Network.substituteConfig_rewritesTo hr.settings (hr.network hc.1).1 hc.2 hr.fragments
    have hagent : (agent.perform (.substituteConfig handle host)).2 =
        agent.setNetwork handle changed agent.store.fragments := by
      simp only [perform, substituteConfig, he, Prod.map, id]
    rw [hagent]
    exact rewritesTo_setNetwork hn
  | resolve resolved => exact .of_eq rfl rfl
  | _ => exact absurd hc id

/-- A run of calls that rewrite or resolve touches nothing but the networks, which it rewrites, and
the journal. -/
theorem run_rewritesTo {calls : List Call} (hr : agent.IsReady view)
    (hc : ∀ call ∈ calls, call.RewritesOrResolves agent.store view) :
    agent.RewritesTo (agent.run calls).2 := by
  induction calls generalizing agent with
  | nil => exact .of_eq rfl rfl
  | cons call rest ih =>
    have hstep := perform_rewritesTo hr (hc call List.mem_cons_self)
    -- The rest of the run starts from an agent that is ready again.
    refine hstep.trans (ih (hr.of_rewritesTo hstep) fun other ho => ?_)
    -- Which networks the view has does not change, so what is allowed does not.
    have hallowed := hc other (List.mem_cons_of_mem _ ho)
    rw [hstep.store]
    exact hallowed

/-- Substitution never disturbs resolution. In a run of calls that rewrite or resolve, the snapshot
is at every moment a rewritten form of the first one. Each resolution on the way gives the
candidates, and with them the outcome, the network service and the routers that the first snapshot
has, and those networks, as they are by then, that stand where the local networks of the first
snapshot stand. -/
theorem run_rewritesTo_and_resolves (hr : agent.IsReady view) {calls : List Call}
    (hc : ∀ call ∈ calls, call.RewritesOrResolves agent.store view) (i : ℕ) :
    let initial := agent.store.snapshot view
    let current := (agent.run (calls.take i)).2.store.snapshot view
    initial.RewritesTo agent.settings current ∧
      (calls[i]? = some (.resolve view) →
        (agent.run calls).1[i]? = some (.resolution
          { initial.resolution agent.settings with
            networks :=
              (initial.localPositions agent.settings).filterMap (current.networks[·]?) })) := by
  intro initial current
  have hrun : agent.RewritesTo (agent.run (calls.take i)).2 :=
    run_rewritesTo hr fun call hm => hc call (List.mem_of_mem_take hm)
  have hsnapshot : initial.RewritesTo agent.settings current := hrun.snapshot hr.fragments view
  refine ⟨hsnapshot, fun hi => ?_⟩
  have hresolve := Snapshot.resolve_of_rewritesTo hr.settings hr.snapshot hsnapshot
  rw [getElem?_run, hi]
  simp only [Option.map_some, perform, resolve, Prod.map, hrun.settings]
  rw [hresolve]
  rfl

end Agent

/-- A snapshot with one network, which is local to the host: a container of the network service is
its router. The network has references to a label that is a reference itself, in a configuration
file, in a list inside that file, and beside the configuration files. -/
def Snapshot.circulating : Snapshot where
  networks :=
    [{ uuid := .text "net"
       environmentUuid := .text "env"
       metadata := .mapping
         [("cniConfig", .mapping [("10-bridge.conf", .mapping
             [("bridge", .text "__host_label__: first"),
               ("routes", .sequence [.text "__host_label__: first"])])]),
           ("note", .text "__host_label__: first")] }]
  host :=
    { uuid := .text "host"
      environmentUuid := .text "env"
      labels := .mapping
        [("first", .text "__host_label__: second"), ("second", .text "br-lab")] }
  services :=
    [{ uuid := .text "driver"
       stackUuid := .text "stack"
       kind := .text "networkDriverService" },
     { uuid := .text "service"
       stackUuid := .text "stack"
       name := .text "router"
       primaryServiceName := .text "router"
       members := .list [.container
         { uuid := .text "container", hostUuid := .text "host", networkUuid := .text "net" }] }]

/-- A discovery and a substitution, with a resolution before and after each. -/
def Call.circulating (view : View) (host : Host) : List Call :=
  [.resolve view, .discoverBridge ⟨0⟩ host, .resolve view, .substituteConfig ⟨0⟩ host,
    .resolve view]

/-- The last resolution of these calls finds the one driver and the router of the one network. -/
theorem Agent.resolves_circulating :
    let added := Store.addSnapshot {} Snapshot.circulating
    let agent : Agent := { store := added.2 }
    ∃ found, (agent.run (Call.circulating added.1 Snapshot.circulating.host)).1[4]? =
        some (.resolution found) ∧
      found.outcome = .ok ∧ found.service.uuid = .text "service" ∧
      Table.mapValues Container.uuid found.routers = [(.text "net", .text "container")] ∧
      found.networks.length = 1 := by
  intro added agent
  have hs : Record.isValid ({} : Settings) = true := by decide
  have hv : Snapshot.circulating.isValid = true := by decide
  have hd : ∀ network ∈ Snapshot.circulating.networks, network.HasDistinctFiles {} := by
    intro network hm files hfiles
    rw [List.mem_singleton.mp hm] at hfiles
    cases hfiles
    decide
  have hready : agent.IsReady added.1 := isReady_addSnapshot hs hv hd
  have hc : ∀ call ∈ Call.circulating added.1 Snapshot.circulating.host,
      call.RewritesOrResolves agent.store added.1 := by
    intro call hm
    simp only [Call.circulating, List.mem_cons, List.not_mem_nil, or_false] at hm
    rcases hm with rfl | rfl | rfl | rfl | rfl
    · rfl
    · exact ⟨List.mem_singleton.mpr rfl, by decide⟩
    · rfl
    · exact ⟨List.mem_singleton.mpr rfl, by decide⟩
    · rfl
  have hshown : agent.store.snapshot added.1 = Snapshot.circulating :=
    (Store.snapshot_addSnapshot (show ({} : Store).fragments.size = 0 from rfl) hv).1
  obtain ⟨hsnapshot, hreply⟩ := run_rewritesTo_and_resolves hready hc 4
  rw [hshown] at hsnapshot hreply
  refine ⟨_, hreply rfl, rfl, rfl, rfl, ?_⟩
  -- The one network is local, and there is still one network by then.
  have hlocal : Snapshot.circulating.localPositions agent.settings = [0] := rfl
  have hlength := hsnapshot.networks.length_eq
  obtain ⟨network, hnetwork⟩ := List.length_eq_one_iff.mp (hlength.symm.trans rfl)
  simp only [hlocal, hnetwork, List.filterMap_cons, List.getElem?_cons_zero, List.filterMap_nil,
    List.length_cons, List.length_nil]

end HostOverlay
