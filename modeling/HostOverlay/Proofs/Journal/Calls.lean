import HostOverlay.Proofs.Fetching.Calls
import HostOverlay.Proofs.Journal.History
import HostOverlay.Proofs.Rewriting.Network
import HostOverlay.Proofs.Store

/-!
# What a call does to the journal

A call that works on valid objects either completes a resolution, which the journal takes in behind
reports that are no complaints, or adds such reports to the journal and nothing else. A resolution
that a fetch keeps from its snapshot is of the second kind and reports nothing. Around the journal,
a call changes at most what clients recorded and the metadata of a network, and a valid network
stays valid (`perform_advances`), so what works on valid objects does so after the call as well
(`fits_perform`).
-/

namespace HostOverlay

open Schema

namespace Network

variable {network : Network} {settings : Settings} {host : Host} {fragments : Fragments}

/-- A valid network is valid with other configuration files. -/
theorem isValid_withConfig (hs : Record.isValid settings = true)
    (hn : Record.isValid network = true) (config : Tree) :
    Record.isValid (network.withConfig settings config) = true := by
  obtain ⟨key, hk⟩ := Settings.cniConfigKey_of_isValid hs
  obtain ⟨entries, hm⟩ := metadata_of_isValid hn
  rw [withConfig_eq hk hm, isValid_congr_metadata network entries, ← hm]
  exact hn

/-- The discovery of a bridge leaves a valid network. -/
theorem discoverBridge_isValid (hs : Record.isValid settings = true)
    (hn : Record.isValid network = true) (hh : Record.isValid host = true)
    (hf : fragments.size = 0) :
    ∃ info changed, network.discoverBridge settings host fragments =
      (.ok info, changed, fragments) ∧ Record.isValid changed = true := by
  have hm := configMisfit?_eq_none hs hn
  cases hc : network.cniConfig? settings with
  | none => exact ⟨_, _, discoverBridge_of_cniConfig?_eq_none hm hf hc host, hn⟩
  | some files =>
    exact ⟨_, _, discoverBridge_of_cniConfig?_eq_some hm hf (Record.lack?_eq_none hs _) hc
      (Host.labelsMisfit?_of_isValid hh), isValid_withConfig hs hn _⟩

/-- The substitution of all configuration files leaves a valid network. -/
theorem substituteConfig_isValid (hs : Record.isValid settings = true)
    (hn : Record.isValid network = true) (hh : Record.isValid host = true)
    (hf : fragments.size = 0) :
    ∃ files changed, network.substituteConfig settings host fragments =
      (.ok files, changed, fragments) ∧ Record.isValid changed = true := by
  obtain ⟨files, changed, he, hr⟩ := substituteConfig_rewritesTo hs hn hh hf
  exact ⟨files, changed, he, hr.isValid hn⟩

/-- The substitution of all metadata leaves a valid network. -/
theorem substituteMetadata_isValid (hn : Record.isValid network = true)
    (hh : Record.isValid host = true) (hf : fragments.size = 0) :
    ∃ metadata changed, network.substituteMetadata host fragments =
      (.ok metadata, changed, fragments) ∧ Record.isValid changed = true := by
  obtain ⟨entries, hm⟩ := metadata_of_isValid hn
  have hpass : network.metadata.pass host 0 { fragments } =
      (network.metadata.substitute host, { fragments }) :=
    Tree.pass_eq (Host.labelsMisfit?_of_isValid hh) hf rfl 0 _
  refine ⟨network.metadata.substitute host,
    { network with metadata := network.metadata.substitute host }, ?_, ?_⟩
  · rw [substituteMetadata, Record.lack?_eq_none hn]
    simp only [hpass]
    rfl
  · rw [hm, Tree.substitute, isValid_congr_metadata network entries, ← hm]
    exact hn

end Network

/-- Whether a journal becomes another in a call that completes the given resolution or none. -/
inductive Journal.Advances (settings : Settings) (before : Journal) :
    Option Resolution → Journal → Prop
  /-- There are reports, and none of them is a complaint. -/
  | reports {events : List Event} (quiet : ∀ event ∈ events, event.isComplaint = false) :
    Advances settings before none (before.report events)
  /-- There are such reports, and then a resolution is taken in that is completed. -/
  | resolves {events : List Event} (quiet : ∀ event ∈ events, event.isComplaint = false)
      {snapshot : Snapshot} {found : Resolution} (resolves : snapshot.resolve settings = .ok found) :
    Advances settings before (some found) ((before.report events).enter settings snapshot)

/-- A journal may stay as it is. -/
theorem Journal.Advances.refl (settings : Settings) (journal : Journal) :
    Advances settings journal none journal := by
  have hempty : Advances settings journal none (journal.report []) := .reports (by simp)
  rwa [report_nil] at hempty

/-- A journal goes on to agree with the resolutions that were completed. -/
theorem Journal.AgreesWith.advance {settings : Settings} {before after : Journal}
    {completed : List Resolution} {found? : Option Resolution} (h : before.AgreesWith completed)
    (ha : Advances settings before found? after) : after.AgreesWith (completed ++ found?.toList) := by
  cases ha with
  | reports quiet =>
    rw [Option.toList_none, List.append_nil]
    exact h.report quiet
  | resolves quiet resolves => exact (h.report quiet).enter resolves

namespace Agent

/-- The resolution that a call completes. -/
def completes? (agent : Agent) : Call → Option Resolution
  | .resolve view | .locals view => (agent.resolve view).1.toOption
  | .resolveFrom client | .localsFrom client => (agent.resolveFrom client).1.toOption
  | _ => none

/-- Whether an agent becomes another in a call that completes the given resolution or none. What
clients recorded is left open. -/
structure Advances (before : Agent) (found? : Option Resolution) (after : Agent) : Prop where
  /-- The settings are the same. -/
  settings : after.settings = before.settings
  /-- The store is the same but for its networks. -/
  store : after.store = { before.store with networks := after.store.networks }
  /-- A valid network stays valid. -/
  networks : ∀ handle, Record.isValid (before.store.networks.get handle) = true →
    Record.isValid (after.store.networks.get handle) = true
  /-- The journal takes in the resolution. -/
  journal : Journal.Advances before.settings before.journal found? after.journal

end Agent

/-- Whether a call works on valid objects: it resolves a valid snapshot, which a client may hold, or
it discovers the bridge of a valid network or substitutes in it, for a valid host. A choice of
candidates, a search for a network service and an inspection change no object, so there is nothing
to ask of them. -/
def Call.Fits (agent : Agent) : Call → Prop
  | .resolve view | .locals view => (agent.store.snapshot view).isValid = true
  | .resolveFrom client | .localsFrom client =>
    agent.clients.Holds client ∧
      (agent.store.snapshot (agent.clients.get client).view).isValid = true
  | .discoverBridge network host | .substituteConfig network host
  | .substituteMetadata network host =>
    Record.isValid (agent.store.networks.get network) = true ∧ Record.isValid host = true
  | .select _ | .findService .. | .inspect .. => True
  | _ => False

namespace Agent

variable {agent before after : Agent} {found? : Option Resolution} {call : Call}

/-- An agent advances if only its journal and what clients recorded change. -/
theorem Advances.of_journal (hs : after.settings = before.settings)
    (hst : after.store = before.store)
    (hj : Journal.Advances before.settings before.journal found? after.journal) :
    before.Advances found? after where
  settings := hs
  store := by rw [hst]
  networks handle h := by rwa [hst]
  journal := hj

/-- An agent advances if a network becomes a valid one and nothing happens to the fragments. -/
theorem advances_setNetwork {α : Type} (handle : Handle Network)
    {answer : Except Failure α × Network × Fragments}
    (h : ∃ a changed, answer = (.ok a, changed, agent.store.fragments) ∧
      Record.isValid changed = true) :
    agent.Advances none (agent.setNetwork handle answer.2.1 answer.2.2) := by
  obtain ⟨a, changed, rfl, hv⟩ := h
  refine ⟨rfl, rfl, fun other ho => ?_, .refl _ _⟩
  show Record.isValid ((agent.store.networks.set handle changed).get other) = true
  rcases agent.store.networks.get_set_eq_or handle other changed with ⟨rfl, hg⟩ | hg
  · rwa [hg]
  · rwa [hg]

/-- The choice of the candidates adds reports that are no complaints. -/
theorem advances_select (agent : Agent) (services : Handle (Roster Service)) :
    agent.Advances none (agent.select services).2 := by
  rw [snd_select]
  refine .of_journal rfl rfl (.reports fun event hm => ?_)
  split at hm
  · exact Journal.isComplaint_of_mem_selectionEvents hm
  · simp at hm

/-- The search for a network service changes nothing. -/
theorem advances_findService (agent : Agent) (driver : Handle Service)
    (services : Handle (Roster Service)) :
    agent.Advances none (agent.findService driver services).2 := by
  rw [snd_findService]
  exact .of_journal rfl rfl (.refl _ _)

section

variable (hs : Record.isValid agent.settings = true)
include hs

/-- The resolution of a valid snapshot is completed, behind whatever was reported before it. -/
theorem advances_resolve {view : View} (hv : (agent.store.snapshot view).isValid = true)
    (events : List Event) (quiet : ∀ event ∈ events, event.isComplaint = false) :
    agent.Advances ((agent.report events).resolve view).1.toOption
      ((agent.report events).resolve view).2 := by
  have hresolve := Snapshot.resolve_of_isValid hv hs
  have hfound : ((agent.report events).resolve view).1 = .ok _ := hresolve
  rw [hfound]
  exact .of_journal rfl rfl (.resolves quiet hresolve)

/-- The resolution of a valid snapshot from a client is completed, unless a fetch fails: then the
journal stays as it is. -/
theorem advances_resolveFrom {client : Handle Client}
    (hv : (agent.store.snapshot (agent.clients.get client).view).isValid = true) :
    agent.Advances (agent.resolveFrom client).1.toOption (agent.resolveFrom client).2 := by
  cases ho : (agent.clients.get client).obstruction? with
  | some failure =>
    rw [resolveFrom_of_obstruction?_eq_some ho]
    exact .of_journal rfl rfl (.refl _ _)
  | none =>
    rw [resolveFrom_of_obstruction?_eq_none ho (fetchedEvent_of_isValid hv)]
    -- The client has recorded the fetches by now, which is no part of what advances.
    let recorded := agent.recording client (agent.clients.get client).fetchesForResolution
    have hs' : Record.isValid recorded.settings = true := hs
    have hv' : (recorded.store.snapshot (agent.clients.get client).view).isValid = true := hv
    have hresolved := advances_resolve hs' hv'
      [(agent.store.snapshot (agent.clients.get client).view).fetchedReport]
      fun event hm => by rw [List.mem_singleton.mp hm]; rfl
    exact ⟨hresolved.settings, hresolved.store, hresolved.networks, hresolved.journal⟩

/-- A call that works on valid objects completes a resolution, or reports what is no complaint. -/
theorem perform_advances (hf : agent.store.fragments.size = 0) (hc : call.Fits agent) :
    agent.Advances (agent.completes? call) (agent.perform call).2 := by
  cases call with
  | resolve view | locals view =>
    have hresolved := advances_resolve hs hc [] (by simp)
    rw [report_nil] at hresolved
    exact hresolved
  | resolveFrom client | localsFrom client => exact advances_resolveFrom hs hc.2
  | select services => exact advances_select agent services
  | findService driver services => exact advances_findService agent driver services
  | inspect listing interface subnet =>
    exact .of_journal rfl rfl
      (.reports fun event hm => Journal.isComplaint_of_mem_inspectionEvents hm)
  | discoverBridge handle host =>
    exact advances_setNetwork handle (Network.discoverBridge_isValid hs hc.1 hc.2 hf)
  | substituteConfig handle host =>
    exact advances_setNetwork handle (Network.substituteConfig_isValid hs hc.1 hc.2 hf)
  | substituteMetadata handle host =>
    exact advances_setNetwork handle (Network.substituteMetadata_isValid hc.1 hc.2 hf)
  | _ => exact absurd hc id

end

/-- A valid snapshot stays valid. -/
theorem Advances.isValid_snapshot (h : before.Advances found? after)
    (hf : before.store.fragments.size = 0) {view : View}
    (hv : (before.store.snapshot view).isValid = true) :
    (after.store.snapshot view).isValid = true := by
  have hf' : after.store.fragments.size = 0 := by rw [h.store, hf]
  simp only [Snapshot.isValid, Bool.and_eq_true, List.all_eq_true] at hv ⊢
  obtain ⟨⟨hnetworks, hhost⟩, hservices⟩ := hv
  refine ⟨⟨fun network hm => ?_, ?_⟩, ?_⟩
  · -- The roster is the same, and each of its networks was valid before.
    obtain ⟨handle, hh, rfl⟩ := List.mem_map.mp hm
    rw [Store.readNetwork_eq hf']
    refine h.networks handle ?_
    rw [← Store.readNetwork_eq hf]
    rw [h.store] at hh
    exact hnetworks _ (List.mem_map_of_mem hh)
  · rw [h.store]
    exact hhost
  · rw [h.store]
    exact hservices

/-- What works on valid objects does so after a call that does so as well. -/
theorem fits_perform (hs : Record.isValid agent.settings = true)
    (hf : agent.store.fragments.size = 0) (hc : call.Fits agent) {other : Call}
    (ho : other.Fits agent) : other.Fits (agent.perform call).2 := by
  have hstep := perform_advances hs hf hc
  cases other with
  | resolve view | locals view => exact hstep.isValid_snapshot hf ho
  | resolveFrom client | localsFrom client =>
    -- The call may have asked this very client, which still holds the same view.
    refine ⟨holds_perform ho.1 call, ?_⟩
    rw [get_clients_perform ho.1]
    exact hstep.isValid_snapshot hf ho.2
  | discoverBridge network host | substituteConfig network host
  | substituteMetadata network host => exact ⟨hstep.networks network ho.1, ho.2⟩
  | _ => exact ho

end Agent

end HostOverlay
