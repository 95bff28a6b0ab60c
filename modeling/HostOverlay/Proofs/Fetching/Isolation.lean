import HostOverlay.Proofs.Fetching.Capture
import HostOverlay.Proofs.Store

/-!
# Clients and what happens around them

A client answers from the objects that it captured when it was made. Callers may go on with the
lists that they made it of, with the lists that it hands out to them and with another host, and none
of this reaches the client: the lists that callers know of are never its own
(`captures_run_take`). The objects are shared, though. What is written into one of them stands
wherever the capture refers to it (`Capture.contents_apply`), and a resolution from the client is the
resolution of what the objects hold at that moment (`Captures.perform_eq`). `openClient_isolates`
puts this together for runs of any calls.
-/

namespace HostOverlay

open Schema

/-- Whether a change from outside is made by a caller who knows the objects, the lists that a store
had at the start, and the lists that were handed out since. -/
def Edit.IsInReach (start : Store) (replies : List Reply) : Edit → Prop
  | .setNetworkRoster roster _ =>
    start.networkRosters.Holds roster ∨ .fetched (.networks roster) ∈ replies
  | .setServiceRoster roster _ =>
    start.serviceRosters.Holds roster ∨ .fetched (.services roster) ∈ replies
  | _ => True

/-- Whether a change from outside is made to an object that is there. The labels of a host have to be
texts, as they are declared. -/
def Edit.Overwrites (store : Store) : Edit → Prop
  | .setHost handle host =>
    store.hosts.Holds handle ∧ (Shape.dictionary .text).fits host.labels = true
  | .setNetwork handle _ => store.networks.Holds handle
  | .setService handle _ => store.services.Holds handle
  | _ => False

namespace Capture

/-- What the captured objects make up after a change of one object from outside, told by what they
make up before: what is written stands in the place of the object. -/
def contentsAfter (capture : Capture) (store : Store) : Edit → Snapshot
  | .setHost handle host =>
    { capture.contents store with
      host := if capture.host = handle then host else store.readHost capture.host }
  | .setNetwork handle network =>
    { capture.contents store with
      networks := capture.networks.map fun captured =>
        if captured = handle then
          { network with metadata := store.fragments.plain network.metadata }
        else store.readNetwork captured }
  | .setService handle service =>
    { capture.contents store with
      services := capture.services.map fun captured =>
        if captured = handle then service else store.services.get captured }
  | _ => capture.contents store

end Capture

/-- An object reads as it was written, and the others as before. -/
theorem Pool.get_set {α : Type} [Inhabited α] {pool : Pool α} {handle : Handle α}
    (h : pool.Holds handle) (object : α) (other : Handle α) :
    (pool.set handle object).get other = if other = handle then object else pool.get other := by
  by_cases ho : other = handle
  · rw [if_pos ho, ho]
    exact get_set_self h object
  · rw [if_neg ho]
    exact get_set_of_ne pool ho object

namespace Store

/-- Labels that are texts are held as they are, and read as they are. -/
theorem adoptLabels_of_fits (fragments : Fragments) {labels : Tree}
    (h : (Shape.dictionary .text).fits labels = true) :
    fragments.adoptLabels labels = (labels, fragments) ∧ fragments.plain labels = labels := by
  obtain ⟨entries, rfl, hfits⟩ := Shape.fits_dictionary_iff.mp h
  have htext : ∀ label ∈ entries, ∃ text, label.2 = .text text :=
    fun label hm => Shape.fits_text_iff.mp (hfits label hm)
  refine ⟨?_, Fragments.plain_of_isPlain fragments ?_⟩
  · rw [Fragments.adoptLabels, Fragments.adoptEntries_of_texts fragments htext]
  · rw [Tree.isPlain]
    clear h hfits
    induction entries with
    | nil => rfl
    | cons label rest ih =>
      obtain ⟨name, value⟩ := label
      obtain ⟨text, rfl⟩ := htext (name, value) List.mem_cons_self
      rw [Tree.areEntriesPlain, Tree.isPlain, Bool.true_and]
      exact ih fun other ho => htext other (List.mem_cons_of_mem _ ho)

end Store

/-- What is written into an object shows wherever a capture refers to it, and nowhere else. -/
theorem Capture.contents_apply (capture : Capture) {store : Store} {edit : Edit}
    (h : edit.Overwrites store) :
    capture.contents (store.apply edit) = capture.contentsAfter store edit := by
  cases edit with
  | setHost handle host =>
    obtain ⟨hholds, hlabels⟩ := h
    obtain ⟨hadopt, hplain⟩ := Store.adoptLabels_of_fits store.fragments hlabels
    have hread : (store.setHost handle host).readHost capture.host =
        if capture.host = handle then host else store.readHost capture.host := by
      rw [Store.setHost, hadopt]
      simp only [Store.readHost, Pool.get_set hholds]
      split
      · rw [hplain]
      · rfl
    have hrest : (store.setHost handle host).readNetwork = store.readNetwork := by
      rw [Store.setHost, hadopt]
      rfl
    rw [Store.apply, contents, hread, hrest]
    rfl
  | setNetwork handle network =>
    have hread (captured : Handle Network) :
        (store.setNetwork handle network).readNetwork captured =
          if captured = handle then
            { network with metadata := store.fragments.plain network.metadata }
          else store.readNetwork captured := by
      simp only [Store.readNetwork, Store.setNetwork, Pool.get_set h]
      split <;> rfl
    rw [Store.apply, contents, funext hread]
    rfl
  | setService handle service =>
    have hread := funext (Pool.get_set h service)
    rw [Store.apply, contents, Store.setService]
    simp only [hread]
    rfl
  | _ => exact absurd h id

namespace Agent

variable {agent opened : Agent} {client : Handle Client} {view : View} {capture : Capture}
  {call : Call} {calls : List Call}

/-- A fetch of a client that has a capture hands out what is captured. -/
theorem Captures.fetch (h : agent.Captures client view capture) {fetch : Fetch}
    (hf : (agent.clients.get client).failure? fetch = none) :
    ∃ fetched, (agent.perform (.fetch client fetch)).1 = .fetched fetched ∧
      capture.IsGiven (agent.perform (.fetch client fetch)).2.store fetch fetched := by
  simp only [Agent.perform, Prod.map, fetch_of_failure?_eq_none hf, h.view_eq]
  cases fetch with
  | networks => exact ⟨_, rfl, (Pool.get_add_fresh _ _).trans h.networks⟩
  | host => exact ⟨_, rfl, h.host⟩
  | services => exact ⟨_, rfl, (Pool.get_add_fresh _ _).trans h.services⟩

/-- A resolution from a client that has a capture is the resolution of what the captured objects hold
now. Before it, the identity of the host is reported, which the host must not lack. -/
theorem Captures.perform_eq (h : agent.Captures client view capture)
    (hc : call.source? = some client) (ho : (agent.clients.get client).obstruction? = none) :
    (agent.perform call).1 = .ofExcept (fun found => call.replyWith found)
      (match Record.lack? (capture.contents agent.store).host "uuid" with
        | some cause => .error (.misfit cause)
        | none => (capture.contents agent.store).resolve agent.settings) := by
  have hfrom : (agent.resolveFrom client).1 =
      match Record.lack? (capture.contents agent.store).host "uuid" with
        | some cause => .error (.misfit cause)
        | none => (capture.contents agent.store).resolve agent.settings := by
    rw [resolveFrom, Client.attemptAll_eq, ← Client.obstruction?, ho]
    simp only [Option.elim_none, Client.recording, h.view_eq, h.snapshot_eq, fetchedEvent,
      Record.read]
    cases Record.lack? (capture.contents agent.store).host "uuid" with
    | some cause => rfl
    | none =>
      simp only [Except.map]
      show (agent.store.snapshot view).resolve agent.settings = _
      rw [h.snapshot_eq]
  cases call with
  | resolveFrom asked | localsFrom asked =>
    obtain rfl : asked = client := Option.some.inj hc
    rw [← hfrom]
    rfl
  | _ => simp [Call.source?] at hc

/-- What a run replies comes from a call on the way. -/
theorem exists_perform_of_mem_replies {reply : Reply} (h : reply ∈ (agent.run calls).1) :
    ∃ i call, i < calls.length ∧ calls[i]? = some call ∧
      ((agent.run (calls.take i)).2.perform call).1 = reply := by
  obtain ⟨i, hi⟩ := List.getElem?_of_mem h
  rw [getElem?_run] at hi
  obtain ⟨call, hcall, hreply⟩ := Option.map_eq_some_iff.mp hi
  exact ⟨i, call, (List.getElem?_eq_some_iff.mp hcall).1, hcall, hreply⟩

/-- After each beginning of a run in which changes are made by a caller who knows the objects, older
lists and the lists handed out on the way, a client that captured something in new lists still has
it. -/
theorem captures_run_take {start : Store} (h : opened.Captures client view capture)
    (hn : ¬ start.networkRosters.Holds view.networks)
    (hs : ¬ start.serviceRosters.Holds view.services)
    (hc : ∀ (i : Nat) (edit : Edit), calls[i]? = some (.edit edit) →
      edit.IsInReach start (opened.run (calls.take i)).1) (i : Nat) :
    (opened.run (calls.take i)).2.Captures client view capture := by
  induction i using Nat.strongRecOn with
  | ind i ih =>
  cases i with
  | zero => exact h
  | succ i =>
    cases hi : calls[i]? with
    | none =>
      -- The run is over by then.
      rw [List.take_of_length_le (Nat.le_succ_of_le (List.getElem?_eq_none_iff.mp hi)),
        ← List.take_of_length_le (List.getElem?_eq_none_iff.mp hi)]
      exact ih i (Nat.lt_succ_self i)
    | some call =>
      have hcurrent := ih i (Nat.lt_succ_self i)
      rw [run_take_succ opened hi]
      refine hcurrent.perform ?_
      have hearlier {reply : Reply} (hm : reply ∈ (opened.run (calls.take i)).1) :
          ∃ before call, Captures before client view capture ∧ (before.perform call).1 = reply := by
        obtain ⟨j, earlier, hj, -, hreply⟩ := exists_perform_of_mem_replies hm
        rw [List.length_take, Nat.lt_min] at hj
        rw [List.take_take, Nat.min_eq_left (Nat.le_of_lt hj.1)] at hreply
        exact ⟨_, earlier, ih j (Nat.lt_succ_of_lt hj.1), hreply⟩
      -- A list that was handed out earlier was new at that moment, and the client's were there.
      have hnetworks (roster : Handle (Roster Network))
          (hm : Reply.fetched (.networks roster) ∈ (opened.run (calls.take i)).1) :
          roster ≠ view.networks := by
        obtain ⟨before, earlier, hbefore, hreply⟩ := hearlier hm
        rw [fetched_networks_fresh hreply]
        exact hbefore.shows.networks.ne_fresh
      have hservices (roster : Handle (Roster Service))
          (hm : Reply.fetched (.services roster) ∈ (opened.run (calls.take i)).1) :
          roster ≠ view.services := by
        obtain ⟨before, earlier, hbefore, hreply⟩ := hearlier hm
        rw [fetched_services_fresh hreply]
        exact hbefore.shows.services.ne_fresh
      cases call with
      | edit edit =>
        have hreach := hc i edit hi
        cases edit with
        | setNetworkRoster roster changed =>
          rcases hreach with hold | hgiven
          · exact fun he => hn (he ▸ hold)
          · exact hnetworks roster hgiven
        | setServiceRoster roster changed =>
          rcases hreach with hold | hgiven
          · exact fun he => hs (he ▸ hold)
          · exact hservices roster hgiven
        | _ => trivial
      | _ => trivial

/-- A client is isolated from what callers do with lists, and shares its objects with them. Take a
client that is made of lists and a host, and any run of calls after that, in which callers may change
every object, every list that was there before the client, and every list that is handed out to them,
and may go on with another host. At each call of the run: a fetch from the client hands out the
objects that the client was made of, in their order; a resolution from the client is the resolution of
what these objects hold at that moment, unless the host has no identity left to report; and what is
written into one of the objects is from then on what it holds. -/
theorem openClient_isolates {networks : Option (Handle (Roster Network))}
    {host : Option (Handle Host)} {services : Option (Handle (Roster Service))}
    {errors : Table String Failure}
    (ho : agent.openClient networks host services errors = (client, opened))
    (hc : ∀ (i : Nat) (edit : Edit), calls[i]? = some (.edit edit) →
      edit.IsInReach agent.store (opened.run (calls.take i)).1)
    {i : Nat} (hi : calls[i]? = some call) :
    let capture := agent.store.capture networks host services
    let before := (opened.run (calls.take i)).2
    let after := (opened.run (calls.take (i + 1))).2
    let contents := capture.contents before.store
    (∀ fetch, call = .fetch client fetch → (opened.clients.get client).failure? fetch = none →
      ∃ fetched, (opened.run calls).1[i]? = some (.fetched fetched) ∧
        capture.IsGiven after.store fetch fetched) ∧
    (call.source? = some client → (opened.clients.get client).obstruction? = none →
      (Record.lack? contents.host "uuid" = none →
        (opened.run calls).1[i]? = some (.ofExcept (fun found => call.replyWith found)
          (contents.resolve before.settings))) ∧
      ∀ cause, Record.lack? contents.host "uuid" = some cause →
        (opened.run calls).1[i]? = some (.failed (.misfit cause))) ∧
    (∀ edit, call = .edit edit → edit.Overwrites before.store →
      capture.contents after.store = capture.contentsAfter before.store edit) := by
  intro capture before after contents
  have hopened : opened.Captures client ⟨agent.store.networkRosters.fresh,
      host.getD agent.store.hosts.fresh, agent.store.serviceRosters.fresh⟩ capture := by
    have hmade := captures_openClient agent networks host services errors
    rwa [ho] at hmade
  have hbefore : before.Captures client _ capture :=
    captures_run_take hopened (Nat.lt_irrefl _) (Nat.lt_irrefl _) hc i
  have hafter : after = (before.perform call).2 := run_take_succ opened hi
  have hreply : (opened.run calls).1[i]? = some (before.perform call).1 := by
    rw [getElem?_run, hi]
    rfl
  -- Which fetches of the client fail does not change.
  have hclient : before.clients.get client = (opened.clients.get client).recording _ :=
    get_clients_run hopened.holds (calls.take i)
  refine ⟨?_, ?_, ?_⟩
  · rintro fetch rfl hf
    have hf' : (before.clients.get client).failure? fetch = none := by rwa [hclient]
    obtain ⟨fetched, hfetched, hgiven⟩ := hbefore.fetch hf'
    exact ⟨fetched, by rw [hreply, hfetched], by rw [hafter]; exact hgiven⟩
  · intro hsource hnone
    have hperform := hbefore.perform_eq hsource
      (by rw [hclient, Client.obstruction?_recording]; exact hnone)
    refine ⟨fun hlack => ?_, fun cause hlack => ?_⟩
    · rw [hreply, hperform, hlack]
    · rw [hreply, hperform, hlack]
      rfl
  · rintro edit rfl hwrites
    rw [hafter]
    exact capture.contents_apply hwrites

/-- An agent with a network, a driver, and a service beside the driver that has no containers. -/
def attachable : Agent where
  store := (Store.addSnapshot {}
    { networks :=
        [{ uuid := .text "net"
           environmentUuid := .text "env"
           metadata := .mapping [("cniConfig", .mapping [("10-bridge.conf", .mapping [])])] }]
      host := { uuid := .text "host", environmentUuid := .text "env" }
      services :=
        [{ uuid := .text "driver"
           stackUuid := .text "stack"
           kind := .text "networkDriverService" },
         { uuid := .text "service"
           stackUuid := .text "stack"
           name := .text "router"
           primaryServiceName := .text "router" }] }).2

/-- A client is made of the lists of this agent. The caller empties the list of networks that the
client hands out and the one that it was made of, takes the driver out of the list of services and
goes on with another host. Then the service gets a container. The client hands out the network all
the same, and finds one driver and the network whose router is the new container. -/
theorem openClient_isolates_emptied :
    let made := attachable.openClient (some ⟨0⟩) (some ⟨0⟩) (some ⟨0⟩) []
    let attached : Service :=
      { uuid := .text "service"
        stackUuid := .text "stack"
        name := .text "router"
        primaryServiceName := .text "router"
        members := .list [.container
          { uuid := .text "container", hostUuid := .text "host", networkUuid := .text "net" }] }
    let calls : List Call :=
      [.fetch made.1 .networks, .edit (.setNetworkRoster ⟨2⟩ []), .edit (.setNetworkRoster ⟨0⟩ []),
        .edit (.setServiceRoster ⟨0⟩ [⟨1⟩]), .edit (.addHost { uuid := .text "other" }),
        .edit (.setService ⟨1⟩ attached), .fetch made.1 .networks, .resolveFrom made.1]
    (∃ roster, (made.2.run calls).1[6]? = some (.fetched (.networks roster)) ∧
      (made.2.run (calls.take 7)).2.store.networkRosters.get roster = [⟨0⟩]) ∧
    ∃ found, (made.2.run calls).1[7]? = some (.resolution found) ∧ found.outcome = .ok ∧
      found.networks.map (fun network => network.uuid.textOrEmpty) = ["net"] := by
  intro made attached calls
  have hc : ∀ (i : Nat) (edit : Edit), calls[i]? = some (.edit edit) →
      edit.IsInReach attachable.store (made.2.run (calls.take i)).1 := by
    intro i edit hi
    rcases i with _ | _ | _ | _ | _ | _ | _ | _ | i <;> cases hi
    · exact Or.inr (List.mem_singleton.mpr rfl)
    · exact Or.inl (by decide)
    · exact Or.inl (by decide)
    · trivial
    · trivial
  have hfetch : calls[6]? = some (.fetch made.1 .networks) := rfl
  have hresolve : calls[7]? = some (.resolveFrom made.1) := rfl
  obtain ⟨hfetch, -, -⟩ := openClient_isolates (Prod.eta made).symm hc hfetch
  obtain ⟨-, hresolve, -⟩ := openClient_isolates (Prod.eta made).symm hc hresolve
  obtain ⟨fetched, hreply, hgiven⟩ := hfetch .networks rfl rfl
  obtain ⟨hresolve, -⟩ := hresolve rfl rfl
  let before := (made.2.run (calls.take 7)).2
  let capture := attachable.store.capture (some ⟨0⟩) (some ⟨0⟩) (some ⟨0⟩)
  have hs : Record.isValid before.settings = true := by decide +kernel
  have hv : (capture.contents before.store).isValid = true := by decide +kernel
  have hfound := hresolve (Record.lack?_eq_none (Snapshot.isValid_host hv) "uuid")
  rw [Snapshot.resolve_of_isValid hv hs] at hfound
  refine ⟨?_, _, hfound, by decide +kernel, by decide +kernel⟩
  cases fetched with
  | networks roster => exact ⟨roster, hreply, hgiven⟩
  | host host => exact absurd hgiven id
  | services roster => exact absurd hgiven id

end Agent

end HostOverlay
