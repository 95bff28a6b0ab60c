import HostOverlay.Proofs.Journal.Calls

/-!
# The journal after a run

Each call of a run takes a journal that agrees with the resolutions completed so far to one that
agrees with those completed by then, whatever else the call does to the networks, the clients and
the records. So the journal after a run agrees with the resolutions that the run completed, and
those that failed in a fetch left nothing in it (`run_agreesWith`).
-/

namespace HostOverlay.Agent

open Schema

/-- The resolutions that a run completes, oldest first. -/
def completed (agent : Agent) : List Call → List Resolution
  | [] => []
  | call :: rest => (agent.completes? call).toList ++ (agent.perform call).2.completed rest

variable {agent : Agent} {calls : List Call}

/-- The reply to a call that completes a resolution is this resolution, as far as it is asked for. -/
theorem perform_of_completes?_eq_some {call : Call} {found : Resolution}
    (h : agent.completes? call = some found) : (agent.perform call).1 = call.replyWith found := by
  have hok (answer : Except Failure Resolution) (ha : answer.toOption = some found) :
      answer = .ok found := by
    cases answer with
    | ok other => rw [Option.some.inj ha]
    | error failure => simp [Except.toOption] at ha
  cases call with
  | resolve view | locals view =>
    rw [perform, Prod.map, hok _ h]
    rfl
  | resolveFrom client | localsFrom client =>
    rw [perform, Prod.map, hok _ h]
    rfl
  | _ => simp [completes?] at h

/-- A journal that agrees with the resolutions completed before a run agrees after the run with
those and the ones that the run completes. -/
theorem agreesWith_append_completed {completed : List Resolution} (hs : Record.isValid agent.settings = true)
    (hf : agent.store.fragments.size = 0) (hc : ∀ call ∈ calls, call.Fits agent)
    (hj : agent.journal.AgreesWith completed) :
    (agent.run calls).2.journal.AgreesWith (completed ++ agent.completed calls) := by
  induction calls generalizing agent completed with
  | nil =>
    rw [Agent.completed, List.append_nil]
    exact hj
  | cons call rest ih =>
    have hcall := hc call List.mem_cons_self
    have hstep := perform_advances hs hf hcall
    -- The rest of the run starts from an agent with valid settings and no fragments again.
    have hs' : Record.isValid (agent.perform call).2.settings = true := by rwa [hstep.settings]
    have hf' : (agent.perform call).2.store.fragments.size = 0 := by rw [hstep.store, hf]
    have hc' : ∀ other ∈ rest, other.Fits (agent.perform call).2 := fun other ho =>
      fits_perform hs hf hcall (hc other (List.mem_cons_of_mem _ ho))
    rw [Agent.completed, ← List.append_assoc]
    exact ih hs' hf' hc' (hj.advance hstep.journal)

/-- After a run from an empty journal, the journal agrees with the resolutions that the run
completed. Take any call on the way. If it completes a resolution, the reply is this resolution. If
it asks a client for a snapshot and a fetch fails, the reply is the failure of the first that does,
and the journal stays as it is. -/
theorem run_agreesWith (hs : Record.isValid agent.settings = true)
    (hf : agent.store.fragments.size = 0) (hj : agent.journal = {})
    (hc : ∀ call ∈ calls, call.Fits agent) :
    (agent.run calls).2.journal.AgreesWith (agent.completed calls) ∧
    ∀ i call, calls[i]? = some call →
      let current := (agent.run (calls.take i)).2
      (∀ found, current.completes? call = some found →
        (agent.run calls).1[i]? = some (call.replyWith found)) ∧
      (∀ handle failure, call.source? = some handle →
        (agent.clients.get handle).obstruction? = some failure →
        (agent.run calls).1[i]? = some (.failed failure) ∧
          (agent.run (calls.take (i + 1))).2.journal = current.journal) := by
  have hempty : agent.journal.AgreesWith [] := hj ▸ Journal.agreesWith_nil
  refine ⟨agreesWith_append_completed hs hf hc hempty, ?_⟩
  intro i call hi current
  have hreply : (agent.run calls).1[i]? = some (current.perform call).1 := by
    rw [getElem?_run, hi]
    rfl
  refine ⟨fun found hfound => ?_, fun handle failure hsource ho => ?_⟩
  · rw [hreply, perform_of_completes?_eq_some hfound]
  · have hcall : call.Fits agent := hc call (List.mem_of_getElem? hi)
    have hholds : agent.clients.Holds handle := by
      cases call with
      | resolveFrom asked | localsFrom asked => exact Option.some.inj hsource ▸ hcall.1
      | _ => simp [Call.source?] at hsource
    -- Up to this call, nothing happened to which fetches of the client fail.
    have hobstruction : (current.clients.get handle).obstruction? = some failure := by
      rw [get_clients_run hholds, Client.obstruction?_recording, ho]
    rw [hreply, run_take_succ agent hi, perform_of_obstruction?_eq_some hsource hobstruction]
    exact ⟨rfl, rfl⟩

/-- An agent that has a network and its router, with a client that gives no services. -/
def chronicled : Agent where
  store := (Store.addSnapshot {}
    { networks :=
        [{ uuid := .text "net"
           environmentUuid := .text "env"
           metadata := .mapping [("cniConfig", .mapping [("10-bridge.conf", .mapping [])])] }]
      host := { uuid := .text "host", environmentUuid := .text "env" }
      services :=
        [{ uuid := .text "driver"
           stackUuid := .text "stack"
           kind := .text "networkDriverService" },
         { uuid := .text "service"
           stackUuid := .text "stack"
           name := .text "router"
           primaryServiceName := .text "router"
           members := .list [.container
             { uuid := .text "container"
               hostUuid := .text "host"
               networkUuid := .text "net" }] }] }).2
  clients := ⟨[{ view := ⟨⟨0⟩, ⟨0⟩, ⟨0⟩⟩, errors := [("get_services", .timeout "late")] },
    { view := ⟨⟨0⟩, ⟨0⟩, ⟨0⟩⟩ }]⟩

/-- Of four resolutions, one fails in a fetch and one finds no driver, as there are no services in
its view. The others find one driver and the network, after a substitution as well as before. -/
theorem run_chronicled :
    let view : View := ⟨⟨0⟩, ⟨0⟩, ⟨0⟩⟩
    let calls : List Call :=
      [.resolve view, .localsFrom ⟨0⟩, .inspect (.ok []) "br" "10.0.0.0/8",
        .locals { view with services := ⟨1⟩ }, .substituteMetadata ⟨0⟩ {}, .select ⟨0⟩,
        .discoverBridge ⟨1⟩ {}, .resolveFrom ⟨1⟩]
    let journal := (chronicled.run calls).2.journal
    Table.get? journal.resolutions .ok = some 2 ∧
      Table.get? journal.resolutions .noDriverService = some 1 ∧
      Table.get? journal.resolutions .multipleDriverServices = none ∧
      journal.localNetworks = 1 ∧
      journal.records.filter Event.isComplaint = [.driverCountWrong 0] ∧
      (chronicled.run calls).1[1]? = some (.failed (.timeout "late")) := by
  intro view calls journal
  have hs : Record.isValid chronicled.settings = true := by decide
  have hc : ∀ call ∈ calls, call.Fits chronicled := by
    intro call hm
    simp only [calls, List.mem_cons, List.not_mem_nil, or_false] at hm
    rcases hm with rfl | rfl | rfl | rfl | rfl | rfl | rfl | rfl
    · show (chronicled.store.snapshot view).isValid = true
      decide
    · exact ⟨by decide, by decide⟩
    · trivial
    · show (chronicled.store.snapshot { view with services := ⟨1⟩ }).isValid = true
      decide
    · exact ⟨by decide, by decide⟩
    · trivial
    · exact ⟨by decide, by decide⟩
    · exact ⟨by decide, by decide⟩
  obtain ⟨hagrees, hcalls⟩ := run_agreesWith hs (by decide) rfl hc
  obtain ⟨-, hfails⟩ := hcalls 1 _ rfl
  -- What is left is about the resolutions that these calls complete.
  let found := chronicled.completed calls
  have hok : Journal.occurrences found .ok = 2 := by decide +kernel
  have hnone : Journal.occurrences found .noDriverService = 1 := by decide +kernel
  have hseveral : Journal.occurrences found .multipleDriverServices = 0 := by decide +kernel
  have hlast : (found.getLast?.map fun resolution => resolution.networks.length) = some 1 := by
    decide +kernel
  have hbad : ((found.filter fun resolution => resolution.outcome ≠ .ok).map
      fun resolution => resolution.candidates.length) = [0] := by
    decide +kernel
  refine ⟨?_, ?_, ?_, ?_, ?_, (hfails ⟨0⟩ _ rfl rfl).1⟩
  · rw [hagrees.resolutions, hok]
    rfl
  · rw [hagrees.resolutions, hnone]
    rfl
  · rw [hagrees.resolutions, hseveral]
    rfl
  · rw [hagrees.localNetworks, hlast]
    rfl
  · rw [hagrees.complaints]
    exact List.map_map.symm.trans (congrArg (List.map Event.driverCountWrong) hbad)

end HostOverlay.Agent
