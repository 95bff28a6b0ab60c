import HostOverlay.Agent.Run
import HostOverlay.Proofs.Fetching.Client
import HostOverlay.Topology.Validity

/-!
# What a run asks of its clients

Every call leaves each client as it is, but for the fetches that it records: the one that the call
asks for, or those that a resolution asks for, if it is this client that they are asked of
(`get_clients_perform`). What a client holds and which of its fetches fail never changes, so the
fetches that a whole run records are those of its calls, one after the other (`get_clients_run`). A
call that asks a client for a snapshot to resolve either fails with a failure of the client and
changes nothing but what the client recorded, or resolves that snapshot behind a report that it was
fetched.
-/

namespace HostOverlay

open Schema

namespace Pool

variable {α : Type} {pool : Pool α} {handle : Handle α}

instance : Decidable (pool.Holds handle) :=
  inferInstanceAs (Decidable (handle.index < pool.objects.length))

/-- A handle has its object after an object is changed. -/
theorem Holds.set (h : pool.Holds handle) (other : Handle α) (object : α) :
    (pool.set other object).Holds handle := by
  simpa [Holds, Pool.set] using h

/-- A handle has its object after an object is added. -/
theorem Holds.add (h : pool.Holds handle) (object : α) : (pool.add object).Holds handle := by
  simp only [Holds, Pool.add, List.length_append] at h ⊢
  omega

end Pool

namespace Call

/-- The client that is asked for a snapshot to resolve. -/
def source? : Call → Option (Handle Client)
  | resolveFrom client | localsFrom client => some client
  | _ => none

/-- The reply of a call that resolved a snapshot. -/
def replyWith (found : Resolution) : Call → Reply
  | locals _ | localsFrom _ => .ofLocals found
  | _ => .resolution found

/-- The fetches that a call asks of the client under a handle. -/
def fetchesFrom (handle : Handle Client) (client : Client) : Call → List Fetch
  | fetch asked wanted => if asked = handle then [wanted] else []
  | resolveFrom asked | localsFrom asked =>
    if asked = handle then client.fetchesForResolution else []
  | _ => []

end Call

/-- What is reported once a snapshot is fetched. -/
def Snapshot.fetchedReport (snapshot : Snapshot) : Event :=
  .snapshotFetched snapshot.networks.length snapshot.services.length snapshot.host.uuid

namespace Agent

/-- The agent after fetches were asked of a client. -/
def recording (agent : Agent) (handle : Handle Client) (fetches : List Fetch) : Agent :=
  { agent with
    clients := agent.clients.set handle ((agent.clients.get handle).recording fetches) }

variable {agent : Agent} {handle : Handle Client}

/-- Recording fetches of one client leaves the others alone. -/
theorem get_clients_recording (h : agent.clients.Holds handle) (asked : Handle Client)
    (fetches : List Fetch) :
    (agent.recording asked fetches).clients.get handle =
      (agent.clients.get handle).recording (if asked = handle then fetches else []) := by
  by_cases ha : asked = handle
  · rw [if_pos ha, ha]
    exact Pool.get_set_self h _
  · rw [if_neg ha, Client.recording_nil]
    exact Pool.get_set_of_ne _ (Ne.symm ha) _

/-- A resolution that a fetch keeps from its snapshot fails as that fetch does, and all that changes
is what the client recorded. -/
theorem resolveFrom_of_obstruction?_eq_some {failure : Failure}
    (h : (agent.clients.get handle).obstruction? = some failure) :
    agent.resolveFrom handle = (.error failure,
      agent.recording handle (agent.clients.get handle).fetchesForResolution) := by
  rw [resolveFrom, Client.attemptAll_eq, ← Client.obstruction?, h]
  rfl

/-- A resolution that gets its snapshot reports that, and resolves it. -/
theorem resolveFrom_of_obstruction?_eq_none
    (h : (agent.clients.get handle).obstruction? = none) {event : Event}
    (he : fetchedEvent (agent.store.snapshot (agent.clients.get handle).view) = .ok event) :
    agent.resolveFrom handle =
      ((agent.recording handle (agent.clients.get handle).fetchesForResolution).report
        [event]).resolve (agent.clients.get handle).view := by
  rw [resolveFrom, Client.attemptAll_eq, ← Client.obstruction?, h]
  simp only [Option.elim_none, Client.recording, he]
  rfl

/-- A resolution from a client records the fetches that it asks for. -/
theorem clients_resolveFrom (agent : Agent) (asked : Handle Client) :
    (agent.resolveFrom asked).2.clients =
      (agent.recording asked (agent.clients.get asked).fetchesForResolution).clients := by
  rw [resolveFrom, Client.attemptAll_eq, ← Client.obstruction?]
  cases (agent.clients.get asked).obstruction? with
  | some failure => rfl
  | none =>
    simp only [Option.elim_none]
    split <;> rfl

/-- A fetch is recorded, whether it fails or not. -/
theorem clients_fetch (agent : Agent) (asked : Handle Client) (fetch : Fetch) :
    (agent.fetch asked fetch).2.clients = (agent.recording asked [fetch]).clients := by
  rw [Agent.fetch, Client.attempt]
  cases (agent.clients.get asked).failure? fetch with
  | some failure => rfl
  | none => cases fetch <;> rfl

/-- The choice of the candidates changes nothing but for what it reports. -/
theorem snd_select (agent : Agent) (services : Handle (Roster Service)) :
    (agent.select services).2 =
      let services := agent.store.servicesOf services
      agent.report
        (if Stage.drivers.isPassed (selectionObstacle? agent.settings services) then
          selectionEvents agent.settings services
        else []) := by
  have hreport (passed : Bool) (events : List Event) :
      (if passed then agent.report events else agent) =
        agent.report (if passed then events else []) := by
    cases passed with
    | true => rfl
    | false => simp
  simp only [select, hreport]
  split <;> rfl

/-- The search for a network service changes nothing. -/
theorem snd_findService (agent : Agent) (driver : Handle Service)
    (services : Handle (Roster Service)) : (agent.findService driver services).2 = agent := by
  rw [findService]
  split <;> rfl

/-- No call takes a client away. -/
theorem holds_perform (h : agent.clients.Holds handle) (call : Call) :
    (agent.perform call).2.clients.Holds handle := by
  cases call with
  | fetch asked fetch =>
    show (agent.fetch asked fetch).2.clients.Holds handle
    rw [clients_fetch]
    exact h.set _ _
  | resolveFrom asked | localsFrom asked =>
    show (agent.resolveFrom asked).2.clients.Holds handle
    rw [clients_resolveFrom]
    exact h.set _ _
  | openClient networks host services errors =>
    show (agent.openClient networks host services errors).2.clients.Holds handle
    exact h.add _
  | select services =>
    show (agent.select services).2.clients.Holds handle
    rw [snd_select]
    exact h
  | findService driver services =>
    show (agent.findService driver services).2.clients.Holds handle
    rwa [snd_findService]
  | _ => exact h

/-- Every call leaves a client as it is, but for the fetches that the call asks of it. -/
theorem get_clients_perform (h : agent.clients.Holds handle) (call : Call) :
    (agent.perform call).2.clients.get handle = (agent.clients.get handle).recording
      (call.fetchesFrom handle (agent.clients.get handle)) := by
  cases call with
  | fetch asked fetch =>
    show (agent.fetch asked fetch).2.clients.get handle = _
    rw [clients_fetch]
    exact get_clients_recording h asked [fetch]
  | resolveFrom asked | localsFrom asked =>
    show (agent.resolveFrom asked).2.clients.get handle = _
    rw [clients_resolveFrom, get_clients_recording h, Call.fetchesFrom]
    by_cases ha : asked = handle
    · rw [if_pos ha, if_pos ha, ha]
    · rw [if_neg ha, if_neg ha]
  | openClient networks host services errors =>
    show _ = (agent.clients.get handle).recording []
    rw [Client.recording_nil]
    exact Pool.get_add_of_holds h _
  | select services =>
    show (agent.select services).2.clients.get handle = (agent.clients.get handle).recording []
    rw [snd_select, Client.recording_nil]
    rfl
  | findService driver services =>
    show (agent.findService driver services).2.clients.get handle =
      (agent.clients.get handle).recording []
    rw [snd_findService, Client.recording_nil]
  | _ => exact (Client.recording_nil _).symm

/-- A run leaves a client as it is, but for the fetches that the calls of the run ask of it, one
after the other. -/
theorem get_clients_run (h : agent.clients.Holds handle) (calls : List Call) :
    (agent.run calls).2.clients.get handle = (agent.clients.get handle).recording
      (calls.flatMap (Call.fetchesFrom handle (agent.clients.get handle))) := by
  induction calls generalizing agent with
  | nil => simp [run]
  | cons call rest ih =>
    show ((agent.perform call).2.run rest).2.clients.get handle = _
    -- What the rest asks for depends on the client only through what recording leaves alone.
    rw [ih (holds_perform h call), get_clients_perform h, Client.recording_recording,
      List.flatMap_cons]
    rfl

/-- The host of a valid snapshot has an identity to report. -/
theorem fetchedEvent_of_isValid {snapshot : Snapshot} (h : snapshot.isValid = true) :
    fetchedEvent snapshot = .ok snapshot.fetchedReport := by
  rw [fetchedEvent, Record.read, Record.lack?_eq_none (Snapshot.isValid_host h)]
  rfl

section

variable {call : Call}

/-- A call that a fetch keeps from its snapshot fails as that fetch does, and all that changes is
what the client recorded. -/
theorem perform_of_obstruction?_eq_some (hc : call.source? = some handle) {failure : Failure}
    (h : (agent.clients.get handle).obstruction? = some failure) :
    agent.perform call = (.failed failure,
      agent.recording handle (agent.clients.get handle).fetchesForResolution) := by
  cases call with
  | resolveFrom asked | localsFrom asked =>
    obtain rfl : asked = handle := Option.some.inj hc
    rw [perform, resolveFrom_of_obstruction?_eq_some h]
    rfl
  | _ => simp [Call.source?] at hc

/-- With valid settings, a call that gets a valid snapshot from its client resolves it. It replies
with the resolution, and the journal takes in the resolution behind a report of the fetches. -/
theorem perform_of_obstruction?_eq_none (hs : Record.isValid agent.settings = true)
    (hc : call.source? = some handle) (h : (agent.clients.get handle).obstruction? = none)
    (hv : (agent.store.snapshot (agent.clients.get handle).view).isValid = true) :
    let snapshot := agent.store.snapshot (agent.clients.get handle).view
    agent.perform call = (call.replyWith (snapshot.resolution agent.settings),
      { agent.recording handle (agent.clients.get handle).fetchesForResolution with
        journal :=
          (agent.journal.report [snapshot.fetchedReport]).enter agent.settings snapshot }) := by
  intro snapshot
  have hresolve : snapshot.resolve agent.settings = .ok (snapshot.resolution agent.settings) :=
    Snapshot.resolve_of_isValid hv hs
  have hfrom : agent.resolveFrom handle = (.ok (snapshot.resolution agent.settings),
      { agent.recording handle (agent.clients.get handle).fetchesForResolution with
        journal :=
          (agent.journal.report [snapshot.fetchedReport]).enter agent.settings snapshot }) := by
    rw [resolveFrom_of_obstruction?_eq_none h (fetchedEvent_of_isValid hv), ← hresolve]
    rfl
  cases call with
  | resolveFrom asked | localsFrom asked =>
    obtain rfl : asked = handle := Option.some.inj hc
    rw [perform, hfrom]
    rfl
  | _ => simp [Call.source?] at hc

end

/-- A run of calls in two parts is the run of the second part after that of the first. -/
theorem run_append (agent : Agent) (calls calls' : List Call) :
    (agent.run (calls ++ calls')).2 = ((agent.run calls).2.run calls').2 := by
  induction calls generalizing agent with
  | nil => rfl
  | cons call rest ih => exact ih _

/-- After one more call of a run the agent is as that call leaves it. -/
theorem run_take_succ (agent : Agent) {calls : List Call} {i : Nat} {call : Call}
    (h : calls[i]? = some call) :
    (agent.run (calls.take (i + 1))).2 = ((agent.run (calls.take i)).2.perform call).2 := by
  rw [List.take_add_one, h, run_append]
  rfl

end Agent

end HostOverlay
