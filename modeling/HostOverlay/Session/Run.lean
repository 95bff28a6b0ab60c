import HostOverlay.Session.Edit

/-!
# Runs of a session

A step that looks at the snapshot or changes it is done here, and every other step is a call on
the agent. A run takes its steps in order and answers each; a step that fails answers with its
failure, and so does one whose answer needs a field that a record lacks; the run goes on. The
answers are shown all together at the end, so a run fails if one of them cannot be shown.
-/

namespace HostOverlay

open Schema

namespace Session

/-- What was fetched, and the session after the list that was given is emptied if that is asked
for; only a list can be emptied. A host is looked at before that is found out. -/
def receive (session : Session) (clear : Bool) : Fetched → Answer × Session
  | .networks roster =>
    -- The list belongs to the caller, so emptying it must not reach the client.
    (.networks (session.agent.store.networksOf roster),
      if clear then session.edit (.setNetworkRoster roster []) else session)
  | .host host =>
    let host := session.agent.store.readHost host
    let refusal := Misfit.noMember (.record (Record.name Host)) "clear"
    ((Answer.host host).unlessMisfit
      ((Record.gap? host).or (if clear then some refusal else none)), session)
  | .services roster =>
    (.services (session.agent.store.servicesOf roster),
      if clear then session.edit (.setServiceRoster roster []) else session)

/-- Asks the agent and answers with its reply. -/
def reply (session : Session) (call : Call) : Answer × Session :=
  (session.call call).map .reply id

/-- Takes one step. -/
def take [Validator] (session : Session) : Step → Answer × Session
  | .look => (.snapshot session.snapshot, session)
  | .assign part field value => session.assign field value part
  | .setLabel name value => session.fit (session.host.setLabel name value) session.setHost
  | .eraseLabel name => session.fit (session.host.eraseLabel name) session.setHost
  | .replaceHost value => session.validated value fun host =>
    -- Clients that were made before keep the host they were made with.
    let handle := session.agent.store.hosts.fresh
    let session := session.edit (.addHost host)
    (.host host, { session with view := { session.view with host := handle } })
  | .setSetting name value =>
    keep (Record.assignNamed session.agent.settings name value) fun settings =>
      (.settings settings, (session.call (.configure settings)).2)
  | .insert place position value => session.insert position value place
  | .remove place position => session.remove position place
  | .files network => session.atNetwork network fun handle =>
    session.attempt ((session.agent.store.readNetwork handle).files session.agent.settings)
      fun files => (.reply (.files files), session)
  | .discoverBridge network => session.atNetwork network fun handle =>
    session.reply (.discoverBridge handle session.host)
  | .substituteConfig network => session.atNetwork network fun handle =>
    session.reply (.substituteConfig handle session.host)
  | .select => session.reply (.select session.view.services)
  | .resolve => session.reply (.resolve session.view)
  | .locals => session.reply (.locals session.view)
  | .metrics => (.metrics session.agent.journal, session)
  | .takeRecords => (.records session.agent.journal.records, (session.call .forget).2)
  | .openClient networks host services errors =>
    let view := session.view
    let (client, agent) := session.agent.openClient (if networks then view.networks else none)
      (if host then view.host else none) (if services then view.services else none) errors
    (.calls (agent.clients.get client).calls, { session with agent, client })
  | .fetch fetch clear =>
    match session.call (.fetch session.client fetch) with
    | (.fetched fetched, session) => session.receive clear fetched
    | (reply, session) => (.reply reply, session)
  | .resolveFrom => session.reply (.resolveFrom session.client)
  | .localsFrom => session.reply (.localsFrom session.client)
  | .calls => (.calls (session.agent.clients.get session.client).calls, session)

/-- The answers to steps that are taken in order. -/
def answers [Validator] (session : Session) : List Step → List Answer
  | [] => []
  | step :: rest =>
    let (answer, session) := session.take step
    answer.told :: session.answers rest

/-- Takes steps in order and shows the answers. -/
def run [Validator] (session : Session) (steps : List Step) : Except Failure (List Answer) :=
  let answers := session.answers steps
  if answers.all Answer.isShowable then .ok answers else .error (.misfit .circular)

end Session

end HostOverlay
