import HostOverlay.Client

/-!
# What a client is asked

A resolution asks a client for its fetches in their order and stops at the first that fails. So what
it asks for is the shortest beginning of the fetches that ends with one that fails, or all of them
if none does, and it fails as that fetch does (`attemptAll_eq`). A fetch is recorded before it is
known to fail, so the one that fails is recorded too. Recording changes nothing else of a client.
-/

namespace HostOverlay.Client

/-- The client after fetches were asked of it. -/
def recording (client : Client) (fetches : List Fetch) : Client :=
  { client with calls := client.calls ++ fetches }

/-- The fetches in front of the first that fails, and that one; all of them if none fails. -/
def untilFailure (client : Client) (fetches : List Fetch) : List Fetch :=
  fetches.take (fetches.findIdx (fun fetch => (client.failure? fetch).isSome) + 1)

/-- The failure that keeps a resolution from its snapshot: that of the first fetch that fails. -/
def obstruction? (client : Client) : Option Failure := Fetch.all.findSome? client.failure?

/-- The fetches that a resolution asks of the client. -/
def fetchesForResolution (client : Client) : List Fetch := client.untilFailure Fetch.all

/-- Recording nothing changes nothing. -/
@[simp] theorem recording_nil (client : Client) : client.recording [] = client := by
  rw [recording, List.append_nil]

/-- Recording fetches one after the other is recording them at once. -/
@[simp] theorem recording_recording (client : Client) (fetches fetches' : List Fetch) :
    (client.recording fetches).recording fetches' = client.recording (fetches ++ fetches') := by
  simp only [recording, List.append_assoc]

/-- Recording does not change what keeps a resolution from its snapshot. -/
@[simp] theorem obstruction?_recording (client : Client) (fetches : List Fetch) :
    (client.recording fetches).obstruction? = client.obstruction? := rfl

/-- The first of several fetches is always asked for; if it fails, it is the last. -/
theorem untilFailure_cons (client : Client) (fetch : Fetch) (rest : List Fetch) :
    client.untilFailure (fetch :: rest) =
      fetch :: if (client.failure? fetch).isSome then [] else client.untilFailure rest := by
  rw [untilFailure, List.findIdx_cons]
  cases (client.failure? fetch).isSome <;> simp [untilFailure]

/-- Attempting fetches records those up to the first that fails, and fails as that one does. -/
theorem attemptAll_eq (client : Client) (fetches : List Fetch) :
    client.attemptAll fetches =
      ((fetches.findSome? client.failure?).elim (.ok ()) .error,
        client.recording (client.untilFailure fetches)) := by
  induction fetches generalizing client with
  | nil => simp [attemptAll, untilFailure]
  | cons fetch rest ih =>
    rw [attemptAll, attempt, untilFailure_cons, List.findSome?_cons]
    cases client.failure? fetch with
    | some failure => rfl
    | none =>
      show (client.recording [fetch]).attemptAll rest = _
      rw [ih, recording_recording]
      rfl

end HostOverlay.Client
