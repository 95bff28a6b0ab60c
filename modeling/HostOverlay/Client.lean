import HostOverlay.Failure
import HostOverlay.Store.Basic

/-!
# Metadata clients

A client answers three fetches from a view of the store, and can be told to fail some of them. It
keeps the names of the fetches that were asked of it, those that failed included.
-/

namespace HostOverlay

/-- What can be fetched from the metadata. -/
inductive Fetch where
  /-- The list of networks. -/
  | networks
  /-- The host on which the agent runs. -/
  | host
  /-- The list of services. -/
  | services
deriving DecidableEq, Repr

namespace Fetch

/-- The name under which a fetch is recorded. -/
def name : Fetch → String
  | networks => "get_networks"
  | host => "get_self_host"
  | services => "get_services"

/-- The fetches of a resolution, in their order. -/
def all : List Fetch := [networks, host, services]

end Fetch

/-- A client of the metadata. -/
structure Client where
  /-- What the client fetches from; the rosters are its own. -/
  view : View
  /-- The fetches that fail, by name. -/
  errors : Table String Failure := []
  /-- The fetches that were asked of the client, oldest first. -/
  calls : List Fetch := []

namespace Client

instance : Inhabited Client := ⟨{ view := ⟨⟨0⟩, ⟨0⟩, ⟨0⟩⟩ }⟩

/-- The failure with which the client answers a fetch. -/
def failure? (client : Client) (fetch : Fetch) : Option Failure :=
  Table.get? client.errors fetch.name

/-- Records a fetch, and fails if the client is told to. -/
def attempt (client : Client) (fetch : Fetch) : Except Failure Unit × Client :=
  let verdict := match client.failure? fetch with
    | some failure => .error failure
    | none => .ok ()
  (verdict, { client with calls := client.calls ++ [fetch] })

/-- Attempts fetches in order, up to the first that fails. -/
def attemptAll (client : Client) : List Fetch → Except Failure Unit × Client
  | [] => (.ok (), client)
  | fetch :: rest =>
    match client.attempt fetch with
    | (.ok (), client) => client.attemptAll rest
    | (.error failure, client) => (.error failure, client)

end Client

end HostOverlay
