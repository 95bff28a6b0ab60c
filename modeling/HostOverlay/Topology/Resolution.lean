import HostOverlay.Topology.Obstacle

/-!
# Resolution of the local topology

A resolution tells, for one snapshot, which networks the host has to configure and which container
is its router for each of them. How the choice of the driver went is its outcome; a bad outcome
leaves the resolution empty or partial and is no failure. An obstacle in the snapshot is a failure.
-/

namespace HostOverlay

/-- How the choice of the driver service went. -/
inductive Outcome where
  /-- There is one candidate. -/
  | ok
  /-- There is no candidate. -/
  | noDriverService
  /-- There are several candidates. -/
  | multipleDriverServices
deriving DecidableEq, Repr, Inhabited

namespace Outcome

/-- The label under which an outcome is counted. -/
def label : Outcome → String
  | ok => "ok"
  | noDriverService => "no_driver_service"
  | multipleDriverServices => "multiple_driver_services"

/-- The outcome with the given candidates. -/
def ofCandidates : List Service → Outcome
  | [] => noDriverService
  | [_] => ok
  | _ :: _ :: _ => multipleDriverServices

end Outcome

/-- The local topology of a host. -/
structure Resolution where
  /-- The candidates for the driver. -/
  candidates : List Service
  /-- The network service, or the empty service if there is none. -/
  service : Service
  /-- The routers of the host, each under the network it serves. -/
  routers : Routers
  /-- The networks that the host has to configure. -/
  networks : List Network

/-- How the choice of the driver went. -/
def Resolution.outcome (resolution : Resolution) : Outcome :=
  .ofCandidates resolution.candidates

namespace Snapshot

/-- The local topology of the snapshot's host, as far as the parts of the snapshot fit. -/
def resolution (snapshot : Snapshot) (settings : Settings) : Resolution where
  candidates := driverCandidates settings snapshot.services
  service := snapshot.networkService settings
  routers := snapshot.routers settings
  networks := snapshot.localNetworks settings

/-- The local topology of the snapshot's host, or the obstacle that keeps it from being
resolved. -/
def resolve (snapshot : Snapshot) (settings : Settings) : Except Failure Resolution :=
  match snapshot.obstacle? settings with
  | some obstacle => .error (.misfit obstacle.cause)
  | none => .ok (snapshot.resolution settings)

end Snapshot

end HostOverlay
