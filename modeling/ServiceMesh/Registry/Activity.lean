import ServiceMesh.Metrics
import ServiceMesh.Registry.Basic
import ServiceMesh.Service.Basic

/-! What the pollers of registries and peers do over time, and the samples that sum it up. -/
namespace ServiceMesh

/-- A time in nanoseconds since the start. -/
abbrev Time := Nat

inductive RequestKind where
  | catalog
  | instances
  | state
deriving DecidableEq

def RequestKind.label : RequestKind → String
  | .catalog => "catalog"
  | .instances => "instances"
  | .state => "state"

/-- How a request went: with an answer, with a failure that clears up on its own, or with another
one. -/
inductive Outcome where
  | ok
  | transient
  | error
deriving DecidableEq

def Outcome.label : Outcome → String
  | .ok => "ok"
  | .transient => "transient"
  | .error => "error"

def Outcome.of {α : Type} : Except RegistryError α → Outcome
  | .ok _ => .ok
  | .error problem => if problem.isTransient then .transient else .error

/-- One thing that a poller does: it sends a request, for a service or for all there is, it takes the
answer, it counts the services it knows, or it publishes a new state. -/
inductive Activity where
  | asked (service : Option String)
  | answered (kind : RequestKind) (outcome : Outcome)
  | counted (services : Nat)
  | published (services : Services)
deriving DecidableEq

abbrev Log := List (Time × Activity)

namespace Log

/-- The part of a log up to a time. -/
def upTo (log : Log) (stop : Time) : Log := log.filter fun entry => entry.1 ≤ stop

/-- The requests with their times. -/
def requests (log : Log) : List (Time × Option String) :=
  log.filterMap fun entry => match entry.2 with
    | .asked service => some (entry.1, service)
    | _ => none

/-- The published states with their times. -/
def publications (log : Log) : List (Time × Services) :=
  log.filterMap fun entry => match entry.2 with
    | .published services => some (entry.1, services)
    | _ => none

end Log

/-- The activities of all zones by zone name, in the order in which they took place. -/
abbrev History := List (String × Activity)

namespace History

/-- How many requests of a kind had an outcome. -/
def count (history : History) (zone : String) (kind : RequestKind) (outcome : Outcome) : Nat :=
  history.countP fun entry => entry.1 == zone && entry.2 == .answered kind outcome

/-- The last count of a zone's services, zero before there is one. -/
def services (history : History) (zone : String) : Nat :=
  let counts := history.filterMap fun entry => match entry.2 with
    | .counted services => if entry.1 == zone then some services else none
    | _ => none
  counts.getLast?.getD 0

def requestSample? (history : History) (zone : String) (kind : RequestKind) (outcome : Outcome) :
    Option Sample :=
  match history.count zone kind outcome with
  | 0 => none
  | n => some ⟨"requests_total",
      [("zone", zone), ("kind", kind.label), ("outcome", outcome.label)], n⟩

/-- The counters of requests, which exist from the first request on, and the gauges of services,
which exist from the start. -/
def samples (history : History) (zones : List String) : List Sample :=
  zones.eraseDups.flatMap fun zone =>
    [RequestKind.catalog, .instances, .state].flatMap (fun kind =>
      [Outcome.ok, .transient, .error].filterMap (history.requestSample? zone kind)) ++
    [⟨"services", [("zone", zone)], history.services zone⟩]

end History

end ServiceMesh
