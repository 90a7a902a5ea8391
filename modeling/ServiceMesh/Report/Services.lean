import ServiceMesh.ConsumerGroup
import ServiceMesh.Registry.Activity
import ServiceMesh.Report.Basic
import ServiceMesh.Service.Codec
import ServiceMesh.Zone

/-! Reports about services, zones and groups, and about how registries are asked for them. -/
namespace ServiceMesh

namespace Report

def service (service : Service) : Json :=
  .record [("name", .ofString service.name),
    ("instances", list Instance.toJson service.instances.toList)]

def services (services : Services) : Json := list service services.toList

def locality : Locality → Json
  | .local => .ofString "local"
  | .remote => .ofString "remote"

def zone (zone : ZoneState) : Json :=
  .record [("zone", .ofString zone.zone), ("locality", locality zone.locality),
    ("services", services zone.services)]

def mesh (mesh : MultiZone) : Json := list zone mesh.zones

def view : View → Json
  | .global => .ofString "global"
  | .local => .ofString "local"

def groupFields (group : ConsumerGroup) : List (String × Json) :=
  [("name", .ofString group.service), ("view", view group.view),
    ("deps", orNull (fun names => texts names.toList) group.dependencies.names?),
    ("wildcard", .bool group.isWildcard), ("display", .ofString group.render)]

/-- The kind of a failed request. -/
def registryErrorKind : RegistryError → String
  | .timeout _ => "Timeout"
  | .status _ => "Status"
  | .transport _ => "Transport"
  | .decode _ => "Decode"

/-- A failed request. A transport failure without a cause of its own has no text. -/
def registryError (e : RegistryError) : Json :=
  let message := match e with
    | .transport none => none
    | e => some e.message
  .record [("error", .ofString (registryErrorKind e)), ("message", orNull .ofString message),
    ("transient", .bool e.isTransient)]

/-- How asking went. -/
def result : Option RegistryError → Json
  | none => .ofString "ok"
  | some e => registryError e

/-- Whole milliseconds. -/
def time (time : Time) : Json := .ofNat (time / 1_000_000)

/-- Requests with their times. -/
def requests (log : Log) : Json :=
  list (fun (at_, service) => .array [time at_, orNull .ofString service]) log.requests

def requestTimes (log : Log) : Json := list (fun request => time request.1) log.requests

/-- Publications with their times since a start. -/
def publications (log : Log) (start : Time) : Json :=
  list (fun (at_, found) => .array [time (at_ - start), services found]) log.publications

/-- The lines of samples, in order. -/
def samples (samples : List Sample) : Json :=
  texts ((samples.map Sample.render).mergeSort fun a b => a ≤ b)

end Report

end ServiceMesh
