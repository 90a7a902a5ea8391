import ServiceMesh.Admin.Request
import ServiceMesh.Admin.Submission
import ServiceMesh.Fault.Store
import ServiceMesh.Service.Codec

/-! How the admin API answers: whether the control plane is alive and ready, what it counts, the
services of the local zone, and the faults in force. -/
namespace ServiceMesh.Admin

/-- What the answers depend on. -/
structure Api where
  ready : Bool
  faults : FaultService
  localServices : Option Services
  samples : List Sample

/-- Where the services of the local zone are found. -/
def statePath : String := "/state"

/-- Where faults are found. -/
def faultsPath : String := "/chaos/fault/read-network-delay"

/-- The one segment of a path behind a base path and a slash. -/
def parameter? (base path : String) : Option String :=
  let front := base.toList ++ ['/']
  let segment := path.toList.drop front.length
  if front.isPrefixOf path.toList && !segment.isEmpty && !segment.contains '/' then
    some (String.ofList segment)
  else none

/-- What a path leads to. -/
inductive Place where
  | ready
  | live
  | metrics
  | services
  | service (name : String)
  | faults
  | fault (id : String)
  | nowhere
deriving DecidableEq

def Place.of (path : String) : Place :=
  if path = "/ready" then .ready
  else if path = "/live" then .live
  else if path = "/metrics" then .metrics
  else if path = statePath then .services
  else if path = faultsPath then .faults
  else
    match parameter? statePath path, parameter? faultsPath path with
    | some name, _ => .service name
    | none, some id => .fault id
    | none, none => .nowhere

/-- Methods that only ask. -/
def isReading (method : String) : Bool := method == "GET" || method == "HEAD"

def faultListJson (faults : List Fault) : Json :=
  .record [("experimentList", .array (faults.map Fault.toJson))]

/-- Shows all services or one of them, once there are any. -/
def Api.showServices (api : Api) (name : Option String) : Response :=
  match api.localServices, name with
  | none, _ => .text 503 "state not loaded\n"
  | some services, none => .json services.toJson.render
  | some services, some name =>
      match services.get? name with
      | some service => .json service.toJson.render
      | none => .notFound

def Api.listFaults (api : Api) (now : Time) : Response × FaultService :=
  match api.faults.list now with
  | .ok (faults, service) => (.json (faultListJson faults).render, service)
  | .error _ => (.unavailable, api.faults)

/-- Takes a submission. Too large a body is turned down whatever it holds. -/
def Api.submitFault (api : Api) (now : Time) (freshId : String) (body : List UInt8) :
    Response × FaultService :=
  if maxBody < body.length then (.bare 413, api.faults)
  else
    match decodeSubmission freshId body with
    | .error e => (.text 400 (e.message ++ "\n"), api.faults)
    | .ok fault =>
        match api.faults.submit now fault with
        | .ok service => (.json fault.toJson.render, service)
        | .error _ => (.unavailable, api.faults)

def Api.deleteFault (api : Api) (id : String) : Response × FaultService :=
  match api.faults.delete id with
  | .ok service => (.bare 204, service)
  | .error _ => (.unavailable, api.faults)

/-- The answer to a request, and the faults behind it. A submission without an id gets `freshId`. -/
def Api.handle (api : Api) (now : Time) (freshId : String) (request : Request) :
    Response × FaultService :=
  let reading (response : Response) : Response × FaultService :=
    (if isReading request.method then response else .methodNotAllowed, api.faults)
  match Place.of request.path with
  | .ready => reading (if api.ready then .text 200 "ready\n" else .text 503 "not ready\n")
  | .live => reading (.text 200 "live\n")
  | .metrics => reading (.metrics api.samples)
  | .services => reading (api.showServices none)
  | .service name => reading (api.showServices (some name))
  | .faults =>
      if request.method = "GET" then api.listFaults now
      else if request.method = "POST" then api.submitFault now freshId request.body
      else (.methodNotAllowed, api.faults)
  | .fault id =>
      if request.method = "DELETE" then api.deleteFault id else (.methodNotAllowed, api.faults)
  | .nowhere => (.notFound, api.faults)

end ServiceMesh.Admin
