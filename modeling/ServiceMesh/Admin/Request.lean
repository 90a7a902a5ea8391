import ServiceMesh.Admin.Target
import ServiceMesh.Metrics

/-! Requests to the admin API and the answers to them. -/
namespace ServiceMesh.Admin

/-- A request, of whose target only the path is kept. -/
structure Request where
  method : String
  path : String
  body : List UInt8
deriving DecidableEq

/-- A request with a method, a target and a body; none if method or target are malformed. -/
def Request.of? (method target : String) (body : List UInt8) : Option Request :=
  if method.isEmpty || !method.toList.all isTokenChar then none
  else (targetPath? target).map fun path => ⟨method, path, body⟩

inductive Body where
  | text (content : String)
  | samples (content : List Sample)
deriving DecidableEq

structure Response where
  status : Nat
  contentType : Option String
  body : Body
deriving DecidableEq

namespace Response

/-- An answer that is nothing but its status. -/
def bare (code : Nat) : Response := ⟨code, none, .text ""⟩

def text (code : Nat) (content : String) : Response := ⟨code, some "text/plain", .text content⟩

def json (content : String) : Response := ⟨200, some "application/json", .text content⟩

def metrics (samples : List Sample) : Response :=
  ⟨200, some "application/openmetrics-text; version=1.0.0; charset=utf-8", .samples samples⟩

def methodNotAllowed : Response := .bare 405

def notFound : Response := .bare 404

def unavailable : Response := .bare 503

end Response

end ServiceMesh.Admin
