import ServiceMesh.Duration.Printer
import ServiceMesh.SortedSet

/-! What service registries answer, and how asking them can fail. -/
namespace ServiceMesh

/-- An instance as a registry reports it. -/
structure RegistryInstance where
  id : String
  address : String
  port : UInt32
  tags : List String
  healthy : Bool
deriving DecidableEq

structure CatalogEntry where
  service : String
  tags : SortedSet String
deriving DecidableEq

/-- All services of a registry. An index that two answers share says that nothing changed between
them. -/
structure Catalog where
  index : Option UInt64
  services : List CatalogEntry
deriving DecidableEq

/-- The instances of one service. -/
structure InstanceList where
  index : Option UInt64
  instances : List RegistryInstance
deriving DecidableEq

/-- Why a request to a registry or to a peer gave no answer. A transport failure carries the text of
its cause, if it has one of its own. -/
inductive RegistryError where
  | timeout (after : Duration)
  | status (code : Nat)
  | transport (cause : Option String)
  | decode (message : String)
deriving DecidableEq

namespace RegistryError

def message : RegistryError → String
  | .timeout after => "registry request timed out after " ++ after.render
  | .status code => "registry responded with HTTP " ++ toString code
  | .transport cause => "registry request failed: " ++ cause.getD "connection failed"
  | .decode message => "failed to decode registry response: " ++ message

/-- Timeouts, transport failures, server errors and requests to slow down clear up on their own. -/
def isTransient : RegistryError → Bool
  | .timeout _ | .transport _ => true
  | .status code => 500 ≤ code || code == 429
  | .decode _ => false

end RegistryError

end ServiceMesh
