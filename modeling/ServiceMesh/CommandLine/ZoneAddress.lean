import ServiceMesh.Number.Integer
import ServiceMesh.Text.Split

/-! Where the registry or a control plane of another zone is reached, written `zone=host:port`. -/
namespace ServiceMesh

structure ZoneAddress where
  zone : String
  host : String
  port : Nat
deriving DecidableEq, Repr

namespace ZoneAddress

/-- The zone ends at the first equals sign and the port begins behind the last colon. -/
def parse? (text : String) : Option ZoneAddress := do
  let (zone, address) ← Text.cut? '=' text.toList
  let (host, port) ← Text.cutLast? ':' address
  if zone.isEmpty || host.isEmpty then none
  match Number.parseNat 65535 port with
  | .ok port => some ⟨String.ofList zone, String.ofList host, port⟩
  | .error _ => none

/-- The complaint about a text that is no address of a zone. -/
def invalidMessage (text : String) : String :=
  "invalid remote registry '" ++ text ++ "': expected zone=host:port"

end ZoneAddress

end ServiceMesh
