import ServiceMesh.Duration.Basic

/-! Synthetic network faults: delays that requests between chosen services suffer for a while. -/
namespace ServiceMesh

/-- The name of a service, or `*` for every service. -/
structure Selector where
  pattern : String
deriving DecidableEq

def Selector.selects (selector : Selector) (service : String) : Bool :=
  selector.pattern == "*" || selector.pattern == service

structure Fault where
  id : String
  source : Selector
  target : Selector
  delay : Duration
  duration : Duration
deriving DecidableEq

end ServiceMesh
