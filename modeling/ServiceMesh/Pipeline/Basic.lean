import ServiceMesh.Net.IpAddress
import ServiceMesh.Pipeline.Denylist
import ServiceMesh.Pipeline.Merge
import ServiceMesh.Text.Blank

/-! Chains of transforms that services pass on their way into the mesh. -/
namespace ServiceMesh

/-- Drops or merges services or instances; no transform makes up a service. -/
inductive Transform where
  | excludeServices (denylist : Denylist)
  | emptyAddress
  | invalidPort
  | ipAddress
  | mergeInstances

namespace Instance

def hasAddress (i : Instance) : Bool := !(Text.trim i.address.toList).isEmpty

def hasValidPort (i : Instance) : Bool := 1 ≤ i.port && i.port ≤ 65535

def hasIpAddress (i : Instance) : Bool := (IpAddress.parse? i.address).isSome

end Instance

def Service.retain (keep : Instance → Bool) (service : Service) : Service :=
  { service with instances := service.instances.filter keep }

namespace Transform

/-- What becomes of one service, none if it is dropped. -/
def applyTo (transform : Transform) (service : Service) : Option Service :=
  match transform with
  | .excludeServices denylist => if denylist.excludes service.name then none else some service
  | .emptyAddress => some (service.retain Instance.hasAddress)
  | .invalidPort => some (service.retain Instance.hasValidPort)
  | .ipAddress => if service.instances.toList.all Instance.hasIpAddress then some service else none
  | .mergeInstances => some service.merge

def apply (transform : Transform) (services : List Service) : List Service :=
  services.filterMap transform.applyTo

end Transform

structure Pipeline where
  transforms : List Transform

namespace Pipeline

/-- The denylist, if there is one, then the filters on address and port, then merging. -/
def standard (denylist : Option Denylist) : Pipeline :=
  ⟨(denylist.map Transform.excludeServices).toList ++
    [.emptyAddress, .invalidPort, .ipAddress, .mergeInstances]⟩

def apply (pipeline : Pipeline) (services : List Service) : List Service :=
  pipeline.transforms.foldl (fun services transform => transform.apply services) services

end Pipeline

end ServiceMesh
