import ServiceMesh.Service.Basic

/-! The services of all zones of the mesh at one time. -/
namespace ServiceMesh

inductive Locality where
  | «local»
  | remote
deriving DecidableEq, Repr

/-- Endpoints of lower priority value are preferred: local ones before remote ones. -/
def Locality.priority : Locality → UInt32
  | .local => 0
  | .remote => 1

instance : Ord Locality := ⟨compareOn Locality.priority⟩

instance : Std.TransOrd Locality := inferInstanceAs (Std.TransCmp (compareOn Locality.priority))

structure ZoneState where
  zone : String
  locality : Locality
  services : Services
deriving DecidableEq

/-- Local zones come before remote ones, and zones of one locality go by name. -/
def ZoneState.order : ZoneState → ZoneState → Ordering :=
  compareLex (compareOn ZoneState.locality) (compareOn ZoneState.zone)

structure MultiZone where
  zones : List ZoneState
deriving DecidableEq

namespace MultiZone

instance : Inhabited MultiZone := ⟨⟨[]⟩⟩

/-- Puts the zones in order; zones of equal locality and name stay in the order given. -/
def ofList (zones : List ZoneState) : MultiZone :=
  ⟨zones.mergeSort fun a b => (a.order b).isLE⟩

def isEmpty (mesh : MultiZone) : Bool := mesh.zones.isEmpty

def hasNoServices (mesh : MultiZone) : Bool := mesh.zones.all fun zone => zone.services.isEmpty

/-- The names known in any zone. -/
def serviceNames (mesh : MultiZone) : SortedSet String :=
  SortedSet.ofList (mesh.zones.flatMap fun zone => zone.services.names)

/-- What is filed under a name, zone by zone. -/
def byZone (mesh : MultiZone) (name : String) : List (String × Service) :=
  mesh.zones.filterMap fun zone => (zone.services.get? name).map (zone.zone, ·)

/-- The names under which some zone files something else than before, or nothing any more. -/
def changedServices (now previous : MultiZone) : SortedSet String :=
  (now.serviceNames.union previous.serviceNames).filter fun name =>
    now.byZone name ≠ previous.byZone name

end MultiZone

end ServiceMesh
