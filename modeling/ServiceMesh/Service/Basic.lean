import ServiceMesh.Service.Instance
import ServiceMesh.SortedMap

/-! Services with their instances, and the services that one registry knows. -/
namespace ServiceMesh

structure Service where
  name : String
  instances : SortedSet Instance
deriving DecidableEq

def Service.isEmpty (service : Service) : Bool := service.instances.isEmpty

/-- The services of one registry by name. Documents from elsewhere can file a service under a name
that is not its own. -/
structure Services where
  byName : SortedMap String Service
deriving DecidableEq

namespace Services

instance : EmptyCollection Services := ⟨⟨∅⟩⟩

instance : Inhabited Services := ⟨∅⟩

def get? (services : Services) (name : String) : Option Service := services.byName.get? name

def contains (services : Services) (name : String) : Bool := services.byName.contains name

def names (services : Services) : List String := services.byName.keys

def toList (services : Services) : List Service := services.byName.values

def size (services : Services) : Nat := services.byName.size

def isEmpty (services : Services) : Bool := services.byName.isEmpty

/-- Files a service under its own name. -/
def insert (services : Services) (service : Service) : Services :=
  ⟨services.byName.insert service.name service⟩

/-- Files a service under its own name, and tells whether that made a difference. -/
def change (services : Services) (service : Service) : Bool × Services :=
  if services.get? service.name = some service then (false, services)
  else (true, services.insert service)

/-- Makes a name known, without instances; a known service keeps the ones it has. -/
def add (services : Services) (name : String) : Bool × Services :=
  if services.contains name then (false, services) else services.change ⟨name, ∅⟩

def remove (services : Services) (name : String) : Bool × Services :=
  (services.contains name, ⟨services.byName.erase name⟩)

def withoutEmpty (services : Services) : Services :=
  ⟨services.byName.filter fun _ service => !service.isEmpty⟩

/-- Files every service under its own name; a later service replaces an earlier one. -/
def ofList (services : List Service) : Services := services.foldl insert ∅

end Services

end ServiceMesh
