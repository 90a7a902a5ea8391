import ServiceMesh.ConsumerGroup
import ServiceMesh.Resource.Cache

/-! What proxies of one group receive: three collections, each with its version. -/
namespace ServiceMesh

structure Versions where
  clusters : String
  endpoints : String
  routes : String
deriving DecidableEq

structure Snapshot where
  group : ConsumerGroup
  generation : Nat
  versions : Versions
  clusters : Handle Cluster
  endpoints : Handle LoadAssignment
  routes : Handle RouteConfiguration
deriving DecidableEq

/-- The handles that somebody holds, kind by kind. -/
structure Holdings where
  clusters : Held
  endpoints : Held
  routes : Held
deriving DecidableEq

namespace Holdings

instance : EmptyCollection Holdings := ⟨⟨[], [], []⟩⟩

instance : Append Holdings :=
  ⟨fun a b => ⟨a.clusters ++ b.clusters, a.endpoints ++ b.endpoints, a.routes ++ b.routes⟩⟩

def ofSnapshots (snapshots : List Snapshot) : Holdings :=
  ⟨snapshots.map (·.clusters.id), snapshots.map (·.endpoints.id), snapshots.map (·.routes.id)⟩

end Holdings

namespace Snapshot

/-- Holds if two snapshots give proxies the same resources. -/
def sameContent (a b : Snapshot) : Bool :=
  a.clusters.resources == b.clusters.resources &&
    a.endpoints.resources == b.endpoints.resources && a.routes.resources == b.routes.resources

def clusterNames (snapshot : Snapshot) : List String :=
  snapshot.clusters.resources.map Cluster.name

def endpointsFor? (snapshot : Snapshot) (cluster : String) : Option LoadAssignment :=
  snapshot.endpoints.resources.find? (·.cluster == cluster)

end Snapshot

/-- The caches of the three kinds of collections. -/
structure ResourceCaches where
  clusters : ResourceCache Cluster
  endpoints : ResourceCache LoadAssignment
  routes : ResourceCache RouteConfiguration

namespace ResourceCaches

def start : ResourceCaches := ⟨.empty hash, .empty hash, .empty hash⟩

instance : Inhabited ResourceCaches := ⟨start⟩

def purge (caches : ResourceCaches) (held : Holdings) : ResourceCaches :=
  ⟨caches.clusters.purge held.clusters, caches.endpoints.purge held.endpoints,
    caches.routes.purge held.routes⟩

/-- How many collections are alive, kind by kind. -/
def liveEntries (caches : ResourceCaches) (held : Holdings) : List Nat :=
  [caches.clusters.liveEntries held.clusters, caches.endpoints.liveEntries held.endpoints,
    caches.routes.liveEntries held.routes]

/-- How many wire forms were computed, kind by kind. -/
def serializations (caches : ResourceCaches) : List Nat :=
  [caches.clusters.serializations, caches.endpoints.serializations, caches.routes.serializations]

end ResourceCaches

end ServiceMesh
