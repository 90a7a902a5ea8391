import ServiceMesh.Snapshot.Content
import ServiceMesh.Snapshot.Versions

/-! Building snapshots: the content of each group is interned, so that groups that receive the
same share it, and gets its versions. -/
namespace ServiceMesh

structure SnapshotBuilder where
  config : BuilderConfig
  caches : ResourceCaches
  versions : SnapshotVersions

namespace SnapshotBuilder

def start (config : BuilderConfig) : SnapshotBuilder := ⟨config, .start, .start⟩

/-- What is held if others hold `outside`. -/
def holdings (builder : SnapshotBuilder) (outside : Holdings) : Holdings :=
  outside ++ builder.versions.holdings

/-- Builds the snapshot of a group, while others hold `outside`. -/
def build (builder : SnapshotBuilder) (outside : Holdings) (group : ConsumerGroup)
    (global : GlobalSnapshot) (faults : List Fault) (generation : Nat) :
    Snapshot × SnapshotBuilder :=
  let content := builder.config.content group global faults
  let held := builder.holdings outside
  let (clusters, clusterCache) := builder.caches.clusters.serialize held.clusters content.clusters
  let (endpoints, endpointCache) :=
    builder.caches.endpoints.serialize held.endpoints content.endpoints
  let (routes, routeCache) := builder.caches.routes.serialize held.routes content.routes
  let (versions, assigned) := builder.versions.assign group clusters endpoints routes
  (⟨group, generation, versions, clusters, endpoints, routes⟩,
    { builder with caches := ⟨clusterCache, endpointCache, routeCache⟩, versions := assigned })

/-- Builds the snapshots of some groups, one after the other; none is given away before the last is
built. -/
def buildAll (builder : SnapshotBuilder) (outside : Holdings) (groups : List ConsumerGroup)
    (global : GlobalSnapshot) (faults : List Fault) (generation : Nat) :
    List Snapshot × SnapshotBuilder :=
  groups.foldl (fun (built, builder) group =>
    let (snapshot, builder) :=
      builder.build (outside ++ .ofSnapshots built) group global faults generation
    (built ++ [snapshot], builder)) ([], builder)

def purge (builder : SnapshotBuilder) (outside : Holdings) : SnapshotBuilder :=
  { builder with caches := builder.caches.purge (builder.holdings outside) }

def retain (builder : SnapshotBuilder) (groups : SortedSet ConsumerGroup) : SnapshotBuilder :=
  { builder with versions := builder.versions.retain groups }

end SnapshotBuilder

end ServiceMesh
