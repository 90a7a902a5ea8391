import ServiceMesh.Snapshot.Basic

/-! Versions of the collections that each group receives. A collection keeps its version as long
as its content stays the same, and no version is given out twice. -/
namespace ServiceMesh

/-- The text of the version with a number: its hexadecimal digits. -/
def versionText (n : Nat) : String := String.ofList (Nat.toDigits 16 n)

/-- A collection as it was last built, with its version. -/
structure Versioned (α : Type) where
  version : String
  handle : Handle α
deriving DecidableEq

/-- Takes over a collection, under a new version if it differs. `issued` counts the versions given out
so far. -/
def Versioned.update {α : Type} [DecidableEq α] (current : Versioned α) (issued : Nat)
    (handle : Handle α) : Versioned α × Nat :=
  if current.handle.resources = handle.resources then (current, issued)
  else (⟨versionText (issued + 1), handle⟩, issued + 1)

structure GroupVersions where
  clusters : Versioned Cluster
  endpoints : Versioned LoadAssignment
  routes : Versioned RouteConfiguration
deriving DecidableEq

def GroupVersions.current (group : GroupVersions) : Versions :=
  ⟨group.clusters.version, group.endpoints.version, group.routes.version⟩

structure SnapshotVersions where
  byGroup : SortedMap ConsumerGroup GroupVersions
  issued : Nat
deriving DecidableEq

namespace SnapshotVersions

def start : SnapshotVersions := ⟨∅, 0⟩

instance : Inhabited SnapshotVersions := ⟨start⟩

/-- The handles that the versions hold on to. -/
def holdings (versions : SnapshotVersions) : Holdings :=
  let groups := versions.byGroup.values
  ⟨groups.map (·.clusters.handle.id), groups.map (·.endpoints.handle.id),
    groups.map (·.routes.handle.id)⟩

/-- The versions of the collections of a group. A group that comes up gets three new ones. -/
def assign (versions : SnapshotVersions) (group : ConsumerGroup) (clusters : Handle Cluster)
    (endpoints : Handle LoadAssignment) (routes : Handle RouteConfiguration) :
    Versions × SnapshotVersions :=
  let n := versions.issued
  match versions.byGroup.get? group with
  | some previous =>
      let (clusters, n) := previous.clusters.update n clusters
      let (endpoints, n) := previous.endpoints.update n endpoints
      let (routes, n) := previous.routes.update n routes
      let next : GroupVersions := ⟨clusters, endpoints, routes⟩
      (next.current, ⟨versions.byGroup.insert group next, n⟩)
  | none =>
      let next : GroupVersions :=
        ⟨⟨versionText (n + 1), clusters⟩, ⟨versionText (n + 2), endpoints⟩,
          ⟨versionText (n + 3), routes⟩⟩
      (next.current, ⟨versions.byGroup.insert group next, n + 3⟩)

/-- Forgets all groups but some. -/
def retain (versions : SnapshotVersions) (groups : SortedSet ConsumerGroup) : SnapshotVersions :=
  { versions with byGroup := versions.byGroup.filter fun group _ => groups.contains group }

def size (versions : SnapshotVersions) : Nat := versions.byGroup.size

def isEmpty (versions : SnapshotVersions) : Bool := versions.byGroup.isEmpty

end SnapshotVersions

end ServiceMesh
