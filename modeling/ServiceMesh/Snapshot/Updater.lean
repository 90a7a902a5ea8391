import ServiceMesh.Fault.Store
import ServiceMesh.Metrics
import ServiceMesh.Snapshot.Builder
import ServiceMesh.Snapshot.Store

/-! Keeping snapshots up to date with the state of the mesh, the groups and the faults. Only
groups that something changed for are built anew. -/
namespace ServiceMesh

/-- What the last build was made from, and the resources of all services that came out of it. -/
structure Built where
  mesh : MultiZone
  global : GlobalSnapshot
  faults : List Fault
deriving DecidableEq

/-- `seenMesh` and `seenFaults` are the revisions taken into account last. -/
structure Updater where
  builder : SnapshotBuilder
  store : SnapshotStore
  generation : Nat
  last : Option Built
  seenMesh : Nat
  seenFaults : Nat
  ready : Bool
  ticks : Nat
  publications : List Publication

namespace Updater

def start (config : BuilderConfig) : Updater where
  builder := .start config
  store := .start
  generation := 0
  last := none
  seenMesh := 0
  seenFaults := 0
  ready := false
  ticks := 0
  publications := []

/-- The resources of all services. The same state of the mesh has the same ones. -/
def globalFor (updater : Updater) (mesh : MultiZone) : GlobalSnapshot :=
  match updater.last with
  | none => updater.builder.config.global mesh none
  | some last =>
      if last.mesh = mesh then last.global
      else updater.builder.config.global mesh (some last.global)

/-- The services that are not what they were at the last build. -/
def changedServices (updater : Updater) (mesh : MultiZone) : SortedSet String :=
  match updater.last with
  | none => ∅
  | some last => mesh.changedServices last.mesh

def haveFaultsChanged (updater : Updater) (faults : List Fault) : Bool :=
  match updater.last with
  | none => true
  | some last => last.faults != faults

/-- Holds if the snapshot of a group can be out of date. -/
def needsRebuild (store : SnapshotStore) (changed : SortedSet String) (faultsChanged : Bool)
    (group : ConsumerGroup) : Bool :=
  if faultsChanged || (store.snapshot? group).isNone then true
  else if group.isWildcard then !changed.isEmpty
  else changed.toList.any group.dependsOn

/-- Builds and publishes the snapshots that can be out of date. -/
def tick (updater : Updater) (mesh : MultiZone) (faults : List Fault) : Updater :=
  let generation := updater.generation + 1
  let store := updater.store.prune
  let builder := updater.builder.retain store.groups
  let global := updater.globalFor mesh
  let stale := store.groups.toList.filter
    (needsRebuild store (updater.changedServices mesh) (updater.haveFaultsChanged faults))
  let (built, builder) := builder.buildAll store.holdings stale global faults generation
  let (outcomes, store) := store.publishAll built
  { updater with
    builder := builder.purge store.holdings
    store := store
    generation := generation
    last := some ⟨mesh, global, faults⟩
    ready := true
    ticks := updater.ticks + 1
    publications := updater.publications ++ outcomes }

/-- The faults to build with: those in force, or the last ones if they cannot be had. -/
def faultsFor (updater : Updater) (faults : FaultService) (now : Time) :
    List Fault × FaultService :=
  match faults.list now with
  | .ok found => found
  | .error _ => ((updater.last.map Built.faults).getD [], faults)

/-- Takes the state of the mesh and the faults into account. A state that has not been published yet
or that has no services changes nothing. -/
def update (updater : Updater) (mesh : Watched (Option MultiZone)) (faults : FaultService)
    (now : Time) : Updater × FaultService :=
  let updater := { updater with seenMesh := mesh.revision }
  match mesh.value with
  | none => (updater, faults)
  | some state =>
      if state.hasNoServices then (updater, faults)
      else
        let (active, faults) := updater.faultsFor faults now
        (({ updater with seenFaults := faults.revision }).tick state active, faults)

/-- Declares the first state loaded, and tells whether that is news. -/
def markReady (updater : Updater) : Bool × Updater := (!updater.ready, { updater with ready := true })

/-- What is held by the store and the versions. -/
def holdings (updater : Updater) : Holdings := updater.builder.holdings updater.store.holdings

def liveEntries (updater : Updater) : List Nat :=
  updater.builder.caches.liveEntries updater.holdings

def serializations (updater : Updater) : List Nat := updater.builder.caches.serializations

/-- The samples of all that is counted about snapshots. -/
def samples (updater : Updater) : List Sample :=
  let byKind (name : String) (values : List Nat) : List Sample :=
    List.zipWith (fun kind value => ⟨name, [("type", kind)], value⟩)
      ["clusters", "endpoints", "routes"] values
  let publications := [Publication.applied, .unchanged, .stale, .unsubscribed].filterMap fun outcome =>
    match updater.publications.count outcome with
    | 0 => none
    | n => some ⟨"publications_total", [("outcome", outcome.label)], n⟩
  publications ++ [⟨"ticks_total", [], updater.ticks⟩,
      ⟨"build_duration_seconds_count", [], updater.ticks⟩] ++
    byKind "resource_cache_entries" updater.liveEntries ++
    byKind "resource_cache_serializations_total" updater.serializations ++
    [⟨"consumer_groups", [], updater.store.channels.size⟩,
      ⟨"initial_state_loaded", [], updater.ready.toNat⟩]

end Updater

end ServiceMesh
