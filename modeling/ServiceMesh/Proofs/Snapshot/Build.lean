import ServiceMesh.Proofs.Resource.Interning
import ServiceMesh.Proofs.Snapshot.Store

/-! What building a snapshot comes to, apart from the handles under which its collections are shared:
its resources are those of the group, and its versions follow from what the group had before. -/
namespace ServiceMesh

/-- What can be seen of the collections of a group: their versions and their resources. -/
def GroupVersions.shown (group : GroupVersions) : Versions × SnapshotContent :=
  (group.current, ⟨group.clusters.handle.resources, group.endpoints.handle.resources,
    group.routes.handle.resources⟩)

/-- The version of a collection behind its next content, and how many are issued then. -/
def nextVersion {α : Type} [DecidableEq α] (version : String) (before after : List α)
    (issued : Nat) : String × Nat :=
  if before = after then (version, issued) else (versionText (issued + 1), issued + 1)

/-- The versions of a group for its next content, and how many are issued then. -/
def nextVersions (shown : Option (Versions × SnapshotContent)) (issued : Nat)
    (content : SnapshotContent) : Versions × Nat :=
  match shown with
  | none =>
      (⟨versionText (issued + 1), versionText (issued + 2), versionText (issued + 3)⟩, issued + 3)
  | some (versions, before) =>
      let (clusters, issued) := nextVersion versions.clusters before.clusters content.clusters issued
      let (endpoints, issued) :=
        nextVersion versions.endpoints before.endpoints content.endpoints issued
      let (routes, issued) := nextVersion versions.routes before.routes content.routes issued
      (⟨clusters, endpoints, routes⟩, issued)

/-- The same content keeps its versions. -/
theorem nextVersions_same (versions : Versions) (content : SnapshotContent) (issued : Nat) :
    nextVersions (some (versions, content)) issued content = (versions, issued) := by
  simp [nextVersions, nextVersion]

theorem Versioned.update_shown {α : Type} [DecidableEq α] (current : Versioned α) (issued : Nat)
    (handle : Handle α) :
    (current.update issued handle).1.handle.resources = handle.resources ∧
      ((current.update issued handle).1.version, (current.update issued handle).2) =
        nextVersion current.version current.handle.resources handle.resources issued := by
  unfold Versioned.update nextVersion
  split
  case isTrue same => exact ⟨same, rfl⟩
  case isFalse => exact ⟨rfl, rfl⟩

namespace SnapshotVersions

/-- What can be seen of the collections of a group, if it has any. -/
def shown? (versions : SnapshotVersions) (group : ConsumerGroup) :
    Option (Versions × SnapshotContent) :=
  (versions.byGroup.get? group).map GroupVersions.shown

theorem assign_shown (versions : SnapshotVersions) (group : ConsumerGroup)
    (clusters : Handle Cluster) (endpoints : Handle LoadAssignment)
    (routes : Handle RouteConfiguration) :
    let content : SnapshotContent := ⟨clusters.resources, endpoints.resources, routes.resources⟩
    let next := nextVersions (versions.shown? group) versions.issued content
    let assigned := versions.assign group clusters endpoints routes
    assigned.1 = next.1 ∧ assigned.2.issued = next.2 ∧
      ∀ other, assigned.2.shown? other =
        if group = other then some (next.1, content) else versions.shown? other := by
  intro content next assigned
  have placed (stored : GroupVersions) (other : ConsumerGroup) :
      ((versions.byGroup.insert group stored).get? other).map GroupVersions.shown =
        if group = other then some stored.shown else versions.shown? other := by
    rw [SortedMap.get?_insert]
    split <;> rfl
  cases found : versions.byGroup.get? group with
  | none =>
      have unseen : versions.shown? group = none := by rw [shown?, found, Option.map_none]
      have given : next = nextVersions none versions.issued content := by rw [← unseen]
      simp only [assigned, assign, found, given]
      exact ⟨rfl, rfl, placed _⟩
  | some previous =>
      have seen : versions.shown? group = some previous.shown := by
        rw [shown?, found, Option.map_some]
      have given : next = nextVersions (some previous.shown) versions.issued content := by
        rw [← seen]
      obtain ⟨clustersKept, clustersNamed⟩ :=
        previous.clusters.update_shown versions.issued clusters
      obtain ⟨endpointsKept, endpointsNamed⟩ := previous.endpoints.update_shown
        (previous.clusters.update versions.issued clusters).2 endpoints
      obtain ⟨routesKept, routesNamed⟩ := previous.routes.update_shown
        (previous.endpoints.update (previous.clusters.update versions.issued clusters).2
          endpoints).2 routes
      simp only [GroupVersions.shown, GroupVersions.current, nextVersions, content,
        ← clustersNamed, ← endpointsNamed, ← routesNamed] at given
      simp only [assigned, assign, found, given]
      refine ⟨rfl, trivial, fun other => ?_⟩
      have same := placed ⟨(previous.clusters.update versions.issued clusters).1,
        (previous.endpoints.update (previous.clusters.update versions.issued clusters).2
          endpoints).1,
        (previous.routes.update (previous.endpoints.update
          (previous.clusters.update versions.issued clusters).2 endpoints).2 routes).1⟩ other
      rw [GroupVersions.shown, clustersKept, endpointsKept, routesKept] at same
      exact same

end SnapshotVersions

namespace SnapshotBuilder

/-- What the building of a group's snapshot out of some content comes to. -/
structure Builds (before : SnapshotBuilder) (group : ConsumerGroup) (content : SnapshotContent)
    (generation : Nat) (snapshot : Snapshot) (after : SnapshotBuilder) : Prop where
  own : snapshot.group = group
  dated : snapshot.generation = generation
  made : snapshot.content = content
  versions : snapshot.versions =
    (nextVersions (before.versions.shown? group) before.versions.issued content).1
  issued : after.versions.issued =
    (nextVersions (before.versions.shown? group) before.versions.issued content).2
  shown : ∀ other, after.versions.shown? other =
    if group = other then some (snapshot.versions, content) else before.versions.shown? other
  config : after.config = before.config

variable {before builder after : SnapshotBuilder} {outside : Holdings} {group : ConsumerGroup}
  {global : GlobalSnapshot} {faults : List Fault} {generation : Nat} {snapshot : Snapshot}
  {content : SnapshotContent}

theorem build_builds (builder : SnapshotBuilder) (outside : Holdings) (group : ConsumerGroup)
    (global : GlobalSnapshot) (faults : List Fault) (generation : Nat) :
    builder.Builds group (builder.config.content group global faults) generation
      (builder.build outside group global faults generation).1
      (builder.build outside group global faults generation).2 := by
  have clusters := ResourceCache.serialize_resources builder.caches.clusters
    (builder.holdings outside).clusters (builder.config.content group global faults).clusters
  have endpoints := ResourceCache.serialize_resources builder.caches.endpoints
    (builder.holdings outside).endpoints (builder.config.content group global faults).endpoints
  have routes := ResourceCache.serialize_resources builder.caches.routes
    (builder.holdings outside).routes (builder.config.content group global faults).routes
  unfold build
  dsimp only
  generalize builder.caches.clusters.serialize _ _ = shared at clusters ⊢
  obtain ⟨clusterHandle, clusterCache⟩ := shared
  generalize builder.caches.endpoints.serialize _ _ = shared at endpoints ⊢
  obtain ⟨endpointHandle, endpointCache⟩ := shared
  generalize builder.caches.routes.serialize _ _ = shared at routes ⊢
  obtain ⟨routeHandle, routeCache⟩ := shared
  dsimp only at clusters endpoints routes ⊢
  have assigned := builder.versions.assign_shown group clusterHandle endpointHandle routeHandle
  generalize builder.versions.assign group _ _ _ = given at assigned ⊢
  obtain ⟨versions, assignedVersions⟩ := given
  dsimp only at assigned ⊢
  rw [clusters, endpoints, routes] at assigned
  obtain ⟨named, issued, shown⟩ := assigned
  refine ⟨rfl, rfl, ?_, named, issued, fun other => ?_, rfl⟩
  · rw [Snapshot.content, clusters, endpoints, routes]
  · rw [named]
    exact shown other

/-- A group that shows the wanted content keeps all it shows. -/
theorem Builds.idle (builds : before.Builds group content generation snapshot after)
    {versions : Versions} (right : before.versions.shown? group = some (versions, content)) :
    snapshot.versions = versions ∧ after.versions.issued = before.versions.issued ∧
      ∀ other, after.versions.shown? other = before.versions.shown? other := by
  have kept := nextVersions_same versions content before.versions.issued
  have versioned : snapshot.versions = versions := by rw [builds.versions, right, kept]
  refine ⟨versioned, by rw [builds.issued, right, kept], fun other => ?_⟩
  rw [builds.shown, versioned]
  split
  case isTrue same => rw [← same, right]
  case isFalse => rfl

/-- What the building of several snapshots comes to. -/
inductive BuildsAll (target : ConsumerGroup → SnapshotContent) (generation : Nat) :
    SnapshotBuilder → List ConsumerGroup → List Snapshot → SnapshotBuilder → Prop
  | nil (builder : SnapshotBuilder) : BuildsAll target generation builder [] [] builder
  | cons {before next after : SnapshotBuilder} {group : ConsumerGroup} {snapshot : Snapshot}
      {groups : List ConsumerGroup} {snapshots : List Snapshot} :
      before.Builds group (target group) generation snapshot next →
      BuildsAll target generation next groups snapshots after →
      BuildsAll target generation before (group :: groups) (snapshot :: snapshots) after

theorem buildAll_buildsAll (builder : SnapshotBuilder) (outside : Holdings)
    (groups : List ConsumerGroup) (global : GlobalSnapshot) (faults : List Fault)
    (generation : Nat) :
    BuildsAll (fun group => builder.config.content group global faults) generation builder groups
      (builder.buildAll outside groups global faults generation).1
      (builder.buildAll outside groups global faults generation).2 := by
  -- The fold collects what is built behind what was built before.
  have collects (built : List Snapshot) (builder : SnapshotBuilder) :
      ∃ news after, groups.foldl (fun done group =>
          let next := done.2.build (outside ++ .ofSnapshots done.1) group global faults generation
          (done.1 ++ [next.1], next.2)) (built, builder) = (built ++ news, after) ∧
        BuildsAll (fun group => builder.config.content group global faults) generation builder
          groups news after := by
    induction groups generalizing built builder with
    | nil => exact ⟨[], builder, by simp, .nil builder⟩
    | cons group rest ih =>
        have builds := build_builds builder (outside ++ .ofSnapshots built) group global faults
          generation
        obtain ⟨news, after, folded, later⟩ := ih
          (built ++ [(builder.build (outside ++ .ofSnapshots built) group global faults
            generation).1])
          (builder.build (outside ++ .ofSnapshots built) group global faults generation).2
        rw [builds.config] at later
        refine ⟨_ :: news, after, ?_, .cons builds later⟩
        rw [List.foldl_cons, folded, List.append_assoc]
        rfl
  obtain ⟨news, after, folded, builds⟩ := collects [] builder
  have whole : builder.buildAll outside groups global faults generation = (news, after) := folded
  rw [whole]
  exact builds

namespace BuildsAll

variable {target : ConsumerGroup → SnapshotContent} {groups : List ConsumerGroup}
  {snapshots : List Snapshot}

theorem groups_eq (builds : BuildsAll target generation before groups snapshots after) :
    snapshots.map Snapshot.group = groups := by
  induction builds with
  | nil => rfl
  | cons first _ ih => rw [List.map_cons, first.own, ih]

theorem config_eq (builds : BuildsAll target generation before groups snapshots after) :
    after.config = before.config := by
  induction builds with
  | nil => rfl
  | cons first _ ih => rw [ih, first.config]

/-- What shows the wanted content already is not touched. -/
theorem shown_kept (builds : BuildsAll target generation before groups snapshots after)
    {group : ConsumerGroup} {versions : Versions}
    (right : before.versions.shown? group = some (versions, target group)) :
    after.versions.shown? group = some (versions, target group) := by
  induction builds with
  | nil => exact right
  | @cons before next after built snapshot groups snapshots first _ ih =>
      refine ih ?_
      by_cases same : built = group
      · subst same
        rw [(first.idle right).2.2, right]
      · rw [first.shown, if_neg same, right]

theorem mem (builds : BuildsAll target generation before groups snapshots after)
    {snapshot : Snapshot} (member : snapshot ∈ snapshots) :
    snapshot.generation = generation ∧ snapshot.content = target snapshot.group ∧
      after.versions.shown? snapshot.group = some (snapshot.versions, target snapshot.group) := by
  induction builds with
  | nil => contradiction
  | cons first later ih =>
      rcases List.mem_cons.mp member with rfl | member
      · refine ⟨first.dated, by rw [first.made, first.own], later.shown_kept ?_⟩
        rw [first.shown, first.own, if_pos rfl]
      · exact ih member

end BuildsAll

end SnapshotBuilder

end ServiceMesh
