import Mathlib.Data.Set.List
import ServiceMesh.Proofs.Resource.Batches
import ServiceMesh.Proofs.Snapshot.VersionOrder
import ServiceMesh.Proofs.Snapshot.Workshop

/-! What builds that go on side by side come to, whoever's turn it is at any time. What is remembered
of a group when it gets new versions is still held by others, so that no step of a build frees a
collection that another one is about to find. -/
namespace ServiceMesh

/-- The wire forms of all collections of some groups are known. -/
structure ResourceCaches.Encoded (caches : ResourceCaches) (groups : List GroupVersions) : Prop where
  clusters : ∀ handle ∈ groups.map (·.clusters.handle),
    (caches.clusters.wire? handle).isSome = true
  endpoints : ∀ handle ∈ groups.map (·.endpoints.handle),
    (caches.endpoints.wire? handle).isSome = true
  routes : ∀ handle ∈ groups.map (·.routes.handle), (caches.routes.wire? handle).isSome = true

theorem ResourceCaches.Encoded.mono {caches : ResourceCaches} {groups others : List GroupVersions}
    (encoded : caches.Encoded groups) (fewer : others ⊆ groups) : caches.Encoded others :=
  ⟨fun handle member => encoded.clusters handle (List.map_subset _ fewer member),
    fun handle member => encoded.endpoints handle (List.map_subset _ fewer member),
    fun handle member => encoded.routes handle (List.map_subset _ fewer member)⟩

/-- A sweep has no part in the wire forms of what is held. -/
theorem ResourceCaches.Encoded.purge {caches : ResourceCaches} {groups : List GroupVersions}
    (encoded : caches.Encoded groups) (serves : caches.Serves groups) :
    (caches.purge (.ofGroups groups)).Encoded groups := by
  refine ⟨fun handle member => ?_, fun handle member => ?_, fun handle member => ?_⟩
  · exact (congrArg Option.isSome (serves.clusters.wire?_purge member)).trans
      (encoded.clusters handle member)
  · exact (congrArg Option.isSome (serves.endpoints.wire?_purge member)).trans
      (encoded.endpoints handle member)
  · exact (congrArg Option.isSome (serves.routes.wire?_purge member)).trans
      (encoded.routes handle member)

/-- A build is for its group, and holds what the group is to receive as far as it has come. -/
structure PendingBuild.Right (build : PendingBuild) (content : SnapshotContent) (generation : Nat) :
    Prop where
  clusters : ∀ handle, build.stage.clusters? = some handle → handle.resources = content.clusters
  endpoints : ∀ handle, build.stage.endpoints? = some handle → handle.resources = content.endpoints
  routes : ∀ handle, build.stage.routes? = some handle → handle.resources = content.routes
  snapshot : ∀ snapshot, build.stage.snapshot? = some snapshot →
    snapshot.group = build.group ∧ snapshot.generation = generation

namespace Workshop

/-- A workshop on some builder. Each cache stands behind a batch of collections, and the versions
behind the snapshots that are built. -/
structure Sound (before : SnapshotBuilder) (plan : BuildPlan) (workshop : Workshop) : Prop where
  config : workshop.builder.config = before.config
  distinct : (workshop.builds.map PendingBuild.group).Nodup
  clusters : ResourceCache.Batch before.caches.clusters (plan.others.map (·.clusters))
    workshop.builder.caches.clusters (workshop.builds.filterMap (·.stage.clusters?))
  endpoints : ResourceCache.Batch before.caches.endpoints (plan.others.map (·.endpoints))
    workshop.builder.caches.endpoints (workshop.builds.filterMap (·.stage.endpoints?))
  routes : ResourceCache.Batch before.caches.routes (plan.others.map (·.routes))
    workshop.builder.caches.routes (workshop.builds.filterMap (·.stage.routes?))
  right : ∀ build ∈ workshop.builds,
    build.Right (plan.target before.config build.group) plan.generation
  assigned : before.versions.Assigned workshop.builder.versions workshop.snapshots

variable {before builder : SnapshotBuilder} {plan : BuildPlan} {workshop : Workshop}
  {front back : List PendingBuild} {build : PendingBuild}

/-- What is held of a kind is what the builds have and what others hold: all that is remembered is
among that. -/
theorem Sound.mem_held (sound : workshop.Sound before plan)
    (covered : ∀ entry ∈ before.versions.byGroup.values,
      entry ∈ plan.others.map Snapshot.remembered)
    {α : Type} (view : GroupVersions → Handle α) (has : BuildStage → Option (Handle α))
    (ended : ∀ snapshot, has (.done snapshot) = some (view snapshot.remembered))
    (handle : Handle α) :
    handle ∈ plan.others.map (fun snapshot => view snapshot.remembered) ++
        (workshop.builds.filterMap fun build => has build.stage) ++
        workshop.builder.versions.byGroup.values.map view ↔
      handle ∈ (workshop.builds.filterMap fun build => has build.stage) ++
        plan.others.map (fun snapshot => view snapshot.remembered) := by
  have known (entry : GroupVersions)
      (listed : entry ∈ workshop.builder.versions.byGroup.values) :
      view entry ∈ (workshop.builds.filterMap fun build => has build.stage) ++
        plan.others.map (fun snapshot => view snapshot.remembered) := by
    obtain ⟨group, found⟩ := SortedMap.mem_values.mp listed
    by_cases built : group ∈ workshop.snapshots.map Snapshot.group
    · obtain ⟨snapshot, member, rfl⟩ := List.mem_map.mp built
      obtain ⟨build, pending, done⟩ := List.mem_filterMap.mp member
      rw [sound.assigned.remembered snapshot member] at found
      cases found
      refine List.mem_append_left _ (List.mem_filterMap.mpr ⟨build, pending, ?_⟩)
      cases stage : build.stage with
      | done other =>
          rw [stage] at done
          cases done
          exact ended snapshot
      | _ =>
          rw [stage] at done
          contradiction
    · rw [sound.assigned.alone group built] at found
      obtain ⟨snapshot, held, rfl⟩ :=
        List.mem_map.mp (covered entry (SortedMap.mem_values.mpr ⟨group, found⟩))
      exact List.mem_append_right _ (List.mem_map.mpr ⟨snapshot, held, rfl⟩)
  rw [List.mem_append, List.mem_append, List.mem_append]
  constructor
  · rintro ((other | own) | listed)
    · exact .inr other
    · exact .inl own
    · obtain ⟨entry, within, rfl⟩ := List.mem_map.mp listed
      exact List.mem_append.mp (known entry within)
  · rintro (own | other)
    · exact .inl (.inr own)
    · exact .inl (.inl other)

theorem holdings_eq (workshop : Workshop) (plan : BuildPlan) : workshop.holdings plan =
    ⟨(plan.others.map (·.clusters) ++ workshop.builds.filterMap (·.stage.clusters?) ++
        workshop.builder.versions.byGroup.values.map (·.clusters.handle)).map Handle.id,
      (plan.others.map (·.endpoints) ++ workshop.builds.filterMap (·.stage.endpoints?) ++
        workshop.builder.versions.byGroup.values.map (·.endpoints.handle)).map Handle.id,
      (plan.others.map (·.routes) ++ workshop.builds.filterMap (·.stage.routes?) ++
        workshop.builder.versions.byGroup.values.map (·.routes.handle)).map Handle.id⟩ := by
  simp only [List.map_append, List.map_map]
  rfl

/-- Of what a build does not have yet everything holds. -/
theorem not_yet {α : Type} {motive : α → Prop} (given : α) (nothing : none = some given) :
    motive given := by
  contradiction

/-- What a build has of a kind, behind a step by which it gets that. -/
theorem mem_filterMap_step {β : Type} {has : BuildStage → Option β} {group : ConsumerGroup}
    {stage next : BuildStage} {given : β} (none : has stage = none) (some : has next = some given)
    (x : β) :
    x ∈ (front ++ ⟨group, next⟩ :: back).filterMap (fun build => has build.stage) ↔
      x ∈ given :: (front ++ ⟨group, stage⟩ :: back).filterMap fun build => has build.stage := by
  simp only [List.filterMap_append, List.filterMap_cons, some, none, List.mem_append, List.mem_cons]
  exact or_left_comm

/-- What holds of what builds have of a kind still does behind a step that gives nothing of it. -/
theorem keeps_step {β : Type} {has : BuildStage → Option β} {group : ConsumerGroup}
    {stage next : BuildStage} (motive : List β → Prop)
    (holds : motive ((front ++ ⟨group, stage⟩ :: back).filterMap fun build => has build.stage))
    (same : has next = has stage) :
    motive ((front ++ ⟨group, next⟩ :: back).filterMap fun build => has build.stage) := by
  rw [List.filterMap_append, List.filterMap_cons] at holds ⊢
  rwa [same]

/-- The group of a build that is not over has no snapshot yet. -/
theorem Sound.unbuilt (sound : workshop.Sound before plan) (pending : build ∈ workshop.builds)
    (under : build.stage.snapshot? = none) :
    build.group ∉ workshop.snapshots.map Snapshot.group := by
  intro listed
  obtain ⟨snapshot, made, same⟩ := List.mem_map.mp listed
  obtain ⟨other, member, done⟩ := List.mem_filterMap.mp made
  have grouped := ((sound.right other member).snapshot snapshot done).1
  have itself := List.inj_on_of_nodup_map sound.distinct member pending (grouped.symm.trans same)
  rw [itself, under] at done
  contradiction

/-- A collection that is remembered is still held, so that an equal one has its handle. -/
theorem Sound.shared (sound : workshop.Sound before plan)
    (covered : ∀ entry ∈ before.versions.byGroup.values,
      entry ∈ plan.others.map Snapshot.remembered)
    (pending : build ∈ workshop.builds) {clusters : Handle Cluster}
    {endpoints : Handle LoadAssignment} {routes : Handle RouteConfiguration}
    (hasClusters : build.stage.clusters? = some clusters)
    (hasEndpoints : build.stage.endpoints? = some endpoints)
    (hasRoutes : build.stage.routes? = some routes) (previous : GroupVersions)
    (found : before.versions.byGroup.get? build.group = some previous) :
    (previous.clusters.handle.resources = clusters.resources →
        previous.clusters.handle = clusters) ∧
      (previous.endpoints.handle.resources = endpoints.resources →
        previous.endpoints.handle = endpoints) ∧
      (previous.routes.handle.resources = routes.resources → previous.routes.handle = routes) := by
  obtain ⟨snapshot, held, remembered⟩ :=
    List.mem_map.mp (covered previous (SortedMap.mem_values.mpr ⟨_, found⟩))
  rw [← remembered]
  refine ⟨sound.clusters.serves.shared _ ?_ _ ?_, sound.endpoints.serves.shared _ ?_ _ ?_,
    sound.routes.serves.shared _ ?_ _ ?_⟩
  · exact List.mem_append_right _ (List.mem_map.mpr ⟨snapshot, held, rfl⟩)
  · exact List.mem_append_left _ (List.mem_filterMap.mpr ⟨build, pending, hasClusters⟩)
  · exact List.mem_append_right _ (List.mem_map.mpr ⟨snapshot, held, rfl⟩)
  · exact List.mem_append_left _ (List.mem_filterMap.mpr ⟨build, pending, hasEndpoints⟩)
  · exact List.mem_append_right _ (List.mem_map.mpr ⟨snapshot, held, rfl⟩)
  · exact List.mem_append_left _ (List.mem_filterMap.mpr ⟨build, pending, hasRoutes⟩)

/-- Every step of every build keeps a workshop sound. -/
theorem Sound.advance
    (covered : ∀ entry ∈ before.versions.byGroup.values,
      entry ∈ plan.others.map Snapshot.remembered)
    (sound : (Workshop.mk builder (front ++ build :: back)).Sound before plan) :
    let held := (Workshop.mk builder (front ++ build :: back)).holdings plan
    let next := builder.advance plan held build
    (Workshop.mk next.2 (front ++ { build with stage := next.1 } :: back)).Sound before plan := by
  obtain ⟨group, stage⟩ := build
  intro held next
  have config : builder.config = before.config := sound.config
  have inPlace {stage' : BuildStage}
      (now : (PendingBuild.mk group stage').Right (plan.target before.config group)
        plan.generation) (other : PendingBuild)
      (member : other ∈ front ++ ⟨group, stage'⟩ :: back) :
      other.Right (plan.target before.config other.group) plan.generation := by
    rcases List.mem_append.mp member with earlier | later
    · exact sound.right other (List.mem_append_left _ earlier)
    · rcases List.mem_cons.mp later with rfl | later
      · exact now
      · exact sound.right other (List.mem_append_right _ (List.mem_cons_of_mem _ later))
  have distinct (stage' : BuildStage) :
      ((front ++ ⟨group, stage'⟩ :: back).map PendingBuild.group).Nodup := by
    simpa using sound.distinct
  have own := sound.right _ (List.mem_append_right _ List.mem_cons_self)
  cases stage with
  | waiting =>
      have batch := sound.clusters.serialize (sound.mem_held covered
        (fun entry => entry.clusters.handle) BuildStage.clusters? fun _ => rfl)
        (plan.target builder.config group).clusters
      rw [show next = builder.advance plan held ⟨group, .waiting⟩ from rfl, SnapshotBuilder.advance,
        show held = _ from holdings_eq _ _]
      refine ⟨config, distinct _, batch.congr (mem_filterMap_step rfl rfl),
        keeps_step (ResourceCache.Batch _ _ _) sound.endpoints rfl,
        keeps_step (ResourceCache.Batch _ _ _) sound.routes rfl,
        inPlace ⟨?_, not_yet, not_yet, not_yet⟩,
        keeps_step (SnapshotVersions.Assigned _ _) sound.assigned rfl⟩
      intro handle given
      rw [← Option.some.inj given, ResourceCache.serialize_resources, config]
  | hasClusters clusters =>
      have batch := sound.endpoints.serialize (sound.mem_held covered
        (fun entry => entry.endpoints.handle) BuildStage.endpoints? fun _ => rfl)
        (plan.target builder.config group).endpoints
      rw [show next = builder.advance plan held ⟨group, .hasClusters clusters⟩ from rfl,
        SnapshotBuilder.advance, show held = _ from holdings_eq _ _]
      refine ⟨config, distinct _, keeps_step (ResourceCache.Batch _ _ _) sound.clusters rfl,
        batch.congr (mem_filterMap_step rfl rfl),
        keeps_step (ResourceCache.Batch _ _ _) sound.routes rfl,
        inPlace ⟨own.clusters, ?_, not_yet, not_yet⟩,
        keeps_step (SnapshotVersions.Assigned _ _) sound.assigned rfl⟩
      intro handle given
      rw [← Option.some.inj given, ResourceCache.serialize_resources, config]
  | hasEndpoints clusters endpoints =>
      have batch := sound.routes.serialize (sound.mem_held covered
        (fun entry => entry.routes.handle) BuildStage.routes? fun _ => rfl)
        (plan.target builder.config group).routes
      rw [show next = builder.advance plan held ⟨group, .hasEndpoints clusters endpoints⟩ from rfl,
        SnapshotBuilder.advance, show held = _ from holdings_eq _ _]
      refine ⟨config, distinct _, keeps_step (ResourceCache.Batch _ _ _) sound.clusters rfl,
        keeps_step (ResourceCache.Batch _ _ _) sound.endpoints rfl,
        batch.congr (mem_filterMap_step rfl rfl),
        inPlace ⟨own.clusters, own.endpoints, ?_, not_yet⟩,
        keeps_step (SnapshotVersions.Assigned _ _) sound.assigned rfl⟩
      intro handle given
      rw [← Option.some.inj given, ResourceCache.serialize_resources, config]
  | hasRoutes clusters endpoints routes =>
      have pending : (⟨group, .hasRoutes clusters endpoints routes⟩ : PendingBuild) ∈
          front ++ ⟨group, .hasRoutes clusters endpoints routes⟩ :: back :=
        List.mem_append_right _ List.mem_cons_self
      have assigned := sound.assigned.assign (sound.unbuilt pending rfl)
        (sound.shared covered pending rfl rfl rfl) plan.generation
      refine ⟨config, distinct _, keeps_step (ResourceCache.Batch _ _ _) sound.clusters rfl,
        keeps_step (ResourceCache.Batch _ _ _) sound.endpoints rfl,
        keeps_step (ResourceCache.Batch _ _ _) sound.routes rfl,
        inPlace ⟨own.clusters, own.endpoints, own.routes, ?_⟩,
        assigned.congr (mem_filterMap_step rfl rfl)⟩
      intro snapshot given
      rw [← Option.some.inj given]
      exact ⟨rfl, rfl⟩
  | done snapshot => exact sound

theorem Sound.start {groups : List ConsumerGroup} (distinct : groups.Nodup)
    (serves : before.caches.Serves (plan.others.map Snapshot.remembered))
    (encoded : before.caches.Encoded (plan.others.map Snapshot.remembered)) :
    (Workshop.start before groups).Sound before plan := by
  have view {α : Type} (view : GroupVersions → Handle α) :
      (plan.others.map Snapshot.remembered).map view =
        plan.others.map fun snapshot => view snapshot.remembered := List.map_map
  obtain ⟨clusters, endpoints, routes⟩ := serves
  obtain ⟨clustersKnown, endpointsKnown, routesKnown⟩ := encoded
  rw [view] at clusters endpoints routes
  rw [view] at clustersKnown endpointsKnown routesKnown
  refine ⟨rfl, ?_, ?_, ?_, ?_, fun build member => ?_, ?_⟩
  · simpa [Workshop.start, untouched, Function.comp_def] using distinct
  · rw [Workshop.start, filterMap_untouched rfl]
    exact .start clusters clustersKnown
  · rw [Workshop.start, filterMap_untouched rfl]
    exact .start endpoints endpointsKnown
  · rw [Workshop.start, filterMap_untouched rfl]
    exact .start routes routesKnown
  · obtain ⟨group, -, rfl⟩ := List.mem_map.mp member
    exact ⟨not_yet, not_yet, not_yet, not_yet⟩
  · rw [snapshots, Workshop.start, filterMap_untouched rfl]
    exact .nil _

theorem Sound.run (sound : workshop.Sound before plan)
    (covered : ∀ entry ∈ before.versions.byGroup.values,
      entry ∈ plan.others.map Snapshot.remembered) (turns : List Nat) :
    (workshop.run plan turns).Sound before plan :=
  run_keeps (fun _ _ _ _ sound => sound.advance covered) sound turns

end Workshop

/-- What builds that are over come to: each group has a snapshot of what it is to receive, the caches
stand behind the batch of all that was built, and the versions were given out in some order. -/
structure SnapshotBuilder.BuildsSideBySide (before : SnapshotBuilder) (plan : BuildPlan)
    (groups : List ConsumerGroup) (made : List Snapshot) (after : SnapshotBuilder) : Prop where
  groups : made.map Snapshot.group = groups
  config : after.config = before.config
  right : ∀ snapshot ∈ made, snapshot.content = plan.target before.config snapshot.group ∧
    snapshot.generation = plan.generation
  clusters : ResourceCache.Batch before.caches.clusters (plan.others.map (·.clusters))
    after.caches.clusters (made.map (·.clusters))
  endpoints : ResourceCache.Batch before.caches.endpoints (plan.others.map (·.endpoints))
    after.caches.endpoints (made.map (·.endpoints))
  routes : ResourceCache.Batch before.caches.routes (plan.others.map (·.routes))
    after.caches.routes (made.map (·.routes))
  assigned : before.versions.Assigned after.versions made

theorem SnapshotBuilder.buildBy_builds {before : SnapshotBuilder} (plan : BuildPlan)
    (serves : before.caches.Serves (plan.others.map Snapshot.remembered))
    (encoded : before.caches.Encoded (plan.others.map Snapshot.remembered))
    (covered : ∀ entry ∈ before.versions.byGroup.values,
      entry ∈ plan.others.map Snapshot.remembered)
    {groups : List ConsumerGroup} (distinct : groups.Nodup) (turns : List Nat) :
    before.BuildsSideBySide plan groups (before.buildBy plan groups turns).1
      (before.buildBy plan groups turns).2 := by
  have sound := (Workshop.Sound.start distinct serves encoded).run covered
    (turns ++ Workshop.finishing groups.length)
  have done := Workshop.run_done plan before groups turns
  have named := Workshop.run_groups plan (Workshop.start before groups)
    (turns ++ Workshop.finishing groups.length)
  unfold buildBy
  dsimp only
  generalize (Workshop.start before groups).run plan _ = workshop at sound done named ⊢
  obtain ⟨after, builds⟩ := workshop
  -- Every build is over, so that the builds are told by their snapshots.
  obtain ⟨made, rfl⟩ : builds ∈ Set.range (List.map Workshop.finished) := by
    rw [Set.range_list_map]
    intro build member
    obtain ⟨snapshot, ended⟩ := done build member
    obtain ⟨grouped, -⟩ := (sound.right build member).snapshot snapshot (by rw [ended]; rfl)
    refine ⟨snapshot, ?_⟩
    rw [Workshop.finished, grouped, ← ended]
  obtain ⟨config, -, clusters, endpoints, routes, right, assigned⟩ := sound
  rw [Workshop.snapshots_finished] at assigned ⊢
  refine ⟨?_, config, fun snapshot member => ?_, ?_, ?_, ?_, assigned⟩
  · simpa [Workshop.finished, Workshop.start, Workshop.untouched, Function.comp_def] using named
  · have own := right _ (List.mem_map_of_mem member)
    refine ⟨?_, (own.snapshot snapshot rfl).2⟩
    rw [Snapshot.content, own.clusters _ rfl, own.endpoints _ rfl, own.routes _ rfl]
    rfl
  · rwa [Workshop.filterMap_finished BuildStage.clusters? fun _ => rfl] at clusters
  · rwa [Workshop.filterMap_finished BuildStage.endpoints? fun _ => rfl] at endpoints
  · rwa [Workshop.filterMap_finished BuildStage.routes? fun _ => rfl] at routes

namespace SnapshotBuilder.BuildsSideBySide

variable {before after : SnapshotBuilder} {plan : BuildPlan} {groups : List ConsumerGroup}
  {made : List Snapshot}

theorem handles_eq {α : Type} (snapshots others : List Snapshot) (view : GroupVersions → Handle α) :
    ((snapshots ++ others).map Snapshot.remembered).map view =
      (snapshots.map fun snapshot => view snapshot.remembered) ++
        others.map fun snapshot => view snapshot.remembered := by
  rw [List.map_map, List.map_append]
  rfl

theorem serves (builds : before.BuildsSideBySide plan groups made after) :
    after.caches.Serves ((made ++ plan.others).map Snapshot.remembered) := by
  refine ⟨?_, ?_, ?_⟩
  · rw [handles_eq]
    exact builds.clusters.serves
  · rw [handles_eq]
    exact builds.endpoints.serves
  · rw [handles_eq]
    exact builds.routes.serves

theorem encoded (builds : before.BuildsSideBySide plan groups made after) :
    after.caches.Encoded ((made ++ plan.others).map Snapshot.remembered) := by
  refine ⟨?_, ?_, ?_⟩
  · rw [handles_eq]
    exact builds.clusters.encoded
  · rw [handles_eq]
    exact builds.endpoints.encoded
  · rw [handles_eq]
    exact builds.routes.encoded

/-- The contents that are built are those that the groups are to receive. -/
theorem map_content (builds : before.BuildsSideBySide plan groups made after) {β : Type}
    (f : ConsumerGroup → SnapshotContent → β) :
    made.map (fun snapshot => f snapshot.group snapshot.content) =
      groups.map fun group => f group (plan.target before.config group) := by
  rw [← builds.groups, List.map_map]
  refine List.map_congr_left fun snapshot member => ?_
  rw [(builds.right snapshot member).1]
  rfl

/-- Which groups get fresh versions, and for what, is not a matter of the order. -/
theorem mem_order (builds : before.BuildsSideBySide plan groups made after)
    {order : List (ConsumerGroup × ResourceKind)}
    (inOrder : IssuedInOrder before.versions order made after.versions.issued)
    (pair : ConsumerGroup × ResourceKind) :
    pair ∈ order ↔ pair.1 ∈ groups ∧ pair.2 ∈
      freshKinds (before.versions.shown? pair.1) (plan.target before.config pair.1) := by
  rw [← Prod.mk.eta (p := pair), inOrder.listed, ← builds.groups, List.mem_map]
  constructor
  · rintro ⟨snapshot, member, same, fresh⟩
    rw [(builds.right snapshot member).1, same] at fresh
    exact ⟨⟨snapshot, member, same⟩, fresh⟩
  · rintro ⟨⟨snapshot, member, same⟩, fresh⟩
    refine ⟨snapshot, member, same, ?_⟩
    rw [(builds.right snapshot member).1, same]
    exact fresh

/-- The same content keeps its versions. -/
theorem versions_eq (builds : before.BuildsSideBySide plan groups made after) {snapshot : Snapshot}
    (member : snapshot ∈ made) {versions : Versions}
    (shown : before.versions.shown? snapshot.group = some (versions, snapshot.content)) :
    versions = snapshot.versions := by
  obtain ⟨order, inOrder⟩ := builds.assigned.ordered
  refine Versions.ext_of fun kind => ?_
  have unlisted : (snapshot.group, kind) ∉ order := by
    rw [builds.mem_order inOrder, mem_freshKinds, ← (builds.right snapshot member).1]
    rintro ⟨-, differs⟩
    exact differs versions snapshot.content shown (.refl _ _)
  obtain ⟨_, _, known, -, kept⟩ := inOrder.kept snapshot member kind unlisted
  rw [shown] at known
  cases known
  exact kept.symm

end SnapshotBuilder.BuildsSideBySide

end ServiceMesh
