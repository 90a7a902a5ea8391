import Mathlib.Data.List.Induction
import Mathlib.Tactic.Set
import ServiceMesh.Proofs.Resource.Interning
import ServiceMesh.Proofs.Snapshot.Publishing

/-! What a builder remembers of the groups it built for. Since it holds on to the collections it
built last, an equal collection gets the same handle again, and what is remembered of a group is
its last snapshot, handles included. -/
namespace ServiceMesh

/-- What is remembered of a group by its snapshot. -/
def Snapshot.remembered (snapshot : Snapshot) : GroupVersions where
  clusters := ⟨snapshot.versions.clusters, snapshot.clusters⟩
  endpoints := ⟨snapshot.versions.endpoints, snapshot.endpoints⟩
  routes := ⟨snapshot.versions.routes, snapshot.routes⟩

/-- What is held by those who hold the collections of some groups. -/
def Holdings.ofGroups (groups : List GroupVersions) : Holdings where
  clusters := (groups.map (·.clusters.handle)).map Handle.id
  endpoints := (groups.map (·.endpoints.handle)).map Handle.id
  routes := (groups.map (·.routes.handle)).map Handle.id

theorem Holdings.ofGroups_append (groups others : List GroupVersions) :
    ofGroups (groups ++ others) = ofGroups groups ++ ofGroups others := by
  simp only [ofGroups, List.map_append]
  rfl

theorem Holdings.ofSnapshots_eq (snapshots : List Snapshot) :
    ofSnapshots snapshots = ofGroups (snapshots.map Snapshot.remembered) := by
  simp only [ofSnapshots, ofGroups, List.map_map]
  rfl

theorem SnapshotVersions.holdings_eq (versions : SnapshotVersions) :
    versions.holdings = .ofGroups versions.byGroup.values := by
  simp only [holdings, Holdings.ofGroups, List.map_map]
  rfl

/-- The caches serve those who hold the collections of some groups. -/
structure ResourceCaches.Serves (caches : ResourceCaches) (groups : List GroupVersions) : Prop where
  clusters : caches.clusters.Serves (groups.map (·.clusters.handle))
  endpoints : caches.endpoints.Serves (groups.map (·.endpoints.handle))
  routes : caches.routes.Serves (groups.map (·.routes.handle))

/-- The caches keep no collection but those of some groups. -/
structure ResourceCaches.Keep (caches : ResourceCaches) (groups : List GroupVersions) : Prop where
  clusters : ∀ slot ∈ caches.clusters.slots, slot.handle ∈ groups.map (·.clusters.handle)
  endpoints : ∀ slot ∈ caches.endpoints.slots, slot.handle ∈ groups.map (·.endpoints.handle)
  routes : ∀ slot ∈ caches.routes.slots, slot.handle ∈ groups.map (·.routes.handle)

theorem ResourceCaches.Keep.mono {caches : ResourceCaches} {groups others : List GroupVersions}
    (keep : caches.Keep groups) (more : groups ⊆ others) : caches.Keep others :=
  ⟨fun slot member => List.map_subset _ more (keep.clusters slot member),
    fun slot member => List.map_subset _ more (keep.endpoints slot member),
    fun slot member => List.map_subset _ more (keep.routes slot member)⟩

namespace ResourceCaches.Serves

variable {caches : ResourceCaches} {groups others : List GroupVersions}

theorem start : ResourceCaches.start.Serves [] := ⟨.empty hash, .empty hash, .empty hash⟩

theorem mono (serves : caches.Serves groups) (fewer : others ⊆ groups) : caches.Serves others :=
  ⟨serves.clusters.mono (List.map_subset _ fewer), serves.endpoints.mono (List.map_subset _ fewer),
    serves.routes.mono (List.map_subset _ fewer)⟩

theorem purge (serves : caches.Serves groups) : (caches.purge (.ofGroups groups)).Serves groups :=
  ⟨serves.clusters.purge, serves.endpoints.purge, serves.routes.purge⟩

/-- A sweep leaves nothing that nobody holds. -/
theorem keep_purge (serves : caches.Serves groups) :
    (caches.purge (.ofGroups groups)).Keep groups := by
  have held {α : Type} [Resource α] {cache : ResourceCache α} {handles : List (Handle α)}
      (serves : cache.Serves handles) (slot : Slot α)
      (left : slot ∈ (cache.purge (handles.map Handle.id)).slots) : slot.handle ∈ handles :=
    serves.handle_mem (ResourceCache.mem_purge.mp left).1 (ResourceCache.mem_purge.mp left).2
  exact ⟨held serves.clusters, held serves.endpoints, held serves.routes⟩

/-- As many collections are alive as there are distinct ones in the snapshots that are held. -/
theorem liveEntries_eq (serves : caches.Serves groups) {snapshots : List Snapshot}
    (same : ∀ entry, entry ∈ groups ↔ entry ∈ snapshots.map Snapshot.remembered) :
    caches.liveEntries (.ofGroups groups) =
      [(snapshots.map (·.clusters.resources)).dedup.length,
        (snapshots.map (·.endpoints.resources)).dedup.length,
        (snapshots.map (·.routes.resources)).dedup.length] := by
  have count {α : Type} [DecidableEq α] [Resource α] {cache : ResourceCache α}
      {handle : GroupVersions → Handle α} (serves : cache.Serves (groups.map handle)) :
      cache.liveEntries ((groups.map handle).map Handle.id) =
        (snapshots.map fun snapshot => (handle snapshot.remembered).resources).dedup.length := by
    rw [serves.liveEntries_eq]
    refine ((List.perm_ext_iff_of_nodup (List.nodup_dedup _) (List.nodup_dedup _)).mpr
      fun resources => ?_).length_eq
    simp only [List.mem_dedup, List.mem_map, same, exists_exists_and_eq_and]
  rw [liveEntries]
  exact congrArg₂ _ (count serves.clusters)
    (congrArg₂ _ (count serves.endpoints) (congrArg₂ _ (count serves.routes) rfl))

end ResourceCaches.Serves

/-- An equal collection is taken over under the handle it comes with, if it has no other. -/
theorem Versioned.update_handle {α : Type} [DecidableEq α] {current : Versioned α}
    {handle : Handle α} (shared : current.handle.resources = handle.resources →
      current.handle = handle) (issued : Nat) :
    (current.update issued handle).1 = ⟨(current.update issued handle).1.version, handle⟩ := by
  unfold Versioned.update
  split
  case isTrue same =>
    rw [← shared same]
  case isFalse => rfl

/-- What is remembered of a group are the versions it is assigned and the handles they are for. -/
theorem SnapshotVersions.assign_byGroup (versions : SnapshotVersions) (group : ConsumerGroup)
    {clusters : Handle Cluster} {endpoints : Handle LoadAssignment}
    {routes : Handle RouteConfiguration}
    (shared : ∀ previous, versions.byGroup.get? group = some previous →
      (previous.clusters.handle.resources = clusters.resources →
        previous.clusters.handle = clusters) ∧
      (previous.endpoints.handle.resources = endpoints.resources →
        previous.endpoints.handle = endpoints) ∧
      (previous.routes.handle.resources = routes.resources → previous.routes.handle = routes)) :
    let assigned := versions.assign group clusters endpoints routes
    assigned.2.byGroup = versions.byGroup.insert group
      ⟨⟨assigned.1.clusters, clusters⟩, ⟨assigned.1.endpoints, endpoints⟩,
        ⟨assigned.1.routes, routes⟩⟩ := by
  intro assigned
  cases found : versions.byGroup.get? group with
  | none =>
      simp only [assigned, assign, found]
      rfl
  | some previous =>
      obtain ⟨ofClusters, ofEndpoints, ofRoutes⟩ := shared previous found
      simp only [assigned, assign, found, GroupVersions.current]
      rw [← Versioned.update_handle ofClusters, ← Versioned.update_handle ofEndpoints,
        ← Versioned.update_handle ofRoutes]

namespace SnapshotBuilder

variable {builder : SnapshotBuilder} {others : List GroupVersions}

theorem holdings_eq (builder : SnapshotBuilder) (others : List GroupVersions) :
    builder.holdings (.ofGroups others) = .ofGroups (others ++ builder.versions.byGroup.values) := by
  rw [holdings, SnapshotVersions.holdings_eq, Holdings.ofGroups_append]

/-- Building a snapshot remembers it. -/
theorem build_remembers
    (serves : builder.caches.Serves (others ++ builder.versions.byGroup.values))
    (group : ConsumerGroup) (global : GlobalSnapshot) (faults : List Fault) (generation : Nat) :
    let made := builder.build (.ofGroups others) group global faults generation
    made.2.versions.byGroup = builder.versions.byGroup.insert group made.1.remembered ∧
      made.2.caches.Serves
        (made.1.remembered :: (others ++ builder.versions.byGroup.values)) := by
  intro made
  set content := builder.config.content group global faults with isContent
  have clusters := serves.clusters.serialize content.clusters
  have endpoints := serves.endpoints.serialize content.endpoints
  have routes := serves.routes.serialize content.routes
  have held (previous : GroupVersions)
      (found : builder.versions.byGroup.get? group = some previous) :
      previous ∈ others ++ builder.versions.byGroup.values :=
    List.mem_append_right _ (SortedMap.mem_values.mpr ⟨group, found⟩)
  refine ⟨?_, ?_⟩
  · have assigned := builder.versions.assign_byGroup group
      fun previous found => ⟨
        clusters.shared _ (List.mem_cons_of_mem _ (List.mem_map_of_mem (held previous found))) _
          List.mem_cons_self,
        endpoints.shared _ (List.mem_cons_of_mem _ (List.mem_map_of_mem (held previous found))) _
          List.mem_cons_self,
        routes.shared _ (List.mem_cons_of_mem _ (List.mem_map_of_mem (held previous found))) _
          List.mem_cons_self⟩
    simp only [made, build, holdings_eq]
    exact assigned
  · simp only [made, build, holdings_eq]
    exact ⟨clusters, endpoints, routes⟩

theorem buildAll_snoc (builder : SnapshotBuilder) (outside : Holdings)
    (groups : List ConsumerGroup) (group : ConsumerGroup) (global : GlobalSnapshot)
    (faults : List Fault) (generation : Nat) :
    let made := builder.buildAll outside groups global faults generation
    let next := made.2.build (outside ++ .ofSnapshots made.1) group global faults generation
    builder.buildAll outside (groups ++ [group]) global faults generation =
      (made.1 ++ [next.1], next.2) := by
  intro made next
  simp only [buildAll, List.foldl_append, List.foldl_cons, List.foldl_nil, made, next]

/-- Building the snapshots of some groups remembers each of them, and leaves the others alone. -/
theorem buildAll_remembers
    (serves : builder.caches.Serves (others ++ builder.versions.byGroup.values))
    {groups : List ConsumerGroup} (distinct : groups.Nodup) (global : GlobalSnapshot)
    (faults : List Fault) (generation : Nat) :
    let made := builder.buildAll (.ofGroups others) groups global faults generation
    made.2.caches.Serves
        (others ++ made.1.map Snapshot.remembered ++ made.2.versions.byGroup.values) ∧
      (∀ snapshot ∈ made.1,
        made.2.versions.byGroup.get? snapshot.group = some snapshot.remembered) ∧
      ∀ group, group ∉ groups →
        made.2.versions.byGroup.get? group = builder.versions.byGroup.get? group := by
  induction groups using List.reverseRecOn with
  | nil =>
      refine ⟨?_, fun snapshot member => absurd member List.not_mem_nil, fun group _ => rfl⟩
      rwa [show builder.buildAll _ [] global faults generation = ([], builder) from rfl,
        List.map_nil, List.append_nil]
  | append_singleton groups group ih =>
      obtain ⟨earlier, -, apart⟩ := List.nodup_append.mp distinct
      obtain ⟨served, remembered, alone⟩ := ih earlier
      have built := (buildAll_buildsAll builder (.ofGroups others) groups global faults
        generation).groups_eq
      rw [buildAll_snoc]
      set made := builder.buildAll (.ofGroups others) groups global faults generation with isMade
      rw [Holdings.ofSnapshots_eq, ← Holdings.ofGroups_append]
      set next := made.2.build (.ofGroups (others ++ made.1.map Snapshot.remembered)) group global
        faults generation with isNext
      have own : next.1.group = group := (build_builds _ _ _ _ _ _).own
      obtain ⟨inserted, serves⟩ := build_remembers served group global faults generation
      rw [← isNext] at inserted serves
      dsimp only
      refine ⟨serves.mono fun entry member => ?_, fun snapshot member => ?_, fun other fresh => ?_⟩
      · rw [List.map_append, List.map_singleton, inserted] at member
        rcases List.mem_append.mp member with member | listed
        · rw [← List.append_assoc] at member
          rcases List.mem_append.mp member with held | latest
          · exact List.mem_cons_of_mem _ (List.mem_append_left _ held)
          · exact List.mem_singleton.mp latest ▸ List.mem_cons_self
        · rcases List.mem_cons.mp (SortedMap.values_insert_subset _ _ _ listed) with latest | before
          · exact List.mem_cons.mpr (.inl latest)
          · exact List.mem_cons_of_mem _ (List.mem_append_right _ before)
      · rw [inserted, SortedMap.get?_insert]
        rcases List.mem_append.mp member with before | latest
        · have named : snapshot.group ∈ groups := built ▸ List.mem_map_of_mem before
          rw [if_neg, remembered snapshot before]
          exact fun same => apart snapshot.group named group List.mem_cons_self same.symm
        · rw [List.mem_singleton.mp latest, own, if_pos rfl]
      · obtain ⟨unbuilt, different⟩ := not_or.mp (mt List.mem_append.mpr fresh)
        rw [inserted, SortedMap.get?_insert, if_neg, alone other unbuilt]
        exact fun same => different (List.mem_singleton.mpr same.symm)

end SnapshotBuilder

end ServiceMesh
