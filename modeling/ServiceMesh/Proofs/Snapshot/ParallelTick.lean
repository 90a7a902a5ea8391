import ServiceMesh.Proofs.Snapshot.Coupling
import ServiceMesh.Proofs.Snapshot.ParallelBuilds

/-! A tick that builds the snapshots of its groups side by side, while others may hold snapshots that
they took before. What it leaves behind is told from what was there before, whoever's turn it was. -/
namespace ServiceMesh

/-- How many of some contents bring a collection that nobody holds, kind by kind. Equal collections
count once. -/
def ResourceCaches.missing (caches : ResourceCaches) (held : Holdings)
    (contents : List SnapshotContent) : List Nat :=
  [((contents.map (·.clusters)).toFinset \ caches.clusters.alive held.clusters).card,
    ((contents.map (·.endpoints)).toFinset \ caches.endpoints.alive held.endpoints).card,
    ((contents.map (·.routes)).toFinset \ caches.routes.alive held.routes).card]

namespace Updater

/-- A tick begins by dropping the groups that nobody follows. -/
def pruned (updater : Updater) : Updater :=
  { updater with
    store := updater.store.prune
    builder := updater.builder.retain updater.store.prune.groups
    generation := updater.generation + 1 }

/-- The groups that a tick builds for. -/
def stale (updater : Updater) (mesh : MultiZone) (faults : List Fault) : List ConsumerGroup :=
  updater.pruned.store.groups.toList.filter (needsRebuild updater.pruned.store
    (updater.changedServices mesh) (updater.haveFaultsChanged faults))

def planFor (updater : Updater) (taken : List Snapshot) (mesh : MultiZone) (faults : List Fault) :
    BuildPlan :=
  ⟨updater.pruned.store.snapshots ++ taken, updater.globalFor mesh, faults,
    updater.pruned.generation⟩

/-- A tick whose builds take turns, while others hold the snapshots in `taken`. -/
def tickBy (updater : Updater) (taken : List Snapshot) (turns : List Nat) (mesh : MultiZone)
    (faults : List Fault) : Updater :=
  let pruned := updater.pruned
  let (built, builder) := pruned.builder.buildBy (updater.planFor taken mesh faults)
    (updater.stale mesh faults) turns
  let (outcomes, store) := pruned.store.publishAll built
  { pruned with
    builder := builder.purge (store.holdings ++ .ofSnapshots taken)
    store := store
    last := some ⟨mesh, updater.globalFor mesh, faults⟩
    ready := true
    ticks := updater.ticks + 1
    publications := updater.publications ++ outcomes }

theorem ofSnapshots_append (snapshots taken : List Snapshot) :
    Holdings.ofSnapshots (snapshots ++ taken) = .ofSnapshots snapshots ++ .ofSnapshots taken := by
  rw [Holdings.ofSnapshots_eq, List.map_append, Holdings.ofGroups_append, Holdings.ofSnapshots_eq,
    Holdings.ofSnapshots_eq]

theorem append_nothing (held : Holdings) : held ++ Holdings.ofSnapshots [] = held := by
  obtain ⟨clusters, endpoints, routes⟩ := held
  exact congr (congrArg₂ Holdings.mk (List.append_nil _) (List.append_nil _)) (List.append_nil _)

/-- While nobody else holds a snapshot, a tick that builds one group after the other is a tick of these. -/
theorem tickBy_nil (updater : Updater) (mesh : MultiZone) (faults : List Fault) :
    updater.tickBy [] [] mesh faults = updater.tick mesh faults := by
  have outside : (updater.planFor [] mesh faults).outside = updater.store.prune.holdings := by
    rw [BuildPlan.outside, planFor, List.append_nil]
    rfl
  unfold tickBy tick
  dsimp only
  rw [SnapshotBuilder.buildBy_nil, append_nothing, outside]
  dsimp only [planFor, pruned, stale]

/-- What is held by the store, the versions and others. -/
def heldWith (updater : Updater) (taken : List Snapshot) : Holdings :=
  updater.builder.holdings (updater.store.holdings ++ .ofSnapshots taken)

theorem heldWith_eq (updater : Updater) (taken : List Snapshot) :
    updater.heldWith taken =
      .ofGroups ((updater.store.snapshots ++ taken).map Snapshot.remembered ++
        updater.builder.versions.byGroup.values) := by
  rw [heldWith, SnapshotStore.holdings, ← ofSnapshots_append, Holdings.ofSnapshots_eq,
    SnapshotBuilder.holdings_eq]

/-- What is remembered is what is stored, the caches serve all that is held and know its wire forms,
and no version was given out twice. -/
structure Shared (updater : Updater) (taken : List Snapshot) : Prop where
  remember : updater.builder.versions.Remember updater.store
  serves : updater.builder.caches.Serves
    ((updater.store.snapshots ++ taken).map Snapshot.remembered)
  encoded : updater.builder.caches.Encoded
    ((updater.store.snapshots ++ taken).map Snapshot.remembered)
  dated : updater.store.Dated updater.generation
  numbered : updater.builder.versions.Numbered

variable {updater after : Updater} {taken others : List Snapshot} {turns : List Nat}
  {mesh : MultiZone} {faults : List Fault}

theorem Shared.start (config : BuilderConfig) : (Updater.start config).Shared [] where
  remember _ := rfl
  serves := .start
  encoded := ⟨nofun, nofun, nofun⟩
  dated group stored found := by contradiction
  numbered := SnapshotVersions.numbered_start

/-- All that is remembered is among what is held by others than the versions. -/
theorem Shared.covered (shared : updater.Shared taken) (entry : GroupVersions)
    (listed : entry ∈ updater.builder.versions.byGroup.values) :
    entry ∈ (updater.store.snapshots ++ taken).map Snapshot.remembered := by
  rw [List.map_append]
  exact List.mem_append_left _ ((shared.remember.mem_values entry).mp listed)

theorem Shared.serving (shared : updater.Shared taken) :
    updater.builder.caches.Serves ((updater.store.snapshots ++ taken).map Snapshot.remembered ++
      updater.builder.versions.byGroup.values) := by
  refine shared.serves.mono fun entry member => ?_
  rcases List.mem_append.mp member with held | listed
  · exact held
  · exact shared.covered entry listed

/-- The collections that are alive are those of the snapshots that are held. -/
theorem Shared.mem_alive (shared : updater.Shared taken) {α : Type} [DecidableEq α] [Resource α]
    {cache : ResourceCache α} {view : GroupVersions → Handle α}
    (serves : cache.Serves (((updater.store.snapshots ++ taken).map Snapshot.remembered ++
      updater.builder.versions.byGroup.values).map view)) {resources : List α} :
    resources ∈ cache.alive ((((updater.store.snapshots ++ taken).map Snapshot.remembered ++
        updater.builder.versions.byGroup.values).map view).map Handle.id) ↔
      ∃ snapshot ∈ updater.store.snapshots ++ taken,
        (view snapshot.remembered).resources = resources := by
  rw [serves.mem_alive, List.map_map, List.mem_map]
  constructor
  · rintro ⟨entry, member, rfl⟩
    have held : entry ∈ (updater.store.snapshots ++ taken).map Snapshot.remembered :=
      (List.mem_append.mp member).elim id (shared.covered entry)
    obtain ⟨snapshot, listed, rfl⟩ := List.mem_map.mp held
    exact ⟨snapshot, listed, rfl⟩
  · rintro ⟨snapshot, listed, rfl⟩
    exact ⟨_, List.mem_append_left _ (List.mem_map_of_mem listed), rfl⟩

/-- Taking note of revisions has no part in what is held. -/
theorem Shared.seen (shared : updater.Shared taken) (mesh faults : Nat) :
    Shared { updater with seenMesh := mesh, seenFaults := faults } taken :=
  ⟨shared.remember, shared.serves, shared.encoded, shared.dated, shared.numbered⟩

/-- Others may take snapshots that are held, and give them back, as long as all groups keep theirs. -/
theorem Shared.hold (shared : updater.Shared taken) {store : SnapshotStore}
    (same : ∀ group, store.snapshot? group = updater.store.snapshot? group)
    (fewer : others ⊆ updater.store.snapshots ++ taken) :
    Shared { updater with store := store } others := by
  have held : (store.snapshots ++ others).map Snapshot.remembered ⊆
      (updater.store.snapshots ++ taken).map Snapshot.remembered := by
    refine List.map_subset _ fun snapshot member => ?_
    rcases List.mem_append.mp member with stored | other
    · obtain ⟨group, found⟩ := SnapshotStore.mem_snapshots.mp stored
      exact List.mem_append_left _ (SnapshotStore.mem_snapshots.mpr ⟨group, same group ▸ found⟩)
    · exact fewer other
  refine ⟨fun group => ?_, shared.serves.mono held, shared.encoded.mono held,
    fun group stored found => ?_, shared.numbered⟩
  · rw [same]
    exact shared.remember group
  · exact shared.dated group stored ((same group).symm.trans found)

theorem Shared.pruned (shared : updater.Shared taken) : updater.pruned.Shared taken := by
  have held : (updater.pruned.store.snapshots ++ taken).map Snapshot.remembered ⊆
      (updater.store.snapshots ++ taken).map Snapshot.remembered := by
    refine List.map_subset _ (List.append_subset.mpr ⟨fun snapshot member => ?_,
      List.subset_append_right _ _⟩)
    obtain ⟨group, found⟩ := SnapshotStore.mem_snapshots.mp member
    exact List.mem_append_left _
      (SnapshotStore.mem_snapshots.mpr ⟨group, SnapshotStore.snapshot?_of_prune found⟩)
  exact ⟨shared.remember.retain, shared.serves.mono held, shared.encoded.mono held,
    shared.dated.prune, shared.numbered.retain _⟩

/-! ### What a tick leaves behind -/

/-- The resources that a tick builds for a group. -/
def target (updater : Updater) (mesh : MultiZone) (faults : List Fault) (group : ConsumerGroup) :
    SnapshotContent :=
  updater.builder.config.content group (updater.globalFor mesh) faults

/-- Behind a tick whose builds made certain snapshots: each of them is stored, and the groups that
were not built for have what they had. -/
structure Ticked (updater : Updater) (taken : List Snapshot) (mesh : MultiZone)
    (faults : List Fault) (made : List Snapshot) (builder : SnapshotBuilder) (after : Updater) :
    Prop where
  builds : updater.pruned.builder.BuildsSideBySide (updater.planFor taken mesh faults)
    (updater.stale mesh faults) made builder
  swept : after.builder = builder.purge (after.store.holdings ++ .ofSnapshots taken)
  stored : ∀ snapshot ∈ made, after.store.snapshot? snapshot.group = some snapshot
  left : ∀ group, group ∉ updater.stale mesh faults →
    after.store.snapshot? group = updater.pruned.store.snapshot? group
  dated : after.store.Dated after.generation
  published : after.publications = updater.publications ++
    (updater.stale mesh faults).map fun group =>
      updater.pruned.store.outcome group (updater.target mesh faults group)

theorem Shared.tickBy (shared : updater.Shared taken) (turns : List Nat) (mesh : MultiZone)
    (faults : List Fault) : ∃ made builder,
      updater.Ticked taken mesh faults made builder (updater.tickBy taken turns mesh faults) := by
  obtain ⟨remember, serves, encoded, dated, -⟩ := shared.pruned
  have distinct : (updater.stale mesh faults).Nodup := (SortedSet.nodup _).filter _
  have builds := SnapshotBuilder.buildBy_builds (updater.planFor taken mesh faults) serves encoded
    shared.pruned.covered distinct turns
  have registered (group : ConsumerGroup) (wanted : group ∈ updater.stale mesh faults) :
      updater.pruned.store.isRegistered group = true :=
    SnapshotStore.mem_groups.mp (SortedSet.mem_toList.mp (List.mem_filter.mp wanted).1)
  unfold Updater.tickBy
  dsimp only
  generalize updater.pruned.builder.buildBy _ _ _ = built at builds ⊢
  obtain ⟨made, builder⟩ := built
  dsimp only at builds ⊢
  have known (snapshot : Snapshot) (member : snapshot ∈ made) :
      snapshot.generation = updater.pruned.generation ∧
        updater.pruned.store.isRegistered snapshot.group = true := by
    refine ⟨(builds.right snapshot member).2, registered _ ?_⟩
    rw [← builds.groups]
    exact List.mem_map_of_mem member
  have versioned (snapshot : Snapshot) (member : snapshot ∈ made) (previous : Snapshot)
      (found : updater.pruned.store.snapshot? snapshot.group = some previous)
      (same : previous.content = snapshot.content) : previous.versions = snapshot.versions :=
    builds.versions_eq member (same ▸ remember.shown found)
  have apart : (made.map Snapshot.group).Nodup := builds.groups ▸ distinct
  obtain ⟨stored, left, -, latest⟩ := SnapshotStore.publishAll_fresh apart dated
    fun snapshot member => ⟨(known snapshot member).1, (known snapshot member).2,
      versioned snapshot member⟩
  have outcomes := SnapshotStore.publishAll_outcomes apart dated known
  rw [builds.groups] at left
  refine ⟨made, builder, builds, rfl, stored, left, latest, ?_⟩
  dsimp only
  rw [outcomes, builds.map_content]
  rfl

namespace Ticked

variable {made : List Snapshot} {builder : SnapshotBuilder}

/-- What is stored was built or was stored before. -/
theorem snapshot_cases (ticked : updater.Ticked taken mesh faults made builder after)
    (group : ConsumerGroup) :
    (∃ snapshot ∈ made, snapshot.group = group ∧ after.store.snapshot? group = some snapshot) ∨
      group ∉ updater.stale mesh faults ∧
        after.store.snapshot? group = updater.pruned.store.snapshot? group := by
  by_cases wanted : group ∈ updater.stale mesh faults
  · rw [← ticked.builds.groups] at wanted
    obtain ⟨snapshot, member, rfl⟩ := List.mem_map.mp wanted
    exact .inl ⟨snapshot, member, rfl, ticked.stored snapshot member⟩
  · exact .inr ⟨wanted, ticked.left group wanted⟩

theorem content_eq (ticked : updater.Ticked taken mesh faults made builder after)
    (group : ConsumerGroup) :
    (after.store.snapshot? group).map Snapshot.content =
      if group ∈ updater.stale mesh faults then some (updater.target mesh faults group)
      else (updater.pruned.store.snapshot? group).map Snapshot.content := by
  rcases ticked.snapshot_cases group with ⟨snapshot, member, rfl, found⟩ | ⟨spared, same⟩
  · have wanted : snapshot.group ∈ updater.stale mesh faults :=
      ticked.builds.groups ▸ List.mem_map_of_mem member
    rw [found, if_pos wanted, Option.map_some, (ticked.builds.right snapshot member).1]
    rfl
  · rw [same, if_neg spared]

theorem remember (ticked : updater.Ticked taken mesh faults made builder after)
    (shared : updater.Shared taken) : builder.versions.Remember after.store := by
  obtain ⟨remembered, alone, -⟩ := ticked.builds.assigned
  intro group
  rcases ticked.snapshot_cases group with ⟨snapshot, member, rfl, found⟩ | ⟨spared, same⟩
  · rw [remembered snapshot member, found, Option.map_some]
  · rw [← ticked.builds.groups] at spared
    rw [alone group spared, same]
    exact shared.pruned.remember group

/-- Whoever holds a snapshot behind a tick holds one that was built, or held one before. -/
theorem held (ticked : updater.Ticked taken mesh faults made builder after) :
    after.store.snapshots ++ taken ⊆ made ++ (updater.pruned.store.snapshots ++ taken) := by
  intro snapshot member
  rcases List.mem_append.mp member with stored | other
  · obtain ⟨group, found⟩ := SnapshotStore.mem_snapshots.mp stored
    rcases ticked.snapshot_cases group with ⟨own, built, -, published⟩ | ⟨-, same⟩
    · rw [found] at published
      cases published
      exact List.mem_append_left _ built
    · refine List.mem_append_right _ (List.mem_append_left _ ?_)
      exact SnapshotStore.mem_snapshots.mpr ⟨group, same.symm.trans found⟩
  · exact List.mem_append_right _ (List.mem_append_right _ other)

/-- All that is held behind a tick is served, and its wire forms are known. -/
theorem shared (ticked : updater.Ticked taken mesh faults made builder after)
    (shared : updater.Shared taken) : after.Shared taken := by
  have remember := ticked.remember shared
  have held : (after.store.snapshots ++ taken).map Snapshot.remembered ++
      builder.versions.byGroup.values ⊆
        (made ++ (updater.pruned.store.snapshots ++ taken)).map Snapshot.remembered := by
    refine List.append_subset.mpr ⟨List.map_subset _ ticked.held, fun entry listed => ?_⟩
    obtain ⟨snapshot, stored, rfl⟩ := List.mem_map.mp ((remember.mem_values entry).mp listed)
    exact List.mem_map_of_mem (ticked.held (List.mem_append_left _ stored))
  have serves := ticked.builds.serves.mono held
  have encoded := (ticked.builds.encoded.mono held).purge serves
  have swept : after.builder.caches = builder.caches.purge
      (.ofGroups ((after.store.snapshots ++ taken).map Snapshot.remembered ++
        builder.versions.byGroup.values)) := by
    rw [ticked.swept, SnapshotStore.holdings, ← ofSnapshots_append, SnapshotBuilder.purge,
      Holdings.ofSnapshots_eq, SnapshotBuilder.holdings_eq]
  have versions : after.builder.versions = builder.versions := by rw [ticked.swept]; rfl
  refine ⟨?_, ?_, ?_, ticked.dated, ?_⟩
  · rw [versions]
    exact remember
  · rw [swept]
    exact serves.purge.mono (List.subset_append_left _ _)
  · rw [swept]
    exact encoded.mono (List.subset_append_left _ _)
  · rw [versions]
    exact ticked.builds.assigned.numbered shared.pruned.numbered

/-- A tick computes a wire form for each collection that it brings up and that nobody held once the
groups were dropped that nobody follows. -/
theorem serializations_eq (ticked : updater.Ticked taken mesh faults made builder after)
    (shared : updater.Shared taken) :
    after.serializations = List.zipWith (· + ·) updater.serializations
      (updater.builder.caches.missing (updater.pruned.heldWith taken)
        ((updater.stale mesh faults).map (updater.target mesh faults))) := by
  have count {α : Type} [DecidableEq α] [Resource α] {cache later : ResourceCache α}
      {view : GroupVersions → Handle α} (part : SnapshotContent → List α)
      (batch : ResourceCache.Batch cache
        ((updater.pruned.store.snapshots ++ taken).map fun snapshot => view snapshot.remembered)
        later (made.map fun snapshot => view snapshot.remembered))
      (serves : cache.Serves (((updater.pruned.store.snapshots ++ taken).map Snapshot.remembered ++
        updater.pruned.builder.versions.byGroup.values).map view))
      (shows : ∀ snapshot : Snapshot,
        (view snapshot.remembered).resources = part snapshot.content) :
      later.serializations = cache.serializations +
        ((((updater.stale mesh faults).map (updater.target mesh faults)).map part).toFinset \
          cache.alive ((((updater.pruned.store.snapshots ++ taken).map Snapshot.remembered ++
            updater.pruned.builder.versions.byGroup.values).map view).map Handle.id)).card := by
    have built : (made.map fun snapshot => view snapshot.remembered).map Handle.resources =
        ((updater.stale mesh faults).map (updater.target mesh faults)).map part := by
      rw [List.map_map, List.map_map]
      exact (List.map_congr_left fun snapshot _ => shows snapshot).trans
        (ticked.builds.map_content fun _ content => part content)
    rw [batch.counted, ResourceCache.news, built]
    congr 3
    ext resources
    rw [List.mem_toFinset, shared.pruned.mem_alive serves, List.map_map, List.mem_map]
    rfl
  obtain ⟨clusters, endpoints, routes⟩ := shared.pruned.serving
  have ofClusters := count (·.clusters) ticked.builds.clusters clusters fun _ => rfl
  have ofEndpoints := count (·.endpoints) ticked.builds.endpoints endpoints fun _ => rfl
  have ofRoutes := count (·.routes) ticked.builds.routes routes fun _ => rfl
  rw [heldWith_eq, serializations, ticked.swept]
  exact congrArg₂ _ ofClusters (congrArg₂ _ ofEndpoints (congrArg₂ _ ofRoutes rfl))

end Ticked

theorem Shared.liveEntries_eq (shared : updater.Shared taken) :
    updater.builder.caches.liveEntries (updater.heldWith taken) =
      [((updater.store.snapshots ++ taken).map (·.clusters.resources)).dedup.length,
        ((updater.store.snapshots ++ taken).map (·.endpoints.resources)).dedup.length,
        ((updater.store.snapshots ++ taken).map (·.routes.resources)).dedup.length] := by
  rw [heldWith_eq]
  refine shared.serving.liveEntries_eq fun entry => ?_
  rw [List.mem_append]
  constructor
  · rintro (held | listed)
    · exact held
    · exact shared.covered entry listed
  · exact .inl

/-- As many collections are alive as there are, under whatever handles. -/
theorem Shared.liveEntries_congr {one two : Updater} (shared : one.Shared taken)
    (shared' : two.Shared taken) (same : ∀ group,
      (two.store.snapshot? group).map Snapshot.content =
        (one.store.snapshot? group).map Snapshot.content) :
    two.builder.caches.liveEntries (two.heldWith taken) =
      one.builder.caches.liveEntries (one.heldWith taken) := by
  have mem {β : Type} (part : SnapshotContent → β) (updater : Updater) (x : β) :
      x ∈ (updater.store.snapshots ++ taken).map (fun snapshot => part snapshot.content) ↔
        (∃ group, ((updater.store.snapshot? group).map Snapshot.content).map part = some x) ∨
          x ∈ taken.map fun snapshot => part snapshot.content := by
    rw [List.map_append, List.mem_append, List.mem_map]
    refine or_congr_left ?_
    simp only [SnapshotStore.mem_snapshots, Option.map_eq_some_iff]
    constructor
    · rintro ⟨snapshot, ⟨group, found⟩, shows⟩
      exact ⟨group, _, ⟨snapshot, found, rfl⟩, shows⟩
    · rintro ⟨group, _, ⟨snapshot, found, rfl⟩, shows⟩
      exact ⟨snapshot, ⟨group, found⟩, shows⟩
  have count {α : Type} [DecidableEq α] (part : SnapshotContent → List α) :
      ((two.store.snapshots ++ taken).map fun snapshot => part snapshot.content).dedup.length =
        ((one.store.snapshots ++ taken).map fun snapshot => part snapshot.content).dedup.length := by
    refine ((List.perm_ext_iff_of_nodup (List.nodup_dedup _) (List.nodup_dedup _)).mpr
      fun resources => ?_).length_eq
    rw [List.mem_dedup, List.mem_dedup, mem, mem]
    simp only [same]
  rw [shared.liveEntries_eq, shared'.liveEntries_eq]
  exact congrArg₂ _ (count SnapshotContent.clusters)
    (congrArg₂ _ (count SnapshotContent.endpoints) (congrArg₂ _ (count SnapshotContent.routes) rfl))

/-- The versions behind two ticks that differ in nothing but whose turn it was are the same up to a
renaming of the fresh ones. -/
theorem Ticked.exists_renaming {one two : Updater} {made made' : List Snapshot}
    {builder builder' : SnapshotBuilder} (shared : updater.Shared taken)
    (ticked : updater.Ticked taken mesh faults made builder one)
    (ticked' : updater.Ticked taken mesh faults made' builder' two) :
    two.builder.versions.issued = one.builder.versions.issued ∧
      ∃ rename : Equiv.Perm String,
        (∀ name, (∀ n, updater.builder.versions.issued < n → n ≤ one.builder.versions.issued →
          versionText n ≠ name) → rename name = name) ∧
        ∀ group, (two.store.snapshot? group).map Snapshot.versions =
          (one.store.snapshot? group).map fun snapshot => snapshot.versions.rename rename := by
  obtain ⟨order, inOrder⟩ := ticked.builds.assigned.ordered
  obtain ⟨order', inOrder'⟩ := ticked'.builds.assigned.ordered
  obtain ⟨issued, rename, old, renamed⟩ := inOrder.exists_renaming shared.pruned.numbered inOrder'
    fun pair => by rw [ticked.builds.mem_order inOrder, ticked'.builds.mem_order inOrder']
  have versions : one.builder.versions = builder.versions := by rw [ticked.swept]; rfl
  have versions' : two.builder.versions = builder'.versions := by rw [ticked'.swept]; rfl
  rw [versions, versions']
  refine ⟨issued, rename, old, fun group => ?_⟩
  rcases ticked.snapshot_cases group with ⟨snapshot, member, rfl, found⟩ | ⟨spared, same⟩
  · obtain ⟨snapshot', member', grouped, found'⟩ :
        ∃ snapshot' ∈ made', snapshot'.group = snapshot.group ∧
          two.store.snapshot? snapshot.group = some snapshot' := by
      refine (ticked'.snapshot_cases snapshot.group).resolve_right fun unbuilt => unbuilt.1 ?_
      exact ticked.builds.groups ▸ List.mem_map_of_mem member
    rw [found, found', Option.map_some, Option.map_some,
      renamed snapshot member snapshot' member' grouped]
  · rw [same, ticked'.left group spared]
    cases kept : updater.pruned.store.snapshot? group with
    | none => rfl
    | some snapshot =>
        have within := shared.pruned.numbered group _ _ (shared.pruned.remember.shown kept)
        rw [Option.map_some, Option.map_some, within.rename_eq old]

/-- Where a tick drops all that is stored and builds for one group, the wire forms of this group are
computed, alive as its collections may have been when the tick started. -/
theorem Shared.serialized_again (shared : updater.Shared []) {group : ConsumerGroup}
    (stale : updater.stale mesh faults = [group])
    (dropped : updater.pruned.store.snapshots = []) (other : ConsumerGroup)
    (stored : (updater.store.snapshot? other).map Snapshot.content =
      some (updater.target mesh faults group)) :
    (updater.tick mesh faults).serializations ≠ List.zipWith (· + ·) updater.serializations
      (updater.builder.caches.missing (updater.heldWith [])
        ((updater.stale mesh faults).map (updater.target mesh faults))) := by
  obtain ⟨made, builder, ticked⟩ := shared.tickBy [] mesh faults
  obtain ⟨snapshot, found, same⟩ := Option.map_eq_some_iff.mp stored
  have stored : snapshot ∈ updater.store.snapshots := SnapshotStore.mem_snapshots.mpr ⟨other, found⟩
  rw [← tickBy_nil, ticked.serializations_eq shared, stale, updater.heldWith_eq,
    updater.pruned.heldWith_eq]
  set clusters := (updater.target mesh faults group).clusters with isClusters
  have alive := (shared.mem_alive shared.serving.clusters).mpr
    ⟨snapshot, List.mem_append_left _ stored, congrArg SnapshotContent.clusters same⟩
  have free : ¬ ∃ snapshot ∈ updater.pruned.store.snapshots ++ [],
      snapshot.clusters.resources = clusters := by
    rw [dropped]
    rintro ⟨_, none, -⟩
    contradiction
  have free := mt (shared.pruned.mem_alive shared.pruned.serving.clusters).mp free
  have count (known : Finset (List Cluster)) :
      ([clusters].toFinset \ known).card = if clusters ∈ known then 0 else 1 := by
    by_cases listed : clusters ∈ known
    · simp [listed]
    · simp [listed, Finset.sdiff_eq_self_of_disjoint]
  intro equal
  have heads := congrArg List.head? equal
  simp only [ResourceCaches.missing, serializations, ResourceCaches.serializations, List.zipWith,
    List.head?_cons, Option.some.injEq, Nat.add_left_cancel_iff, List.map_singleton] at heads
  rw [count, count] at heads
  have absurd : 1 = 0 := (if_neg free).symm.trans (heads.trans (if_pos alive))
  contradiction

end Updater

end ServiceMesh
