import ServiceMesh.Proofs.Snapshot.FullRebuild
import ServiceMesh.Proofs.Snapshot.Remembered
import ServiceMesh.Proofs.Snapshot.Versions

/-! The store, the versions and the caches of an updater agree behind each build: what is stored is
what is remembered, and nothing else is kept. Nothing is assumed about the mesh or the faults, only
that nobody else holds a snapshot. -/
namespace ServiceMesh

namespace SnapshotStore

variable {store : SnapshotStore} {group : ConsumerGroup} {snapshot : Snapshot}

theorem mem_snapshots : snapshot ∈ store.snapshots ↔
    ∃ group, store.snapshot? group = some snapshot := by
  simp only [snapshots, List.mem_filterMap, SortedMap.mem_values]
  constructor
  · rintro ⟨channel, ⟨group, found⟩, value⟩
    exact ⟨group, (snapshot?_of_channel found).trans value⟩
  · rintro ⟨group, stored⟩
    obtain ⟨channel, found, value⟩ := Option.bind_eq_some_iff.mp stored
    exact ⟨channel, ⟨group, found⟩, value⟩

/-- A group that is still followed keeps its snapshot. -/
theorem snapshot?_prune (store : SnapshotStore) (group : ConsumerGroup) :
    store.prune.snapshot? group =
      if store.prune.groups.contains group then store.snapshot? group else none := by
  have registered : store.prune.groups.contains group = store.prune.isRegistered group := by
    rw [Bool.eq_iff_iff, SortedSet.contains_iff, mem_groups]
  rw [registered, snapshot?, snapshot?, isRegistered, SortedMap.contains, get?_prune]
  cases store.channels.get? group with
  | none => rfl
  | some channel => by_cases followed : 0 < channel.followers <;> simp [Option.filter, followed]

end SnapshotStore

/-- What is remembered of each group is the snapshot that is stored for it. -/
def SnapshotVersions.Remember (versions : SnapshotVersions) (store : SnapshotStore) : Prop :=
  ∀ group, versions.byGroup.get? group = (store.snapshot? group).map Snapshot.remembered

/-- What is remembered of the groups that are kept was remembered before. -/
theorem SnapshotVersions.values_retain (versions : SnapshotVersions)
    (groups : SortedSet ConsumerGroup) :
    (versions.retain groups).byGroup.values ⊆ versions.byGroup.values := by
  intro entry listed
  obtain ⟨group, found⟩ := SortedMap.mem_values.mp listed
  rw [SnapshotVersions.retain, SortedMap.get?_filter] at found
  exact SortedMap.mem_values.mpr ⟨group, (Option.filter_eq_some_iff.mp found).1⟩

namespace SnapshotVersions.Remember

variable {versions : SnapshotVersions} {store : SnapshotStore} {group : ConsumerGroup}
  {snapshot : Snapshot}

theorem shown (remember : versions.Remember store)
    (found : store.snapshot? group = some snapshot) :
    versions.shown? group = some (snapshot.versions, snapshot.content) := by
  rw [shown?, remember, found]
  rfl

theorem mem_values (remember : versions.Remember store) (entry : GroupVersions) :
    entry ∈ versions.byGroup.values ↔ entry ∈ store.snapshots.map Snapshot.remembered := by
  rw [SortedMap.mem_values, List.mem_map]
  constructor
  · rintro ⟨group, found⟩
    rw [remember] at found
    obtain ⟨snapshot, stored, same⟩ := Option.map_eq_some_iff.mp found
    exact ⟨snapshot, SnapshotStore.mem_snapshots.mpr ⟨group, stored⟩, same⟩
  · rintro ⟨snapshot, listed, rfl⟩
    obtain ⟨group, stored⟩ := SnapshotStore.mem_snapshots.mp listed
    exact ⟨group, by rw [remember, stored, Option.map_some]⟩

/-- Whoever holds what is stored or remembered holds what is remembered. -/
theorem held (remember : versions.Remember store) (entry : GroupVersions) :
    entry ∈ store.snapshots.map Snapshot.remembered ++ versions.byGroup.values ↔
      entry ∈ versions.byGroup.values := by
  rw [List.mem_append, ← remember.mem_values, or_self]

/-- Groups that nobody follows are forgotten where they are dropped. -/
theorem retain (remember : versions.Remember store) :
    (versions.retain store.prune.groups).Remember store.prune := by
  intro group
  rw [SnapshotStore.snapshot?_prune, SnapshotVersions.retain, SortedMap.get?_filter, remember]
  cases store.prune.groups.contains group <;> cases store.snapshot? group <;> rfl

end SnapshotVersions.Remember

/-- What is held while nobody else holds a snapshot. -/
theorem SnapshotBuilder.holdings_stored (builder : SnapshotBuilder) (store : SnapshotStore) :
    builder.holdings store.holdings =
      .ofGroups (store.snapshots.map Snapshot.remembered ++ builder.versions.byGroup.values) := by
  rw [SnapshotStore.holdings, Holdings.ofSnapshots_eq, SnapshotBuilder.holdings_eq]

/-- A sweep leaves what is remembered, and nothing else. -/
theorem SnapshotBuilder.purge_keeps {builder : SnapshotBuilder} {store : SnapshotStore}
    (remember : builder.versions.Remember store)
    (serves : builder.caches.Serves builder.versions.byGroup.values) :
    (builder.purge store.holdings).caches.Serves builder.versions.byGroup.values ∧
      (builder.purge store.holdings).caches.Keep builder.versions.byGroup.values := by
  have serving := serves.mono fun entry member => (remember.held entry).mp member
  rw [purge, holdings_stored]
  exact ⟨serving.purge.mono fun entry member => (remember.held entry).mpr member,
    serving.keep_purge.mono fun entry member => (remember.held entry).mp member⟩

/-- What is left in a store that the snapshots of some groups were published to, and in the builder
that built them. -/
structure Republished (store : SnapshotStore) (groups : List ConsumerGroup) (generation : Nat)
    (after : SnapshotStore) (builder : SnapshotBuilder) : Prop where
  remember : builder.versions.Remember after
  serves : builder.caches.Serves builder.versions.byGroup.values
  numbered : builder.versions.Numbered
  dated : after.Dated generation
  registered : ∀ group, after.isRegistered group = store.isRegistered group
  stored : ∀ group ∈ groups, (after.snapshot? group).isSome = true
  left : ∀ group, group ∉ groups → after.snapshot? group = store.snapshot? group
  versioned : ∀ group old new, store.snapshot? group = some old →
    after.snapshot? group = some new → ∀ kind,
      old.versions.of kind = new.versions.of kind ↔ old.content.Agrees new.content kind

/-- Building for groups that are followed, and publishing what was built. -/
theorem SnapshotBuilder.buildAll_republished {builder : SnapshotBuilder} {store : SnapshotStore}
    {generation : Nat} (remember : builder.versions.Remember store)
    (serves : builder.caches.Serves builder.versions.byGroup.values)
    (numbered : builder.versions.Numbered) (dated : store.Dated generation)
    {groups : List ConsumerGroup} (distinct : groups.Nodup) (followed : groups ⊆ store.groups.toList)
    (global : GlobalSnapshot) (faults : List Fault) :
    let made := builder.buildAll store.holdings groups global faults generation
    Republished store groups generation (store.publishAll made.1).2 made.2 := by
  have builds := buildAll_buildsAll builder store.holdings groups global faults generation
  rw [SnapshotStore.holdings, Holdings.ofSnapshots_eq] at builds ⊢
  obtain ⟨served, remembered, alone⟩ := buildAll_remembers
    (serves.mono fun entry member => (remember.held entry).mp member) distinct global faults
    generation
  generalize builder.buildAll (.ofGroups (store.snapshots.map Snapshot.remembered)) groups global
    faults generation = made at builds served remembered alone ⊢
  obtain ⟨built, behind⟩ := made
  dsimp only at builds served remembered alone ⊢
  have named : built.map Snapshot.group = groups := builds.groups_eq
  have versioned (snapshot : Snapshot) (member : snapshot ∈ built) (previous : Snapshot)
      (found : store.snapshot? snapshot.group = some previous) (kind : ResourceKind) :
      previous.versions.of kind = snapshot.versions.of kind ↔
        previous.content.Agrees snapshot.content kind :=
    builds.version_eq_iff distinct numbered member (remember.shown found) kind
  have news (snapshot : Snapshot) (member : snapshot ∈ built) :
      snapshot.generation = generation ∧ store.isRegistered snapshot.group = true ∧
        ∀ previous, store.snapshot? snapshot.group = some previous →
          previous.content = snapshot.content → previous.versions = snapshot.versions := by
    have wants : snapshot.group ∈ groups := named ▸ List.mem_map_of_mem member
    refine ⟨(builds.mem member).1, SnapshotStore.mem_groups.mp (followed wants),
      fun previous found same => Versions.ext_of fun kind => ?_⟩
    rw [versioned snapshot member previous found kind, same]
    exact .refl _ _
  obtain ⟨stored, left, registered, dated⟩ :=
    SnapshotStore.publishAll_fresh (named ▸ distinct) dated news
  generalize (store.publishAll built).2 = after at stored left registered dated ⊢
  rw [named] at left
  -- A group is either built and stored, or left alone by both.
  have cases (group : ConsumerGroup) :
      (∃ snapshot ∈ built, snapshot.group = group ∧ after.snapshot? group = some snapshot ∧
        behind.versions.byGroup.get? group = some snapshot.remembered) ∨
      group ∉ groups ∧ after.snapshot? group = store.snapshot? group ∧
        behind.versions.byGroup.get? group = builder.versions.byGroup.get? group := by
    by_cases wants : group ∈ groups
    · rw [← named] at wants
      obtain ⟨snapshot, member, rfl⟩ := List.mem_map.mp wants
      exact .inl ⟨snapshot, member, rfl, stored snapshot member, remembered snapshot member⟩
    · exact .inr ⟨wants, left group wants, alone group wants⟩
  refine ⟨fun group => ?_, served.mono (List.subset_append_right _ _), builds.numbered numbered, dated,
    registered, fun group wants => ?_, left, fun group old new before found kind => ?_⟩
  · rcases cases group with ⟨snapshot, -, -, found, known⟩ | ⟨-, same, kept⟩
    · rw [known, found, Option.map_some]
    · rw [kept, same]
      exact remember group
  · rcases cases group with ⟨snapshot, -, -, found, -⟩ | ⟨unbuilt, -⟩
    · rw [found]
      rfl
    · exact absurd wants unbuilt
  · rcases cases group with ⟨snapshot, member, rfl, published, -⟩ | ⟨-, same, -⟩
    · rw [← Option.some.inj (published.symm.trans found)]
      exact versioned snapshot member old before kind
    · rw [same, before] at found
      rw [← Option.some.inj found]
      exact ⟨fun _ => .refl _ _, fun _ => rfl⟩

namespace Updater

/-- What is remembered is what is stored, the caches serve it, and no version was given out twice. -/
structure Coupled (updater : Updater) : Prop where
  remember : updater.builder.versions.Remember updater.store
  serves : updater.builder.caches.Serves updater.builder.versions.byGroup.values
  dated : updater.store.Dated updater.generation
  numbered : updater.builder.versions.Numbered

/-- What a build leaves behind: all groups that are still followed have their snapshots, in which
versions changed where collections did, and what is kept is what is remembered. -/
structure Settles (before after : Updater) : Prop where
  coupled : after.Coupled
  groups : ∀ group, after.store.isRegistered group = before.store.prune.isRegistered group
  stored : ∀ group, after.store.isRegistered group = true →
    (after.store.snapshot? group).isSome = true
  versioned : ∀ group old new, before.store.snapshot? group = some old →
    after.store.snapshot? group = some new → ∀ kind,
      old.versions.of kind = new.versions.of kind ↔ old.content.Agrees new.content kind
  keep : after.builder.caches.Keep after.builder.versions.byGroup.values

variable {updater : Updater} {wanted : SnapshotStore → ConsumerGroup → Bool} {mesh : MultiZone}
  {faults : List Fault}

theorem Coupled.start (config : BuilderConfig) : (Updater.start config).Coupled where
  remember _ := rfl
  serves := .start
  dated group stored found := by contradiction
  numbered := SnapshotVersions.numbered_start

/-- A build that leaves out only groups that have a snapshot keeps all in step. -/
theorem Coupled.rebuild (coupled : updater.Coupled) (mesh : MultiZone) (faults : List Fault)
    (global : GlobalSnapshot)
    (covers : ∀ group, wanted updater.store.prune group = false →
      (updater.store.prune.snapshot? group).isSome = true) :
    updater.Settles (updater.rebuild mesh faults global wanted) := by
  have serves : (updater.builder.retain updater.store.prune.groups).caches.Serves
      (updater.builder.retain updater.store.prune.groups).versions.byGroup.values :=
    coupled.serves.mono (SnapshotVersions.values_retain _ _)
  have left := SnapshotBuilder.buildAll_republished coupled.remember.retain serves
    (coupled.numbered.retain _) coupled.dated.prune
    ((SortedSet.nodup updater.store.prune.groups).filter (wanted updater.store.prune))
    (List.filter_sublist.subset) global faults
  obtain ⟨serving, keep⟩ := SnapshotBuilder.purge_keeps left.remember left.serves
  refine ⟨⟨left.remember, serving, left.dated, left.numbered⟩, left.registered,
    fun group still => ?_, fun group old new before behind kind => ?_, keep⟩
  · by_cases asked : wanted updater.store.prune group = true
    · refine left.stored group (List.mem_filter.mpr ⟨?_, asked⟩)
      exact SnapshotStore.mem_groups.mpr ((left.registered group).symm.trans still)
    · refine (congrArg Option.isSome (left.left group fun built => ?_)).trans
        (covers group (eq_false_of_ne_true asked))
      exact asked (List.mem_filter.mp built).2
  · have followed : updater.store.prune.groups.contains group = true := by
      refine SortedSet.contains_iff.mpr (SnapshotStore.mem_groups.mpr ?_)
      exact (left.registered group).symm.trans (SnapshotStore.isRegistered_of_snapshot? behind)
    refine left.versioned group old new ?_ behind kind
    rw [SnapshotStore.snapshot?_prune, if_pos followed, before]

theorem Coupled.tick (coupled : updater.Coupled) (mesh : MultiZone) (faults : List Fault) :
    updater.Settles (updater.tick mesh faults) := by
  rw [tick_eq_rebuild]
  refine coupled.rebuild mesh faults _ fun group spared => ?_
  obtain ⟨-, held, -⟩ := Built.unchanged_of_needsRebuild spared
  exact held

/-- Taking note of revisions has no part in what is stored and remembered. -/
theorem Coupled.seen (coupled : updater.Coupled) (mesh faults : Nat) :
    Coupled { updater with seenMesh := mesh, seenFaults := faults } :=
  ⟨coupled.remember, coupled.serves, coupled.dated, coupled.numbered⟩

/-- An update that finds a mesh with services builds. -/
theorem Coupled.update_settles (coupled : updater.Coupled) {mesh : Watched (Option MultiZone)}
    {state : MultiZone} (published : mesh.value = some state)
    (busy : state.hasNoServices = false) (faults : FaultService) (now : Time) :
    updater.Settles (updater.update mesh faults now).1 := by
  unfold Updater.update
  dsimp only
  rw [published]
  dsimp only
  rw [busy, if_neg Bool.false_ne_true]
  have settles {faults : List Fault} {seen : Nat} := (coupled.seen mesh.revision seen).tick state faults
  exact ⟨settles.coupled, settles.groups, settles.stored, settles.versioned, settles.keep⟩

/-- Who follows which group has no part in it either. -/
theorem Coupled.withStore (coupled : updater.Coupled) {store : SnapshotStore}
    (same : ∀ group, store.snapshot? group = updater.store.snapshot? group) :
    Coupled { updater with store := store } := by
  refine ⟨fun group => ?_, coupled.serves, fun group stored found => ?_, coupled.numbered⟩
  · rw [same]
    exact coupled.remember group
  · exact coupled.dated group stored ((same group).symm.trans found)

theorem Coupled.update (coupled : updater.Coupled) (mesh : Watched (Option MultiZone))
    (faults : FaultService) (now : Time) : (updater.update mesh faults now).1.Coupled := by
  rw [update_eq_updateBy]
  rcases updater.updateBy_cases Updater.tick mesh faults now with
    idle | ⟨state, active, behind, -, -, built⟩
  · rw [idle]
    exact coupled.seen _ _
  · rw [built]
    exact ((coupled.seen _ _).tick state active).coupled

/-- As many collections of each kind are alive as there are distinct ones in the snapshots. -/
theorem Coupled.liveEntries_eq (coupled : updater.Coupled) :
    updater.liveEntries =
      [(updater.store.snapshots.map (·.clusters.resources)).dedup.length,
        (updater.store.snapshots.map (·.endpoints.resources)).dedup.length,
        (updater.store.snapshots.map (·.routes.resources)).dedup.length] := by
  obtain ⟨remember, serves, -, -⟩ := coupled
  have serving := serves.mono fun entry member => (remember.held entry).mp member
  rw [Updater.liveEntries, Updater.holdings, SnapshotBuilder.holdings_stored]
  exact serving.liveEntries_eq fun entry =>
    (remember.held entry).trans (remember.mem_values entry)

end Updater

namespace System

theorem handle_coupled {system : System} (coupled : system.updater.Coupled)
    (event : SystemEvent) : (system.handle Updater.update event).updater.Coupled := by
  cases event with
  | mesh state => exact coupled
  | submit now fault => exact coupled
  | delete id => exact coupled
  | outage problem => exact coupled
  | subscribe group => exact coupled.withStore (SnapshotStore.snapshot?_subscribe _ group)
  | unsubscribe follower => exact coupled.withStore (SnapshotStore.snapshot?_unsubscribe _ follower)
  | update now => exact coupled.update system.mesh system.faults now

theorem run_coupled (config : BuilderConfig) (events : List SystemEvent) :
    (run Updater.update config events).updater.Coupled := by
  induction events using List.reverseRecOn with
  | nil => exact .start config
  | append_singleton events event ih =>
      rw [run_snoc]
      exact handle_coupled ih event

/-- Behind an update that builds, at the end of any run: versions are remembered of exactly the groups
that are still followed, each of which has a snapshot; what is remembered of a group are the versions
and the handles in its snapshot; as many collections of each kind are alive as there are distinct ones
in the stored snapshots; the version of a kind differs from the one before the update exactly if its
collection does; and a collection that is kept in a cache is one of a stored snapshot. -/
theorem stored_remembered_kept (config : BuilderConfig) (events : List SystemEvent) (now : Time)
    {state : MultiZone}
    (published : (run Updater.update config events).mesh.value = some state)
    (busy : state.hasNoServices = false) :
    let before := (run Updater.update config events).updater
    let after := (run Updater.update config (events ++ [.update now])).updater
    (∀ group, group ∈ after.builder.versions.byGroup.keys ↔ group ∈ before.store.prune.groups) ∧
    (∀ group ∈ before.store.prune.groups, ∃ snapshot,
      after.store.snapshot? group = some snapshot ∧
        after.builder.versions.byGroup.get? group = some snapshot.remembered) ∧
    after.liveEntries =
      [(after.store.snapshots.map (·.clusters.resources)).dedup.length,
        (after.store.snapshots.map (·.endpoints.resources)).dedup.length,
        (after.store.snapshots.map (·.routes.resources)).dedup.length] ∧
    (∀ group old new, before.store.snapshot? group = some old →
      after.store.snapshot? group = some new → ∀ kind,
        old.versions.of kind ≠ new.versions.of kind ↔ ¬ old.content.Agrees new.content kind) ∧
    (∀ slot ∈ after.builder.caches.clusters.slots, ∃ snapshot ∈ after.store.snapshots,
      slot.handle = snapshot.clusters) ∧
    (∀ slot ∈ after.builder.caches.endpoints.slots, ∃ snapshot ∈ after.store.snapshots,
      slot.handle = snapshot.endpoints) ∧
    (∀ slot ∈ after.builder.caches.routes.slots, ∃ snapshot ∈ after.store.snapshots,
      slot.handle = snapshot.routes) := by
  intro before after
  have settles : before.Settles after := by
    rw [show after = _ from congrArg System.updater (run_snoc Updater.update config events _)]
    exact (run_coupled config events).update_settles published busy _ now
  obtain ⟨coupled, groups, stored, versioned, keep⟩ := settles
  have remember := coupled.remember
  have followed (group : ConsumerGroup) :
      group ∈ before.store.prune.groups ↔ after.store.isRegistered group = true := by
    rw [SnapshotStore.mem_groups, groups]
  have holder {α : Type} {handle : GroupVersions → Handle α} {kept : Handle α}
      (held : kept ∈ after.builder.versions.byGroup.values.map handle) :
      ∃ snapshot ∈ after.store.snapshots, kept = handle snapshot.remembered := by
    obtain ⟨entry, listed, rfl⟩ := List.mem_map.mp held
    obtain ⟨snapshot, member, rfl⟩ := List.mem_map.mp ((remember.mem_values entry).mp listed)
    exact ⟨snapshot, member, rfl⟩
  refine ⟨fun group => ?_, fun group listed => ?_, coupled.liveEntries_eq, fun group old new earlier later kind => ?_,
    fun slot member => holder (keep.clusters slot member),
    fun slot member => holder (keep.endpoints slot member),
    fun slot member => holder (keep.routes slot member)⟩
  · rw [SortedMap.mem_keys, remember, Option.isSome_map, followed]
    constructor
    · intro found
      obtain ⟨snapshot, has⟩ := Option.isSome_iff_exists.mp found
      exact SnapshotStore.isRegistered_of_snapshot? has
    · exact stored group
  · obtain ⟨snapshot, found⟩ := Option.isSome_iff_exists.mp (stored group ((followed group).mp listed))
    exact ⟨snapshot, found, by rw [remember, found, Option.map_some]⟩
  · exact not_congr (versioned group old new earlier later kind)

/-- The only collections behind a first build are those of the one group that is followed. -/
theorem stored_remembered_kept_first :
    let web : ConsumerGroup := ⟨"web", .global, .services (SortedSet.ofList ["api"])⟩
    let mesh : MultiZone := ⟨[⟨"home", .local, Services.ofList [⟨"api", ∅⟩]⟩]⟩
    let config : BuilderConfig := ⟨.zero, none, [], false⟩
    let events := [.subscribe web, .mesh mesh]
    (run Updater.update config events).mesh.value = some mesh ∧ mesh.hasNoServices = false ∧
      web ∈ (run Updater.update config (events ++ [.update 0])).updater.builder.versions.byGroup.keys := by
  intro web mesh config events
  have published : (run Updater.update config events).mesh.value = some mesh := rfl
  have busy : mesh.hasNoServices = false := by decide
  obtain ⟨groups, -⟩ := stored_remembered_kept config events 0 published busy
  exact ⟨published, busy, (groups web).mpr (SnapshotStore.mem_groups.mpr (by decide))⟩

end System

end ServiceMesh
