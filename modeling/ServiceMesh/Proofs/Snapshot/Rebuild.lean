import ServiceMesh.Proofs.Snapshot.Publishing
import ServiceMesh.Proofs.Snapshot.Stability
import ServiceMesh.Snapshot.Updater

/-! Behind each build every group holds what its resources are then: those that are built anew, and
those that are left alone because nothing changed for them. -/
namespace ServiceMesh

namespace Built

/-- The resources of all services were made from the mesh they go with, and its zones are known. -/
structure Genuine (built : Built) (zones : List (String × Locality)) (config : BuilderConfig) :
    Prop where
  zoned : built.mesh.Over zones
  made : ∃ previous, built.global = config.global built.mesh previous

/-- What a group receives out of a build. -/
def target (built : Built) (config : BuilderConfig) (group : ConsumerGroup) : SnapshotContent :=
  config.content group built.global built.faults

variable {built : Built} {zones : List (String × Locality)} {config : BuilderConfig}
  {mesh : MultiZone} {group : ConsumerGroup} {store : SnapshotStore} {faults : List Fault}

/-- A group that needs no rebuild has a snapshot, and what it depends on is filed as before. -/
theorem unchanged_of_needsRebuild {changed : SortedSet String} {faultsChanged : Bool}
    (spared : Updater.needsRebuild store changed faultsChanged group = false) :
    faultsChanged = false ∧ (store.snapshot? group).isSome = true ∧
      ∀ name, group.dependsOn name = true → name ∉ changed := by
  unfold Updater.needsRebuild at spared
  split at spared
  case isTrue => contradiction
  case isFalse calm =>
    obtain ⟨faultsSame, held⟩ := not_or.mp (mt Bool.or_eq_true_iff.mpr calm)
    refine ⟨eq_false_of_ne_true faultsSame, by simpa [Option.isSome_iff_ne_none] using held, ?_⟩
    split at spared
    case isTrue =>
      have none : changed = ∅ := SortedSet.isEmpty_iff.mp (by simpa using spared)
      intro name _
      rw [none]
      exact SortedSet.notMem_empty name
    case isFalse =>
      intro name depends member
      have free := List.any_eq_false.mp spared name (SortedSet.mem_toList.mpr member)
      exact free depends

/-- A group that needs no rebuild receives what it has. -/
theorem Genuine.target_eq (genuine : built.Genuine zones config)
    (distinct : (zones.map Prod.fst).Nodup) (zoned : mesh.Over zones)
    (spared : Updater.needsRebuild store (mesh.changedServices built.mesh)
      (built.faults != faults) group = false) :
    config.content group (config.global mesh (some built.global)) faults =
      built.target config group := by
  obtain ⟨faultsSame, -, unchanged⟩ := unchanged_of_needsRebuild spared
  obtain ⟨previous, made⟩ := genuine.made
  have faultsSame : built.faults = faults := by simpa using faultsSame
  rw [target, faultsSame, made]
  exact BuilderConfig.content_stable distinct zoned genuine.zoned
    (fun name depends => MultiZone.byZone_eq_of_notMem (unchanged name depends)) faults

end Built

namespace Updater

variable {updater : Updater} {zones : List (String × Locality)} {mesh : MultiZone}
  {faults : List Fault}

/-- The resources that can be taken over were made from the mesh that they go with. -/
def Made (updater : Updater) : Prop :=
  ∀ last, updater.last = some last →
    ∃ previous, last.global = updater.builder.config.global last.mesh previous

/-- Resources that are taken over are those that would be made again. -/
theorem Made.globalFor_eq (made : updater.Made) (mesh : MultiZone) :
    updater.globalFor mesh =
      updater.builder.config.global mesh (updater.last.map Built.global) := by
  unfold globalFor
  cases built : updater.last with
  | none => rfl
  | some last =>
      obtain ⟨previous, made⟩ := made last built
      dsimp only [Option.map_some]
      split
      case isTrue same => rw [made, same, BuilderConfig.global_again]
      case isFalse => rfl

theorem globalFor_eq (genuine : ∀ last, updater.last = some last →
      last.Genuine zones updater.builder.config) (mesh : MultiZone) :
    updater.globalFor mesh =
      updater.builder.config.global mesh (updater.last.map Built.global) :=
  Made.globalFor_eq (fun last built => (genuine last built).made) mesh

/-- Where what is stored comes from the last build, a group that needs no rebuild holds what it would
be given. -/
theorem holds_of_needsRebuild {config : BuilderConfig} {store : SnapshotStore}
    (genuine : ∀ last, updater.last = some last → last.Genuine zones config)
    (distinct : (zones.map Prod.fst).Nodup) (zoned : mesh.Over zones) {group : ConsumerGroup}
    (settled : ∀ snapshot, store.snapshot? group = some snapshot →
      ∃ last, updater.last = some last ∧ snapshot.content = last.target config group)
    (spared : needsRebuild store (updater.changedServices mesh) (updater.haveFaultsChanged faults)
      group = false) :
    store.Holds (fun group => config.content group
      (config.global mesh (updater.last.map Built.global)) faults) group := by
  obtain ⟨-, held, -⟩ := Built.unchanged_of_needsRebuild spared
  obtain ⟨stored, found⟩ := Option.isSome_iff_exists.mp held
  obtain ⟨last, built, content⟩ := settled stored found
  refine ⟨stored, found, ?_⟩
  rw [changedServices, haveFaultsChanged, built] at spared
  rw [content, built]
  exact ((genuine last built).target_eq distinct zoned spared).symm

/-- A build of those groups that are wanted. -/
def rebuild (updater : Updater) (mesh : MultiZone) (faults : List Fault) (global : GlobalSnapshot)
    (wanted : SnapshotStore → ConsumerGroup → Bool) : Updater :=
  let generation := updater.generation + 1
  let store := updater.store.prune
  let builder := updater.builder.retain store.groups
  let (built, builder) := builder.buildAll store.holdings
    (store.groups.toList.filter (wanted store)) global faults generation
  let (outcomes, store) := store.publishAll built
  { updater with
    builder := builder.purge store.holdings
    store := store
    generation := generation
    last := some ⟨mesh, global, faults⟩
    ready := true
    ticks := updater.ticks + 1
    publications := updater.publications ++ outcomes }

theorem tick_eq_rebuild (updater : Updater) (mesh : MultiZone) (faults : List Fault) :
    updater.tick mesh faults = updater.rebuild mesh faults (updater.globalFor mesh) fun store =>
      needsRebuild store (updater.changedServices mesh) (updater.haveFaultsChanged faults) := rfl

/-- What is stored is what the last build gives each group, under the versions that are shown. -/
structure Tidy (zones : List (String × Locality)) (updater : Updater) : Prop where
  genuine : ∀ last, updater.last = some last → last.Genuine zones updater.builder.config
  stored : ∀ group snapshot, updater.store.snapshot? group = some snapshot →
    ∃ last, updater.last = some last ∧
      snapshot.content = last.target updater.builder.config group ∧
      updater.builder.versions.shown? group = some (snapshot.versions, snapshot.content)
  dated : updater.store.Dated updater.generation

end Updater

theorem SnapshotStore.snapshot?_of_prune {store : SnapshotStore} {group : ConsumerGroup}
    {snapshot : Snapshot} (found : store.prune.snapshot? group = some snapshot) :
    store.snapshot? group = some snapshot := by
  obtain ⟨channel, kept, value⟩ := Option.bind_eq_some_iff.mp found
  rw [SnapshotStore.get?_prune] at kept
  rw [SnapshotStore.snapshot?_of_channel (Option.filter_eq_some_iff.mp kept).1, value]

/-- What is left behind a pruning is older than the generation to come. -/
theorem SnapshotStore.Dated.prune {store : SnapshotStore} {generation : Nat}
    (dated : store.Dated generation) : store.prune.Dated (generation + 1) := by
  intro group snapshot found
  exact Nat.le_succ_of_le (dated group snapshot (SnapshotStore.snapshot?_of_prune found))

theorem SnapshotVersions.shown?_retain (versions : SnapshotVersions)
    (groups : SortedSet ConsumerGroup) (group : ConsumerGroup) :
    (versions.retain groups).shown? group =
      if groups.contains group then versions.shown? group else none := by
  rw [shown?, retain, SortedMap.get?_filter, shown?]
  cases groups.contains group <;> cases versions.byGroup.get? group <;> rfl

namespace Updater

variable {updater : Updater} {zones : List (String × Locality)} {mesh : MultiZone}
  {faults : List Fault} {wanted : SnapshotStore → ConsumerGroup → Bool}

/-- The versions of what is left behind a pruning are still shown. -/
theorem Tidy.shown_retain (tidy : updater.Tidy zones) {group : ConsumerGroup} {snapshot : Snapshot}
    (found : updater.store.prune.snapshot? group = some snapshot) :
    (updater.builder.retain updater.store.prune.groups).versions.shown? group =
      some (snapshot.versions, snapshot.content) := by
  obtain ⟨last, -, -, shown⟩ := tidy.stored group snapshot (SnapshotStore.snapshot?_of_prune found)
  have listed : updater.store.prune.groups.contains group = true := SortedSet.contains_iff.mpr
    (SnapshotStore.mem_groups.mpr (SnapshotStore.isRegistered_of_snapshot? found))
  rw [SnapshotBuilder.retain, SnapshotVersions.shown?_retain, if_pos listed, shown]

/-- A build that leaves alone only groups with the right content leaves all of them with it. -/
theorem Tidy.rebuild (tidy : updater.Tidy zones) (zoned : mesh.Over zones)
    (spares : ∀ group, wanted updater.store.prune group = false →
      updater.store.prune.Holds (fun group => updater.builder.config.content group
        (updater.builder.config.global mesh (updater.last.map Built.global)) faults) group) :
    (updater.rebuild mesh faults
      (updater.builder.config.global mesh (updater.last.map Built.global)) wanted).Tidy zones := by
  set config := updater.builder.config with isConfig
  set global := config.global mesh (updater.last.map Built.global) with isGlobal
  set store := updater.store.prune with isStore
  set target : ConsumerGroup → SnapshotContent := fun group => config.content group global faults
  have builds : SnapshotBuilder.BuildsAll target (updater.generation + 1) _ _ _ _ :=
    SnapshotBuilder.buildAll_buildsAll (updater.builder.retain store.groups) store.holdings
      (store.groups.toList.filter (wanted store)) global faults (updater.generation + 1)
  have genuine : Built.Genuine ⟨mesh, global, faults⟩ zones config := ⟨zoned, _, rfl⟩
  unfold Updater.rebuild
  dsimp only
  generalize (updater.builder.retain store.groups).buildAll _ _ _ _ _ = made at builds ⊢
  obtain ⟨news, builder⟩ := made
  dsimp only at builds ⊢
  have inStep : store.InStep target builder.versions := by
    intro group snapshot found right
    refine builds.shown_kept ?_
    rw [tidy.shown_retain found, right]
  obtain ⟨laterDated, laterInStep, registered, holds⟩ :=
    SnapshotStore.publishAll_holds tidy.dated.prune inStep fun _ member => builds.mem member
  generalize store.publishAll news = published at laterDated laterInStep registered holds ⊢
  obtain ⟨outcomes, after⟩ := published
  dsimp only at laterDated laterInStep registered holds ⊢
  have config_eq : (builder.purge after.holdings).config = config := builds.config_eq
  refine ⟨fun last built => ?_, fun group snapshot found => ?_, laterDated⟩
  · cases built
    rw [config_eq]
    exact genuine
  · have known : store.isRegistered group = true := by
      rw [← registered]
      exact SnapshotStore.isRegistered_of_snapshot? found
    obtain ⟨stored, same, right⟩ : after.Holds target group := by
      refine holds group known ?_
      rw [builds.groups_eq, List.mem_filter]
      cases wants : wanted store group with
      | true => exact .inl ⟨SnapshotStore.mem_groups.mpr known, rfl⟩
      | false => exact .inr (spares group wants)
    rw [found] at same
    cases same
    have shown := laterInStep group snapshot found right
    refine ⟨_, rfl, ?_, ?_⟩
    · rw [config_eq]
      exact right
    · rw [right]
      exact shown

end Updater

end ServiceMesh
