import Mathlib.Data.List.Induction
import ServiceMesh.Proofs.Snapshot.Rebuild
import ServiceMesh.Proofs.Snapshot.Thinning

/-! Building only what can be out of date gives every group what building everything gives it. An
updater that takes over resources and leaves groups alone is compared with one that does neither. -/
namespace ServiceMesh

namespace Updater

variable {updater other : Updater} {zones : List (String × Locality)} {mesh : MultiZone}
  {faults : List Fault}

/-- Makes the resources of all services anew and builds and publishes the snapshots of all groups. -/
def tickAll (updater : Updater) (mesh : MultiZone) (faults : List Fault) : Updater :=
  updater.rebuild mesh faults
    (updater.builder.config.global mesh (updater.last.map Built.global)) fun _ _ => true

/-- An update that builds in some way. -/
def updateBy (tick : Updater → MultiZone → List Fault → Updater) (updater : Updater)
    (mesh : Watched (Option MultiZone)) (faults : FaultService) (now : Time) :
    Updater × FaultService :=
  let updater := { updater with seenMesh := mesh.revision }
  match mesh.value with
  | none => (updater, faults)
  | some state =>
      if state.hasNoServices then (updater, faults)
      else
        let (active, faults) := updater.faultsFor faults now
        (tick { updater with seenFaults := faults.revision } state active, faults)

theorem update_eq_updateBy : update = updateBy tick := rfl

/-- An update takes note of the revision of the mesh, and ticks with the faults that are to be had if it
finds services. -/
theorem updateBy_cases (tick : Updater → MultiZone → List Fault → Updater) (updater : Updater)
    (mesh : Watched (Option MultiZone)) (faults : FaultService) (now : Time) :
    updater.updateBy tick mesh faults now = ({ updater with seenMesh := mesh.revision }, faults) ∨
      ∃ state active behind, mesh.value = some state ∧
        updater.faultsFor faults now = (active, behind) ∧
        updater.updateBy tick mesh faults now = (tick { updater with
          seenMesh := mesh.revision, seenFaults := behind.revision } state active, behind) := by
  cases published : mesh.value with
  | none => exact .inl (by simp only [updateBy, published])
  | some state =>
      cases busy : state.hasNoServices with
      | true => exact .inl (by simp only [updateBy, published, busy, if_true])
      | false =>
          refine .inr ⟨state, _, _, rfl, rfl, ?_⟩
          simp only [updateBy, published, busy, Bool.false_eq_true, if_false]
          rfl

/-- An update that takes nothing over and leaves nothing out. -/
def updateAll : Updater → Watched (Option MultiZone) → FaultService → Time →
    Updater × FaultService :=
  updateBy tickAll

/-- The groups that a build spares hold what they would be given. -/
theorem Tidy.spares (tidy : updater.Tidy zones) (distinct : (zones.map Prod.fst).Nodup)
    (zoned : mesh.Over zones) {group : ConsumerGroup}
    (spared : needsRebuild updater.store.prune (updater.changedServices mesh)
      (updater.haveFaultsChanged faults) group = false) :
    updater.store.prune.Holds (fun group => updater.builder.config.content group
      (updater.builder.config.global mesh (updater.last.map Built.global)) faults) group := by
  refine holds_of_needsRebuild tidy.genuine distinct zoned (fun stored found => ?_) spared
  obtain ⟨last, built, content, -⟩ := tidy.stored group stored (SnapshotStore.snapshot?_of_prune found)
  exact ⟨last, built, content⟩

/-- Two updaters that show the same and were built from the same. -/
structure Alike (first second : Updater) : Prop where
  config : first.builder.config = second.builder.config
  versions : first.builder.versions.Alike second.builder.versions
  store : first.store.Alike second.store
  generation : first.generation = second.generation
  last : first.last = second.last

theorem Tidy.tick (tidy : updater.Tidy zones) (distinct : (zones.map Prod.fst).Nodup)
    (zoned : mesh.Over zones) : (updater.tick mesh faults).Tidy zones := by
  rw [tick_eq_rebuild, globalFor_eq tidy.genuine]
  exact tidy.rebuild zoned fun group spared => tidy.spares distinct zoned spared

theorem Tidy.tickAll (tidy : updater.Tidy zones) (zoned : mesh.Over zones) :
    (updater.tickAll mesh faults).Tidy zones := by
  refine tidy.rebuild zoned fun group spared => ?_
  contradiction

theorem Alike.retain (alike : updater.Alike other) (groups : SortedSet ConsumerGroup) :
    (updater.builder.versions.retain groups).Alike (other.builder.versions.retain groups) := by
  refine ⟨alike.versions.issued, fun group => ?_⟩
  rw [SnapshotVersions.shown?_retain, SnapshotVersions.shown?_retain, alike.versions.shown]

theorem Alike.tick (alike : updater.Alike other) (tidy : updater.Tidy zones)
    (others : other.Tidy zones) (distinct : (zones.map Prod.fst).Nodup) (zoned : mesh.Over zones) :
    (updater.tick mesh faults).Alike (other.tickAll mesh faults) := by
  have stores := alike.store.prune
  rw [tick_eq_rebuild, globalFor_eq tidy.genuine, tickAll, ← alike.config, ← alike.last]
  set keep := needsRebuild updater.store.prune (updater.changedServices mesh)
    (updater.haveFaultsChanged faults) with isKeep
  set global := updater.builder.config.global mesh (updater.last.map Built.global) with isGlobal
  set groups := updater.store.prune.groups with isGroups
  set target : ConsumerGroup → SnapshotContent :=
    fun group => updater.builder.config.content group global faults with isTarget
  have sameGroups : other.store.prune.groups = groups := stores.groups.symm
  have holds (group : ConsumerGroup) (spared : keep group = false) :
      other.store.prune.Holds target group :=
    stores.holds (tidy.spares distinct zoned spared)
  have thin : SnapshotBuilder.BuildsAll target (updater.generation + 1) _ _ _ _ :=
    SnapshotBuilder.buildAll_buildsAll (updater.builder.retain groups) updater.store.prune.holdings
      (groups.toList.filter keep) global faults (updater.generation + 1)
  have full := SnapshotBuilder.buildAll_buildsAll (other.builder.retain groups)
    other.store.prune.holdings groups.toList global faults (updater.generation + 1)
  rw [show (other.builder.retain groups).config = updater.builder.config from alike.config.symm]
    at full
  -- A group that is spared shows the wanted content under its versions in both.
  have shown (group : ConsumerGroup) (spared : keep group = false) :
      ∃ versions, (other.builder.retain groups).versions.shown? group =
        some (versions, target group) := by
    obtain ⟨stored, found, content⟩ := holds group spared
    refine ⟨stored.versions, ?_⟩
    rw [← sameGroups, others.shown_retain found, content]
  have dated : other.store.prune.Dated (updater.generation + 1) := by
    rw [alike.generation]
    exact others.dated.prune
  unfold rebuild
  dsimp only
  rw [sameGroups, ← alike.generation, List.filter_true]
  generalize (updater.builder.retain groups).buildAll _ _ _ _ _ = mine at thin ⊢
  generalize (other.builder.retain groups).buildAll _ _ _ _ _ = yours at full ⊢
  obtain ⟨first, builder⟩ := mine
  obtain ⟨second, builder'⟩ := yours
  obtain ⟨versions, thins⟩ := thin.thins full (alike.retain groups) shown
  have store := SnapshotStore.Alike.publishAll thins stores tidy.dated.prune dated
    (fun snapshot member => (thin.mem member).1)
    (fun snapshot member => ⟨(full.mem member).1, (full.mem member).2.1⟩) holds
  refine ⟨?_, versions, store, rfl, rfl⟩
  exact thin.config_eq.trans (alike.config.trans full.config_eq.symm)

theorem Tidy.updateBy {tick : Updater → MultiZone → List Fault → Updater}
    (tidy : updater.Tidy zones) {mesh : Watched (Option MultiZone)}
    (zoned : ∀ state, mesh.value = some state → state.Over zones)
    (ticks : ∀ (updater : Updater) state faults, updater.Tidy zones → state.Over zones →
      (tick updater state faults).Tidy zones) (faults : FaultService) (now : Time) :
    (updater.updateBy tick mesh faults now).1.Tidy zones := by
  rcases updater.updateBy_cases tick mesh faults now with
    idle | ⟨state, active, behind, published, -, built⟩
  · rw [idle]
    exact ⟨tidy.genuine, tidy.stored, tidy.dated⟩
  · rw [built]
    exact ticks _ _ _ ⟨tidy.genuine, tidy.stored, tidy.dated⟩ (zoned state published)

theorem Alike.update (alike : updater.Alike other) (tidy : updater.Tidy zones)
    (others : other.Tidy zones) (distinct : (zones.map Prod.fst).Nodup)
    {mesh : Watched (Option MultiZone)}
    (zoned : ∀ state, mesh.value = some state → state.Over zones) (faults : FaultService)
    (now : Time) :
    (updater.update mesh faults now).1.Alike (other.updateAll mesh faults now).1 ∧
      (updater.update mesh faults now).2 = (other.updateAll mesh faults now).2 := by
  have seen (mesh faults faults' : Nat) : Alike
      { updater with seenMesh := mesh, seenFaults := faults }
      { other with seenMesh := mesh, seenFaults := faults' } :=
    ⟨alike.config, alike.versions, alike.store, alike.generation, alike.last⟩
  have asked : { other with seenMesh := mesh.revision }.faultsFor faults now =
      { updater with seenMesh := mesh.revision }.faultsFor faults now := by
    unfold faultsFor
    rw [alike.last]
  rw [update_eq_updateBy, updateAll]
  unfold Updater.updateBy
  dsimp only
  rw [asked]
  split
  · exact ⟨seen _ _ _, rfl⟩
  case h_2 state published =>
    split
    · exact ⟨seen _ _ _, rfl⟩
    · refine ⟨(seen _ _ _).tick ?_ ?_ distinct (zoned state published), rfl⟩
      · exact ⟨tidy.genuine, tidy.stored, tidy.dated⟩
      · exact ⟨others.genuine, others.stored, others.dated⟩

end Updater

/-! ### Runs -/

/-- An updater with what it looks at: the published state of the mesh, and the faults. -/
structure System where
  updater : Updater
  mesh : Watched (Option MultiZone)
  faults : FaultService

/-- What can happen to an updater: a new state of the mesh, a change of the faults or of their being
within reach, somebody who begins or ends to follow a group, and an update. -/
inductive SystemEvent where
  | mesh (state : MultiZone)
  | submit (now : Time) (fault : Fault)
  | delete (id : String)
  | outage (problem : Option FaultStoreError)
  | subscribe (group : ConsumerGroup)
  | unsubscribe (follower : Follower)
  | update (now : Time)

namespace System

def start (config : BuilderConfig) : System := ⟨.start config, .start none, .start⟩

def handle (update : Updater → Watched (Option MultiZone) → FaultService → Time →
    Updater × FaultService) (system : System) : SystemEvent → System
  | .mesh state => { system with mesh := system.mesh.set (some state) }
  | .submit now fault =>
      { system with faults := (system.faults.submit now fault).toOption.getD system.faults }
  | .delete id => { system with faults := (system.faults.delete id).toOption.getD system.faults }
  | .outage problem => { system with faults := { system.faults with outage := problem } }
  | .subscribe group =>
      { system with updater := { system.updater with
          store := (system.updater.store.subscribe group).2 } }
  | .unsubscribe follower =>
      { system with updater := { system.updater with
          store := system.updater.store.unsubscribe follower } }
  | .update now =>
      let (updater, faults) := update system.updater system.mesh system.faults now
      { system with updater := updater, faults := faults }

/-- A system behind a list of events, which updates in some way. -/
def run (update : Updater → Watched (Option MultiZone) → FaultService → Time →
    Updater × FaultService) (config : BuilderConfig) (events : List SystemEvent) : System :=
  events.foldl (handle update) (start config)

theorem run_nil (update : Updater → Watched (Option MultiZone) → FaultService → Time →
    Updater × FaultService) (config : BuilderConfig) : run update config [] = start config := rfl

theorem run_snoc (update : Updater → Watched (Option MultiZone) → FaultService → Time →
    Updater × FaultService) (config : BuilderConfig) (events : List SystemEvent)
    (event : SystemEvent) :
    run update config (events ++ [event]) = (run update config events).handle update event := by
  rw [run, List.foldl_append]
  rfl

variable {zones : List (String × Locality)}

/-- An updater is tidy, and looks at a mesh of known zones. -/
structure Sound (zones : List (String × Locality)) (system : System) : Prop where
  tidy : system.updater.Tidy zones
  zoned : ∀ state, system.mesh.value = some state → state.Over zones

theorem sound_start (zones : List (String × Locality)) (config : BuilderConfig) :
    (start config).Sound zones := by
  refine ⟨⟨fun last built => ?_, fun group snapshot found => ?_, fun group snapshot found => ?_⟩,
    fun state published => ?_⟩ <;> contradiction

theorem alike_start (config : BuilderConfig) :
    (start config).updater.Alike (start config).updater :=
  ⟨rfl, ⟨rfl, fun _ => rfl⟩, ⟨rfl, fun _ => rfl⟩, rfl, rfl⟩

theorem Sound.handle {tick : Updater → MultiZone → List Fault → Updater} {system : System}
    (sound : system.Sound zones)
    (ticks : ∀ (updater : Updater) state faults, updater.Tidy zones → state.Over zones →
      (tick updater state faults).Tidy zones) (event : SystemEvent)
    (known : ∀ state, event = .mesh state → state.Over zones) :
    (system.handle (Updater.updateBy tick) event).Sound zones := by
  obtain ⟨tidy, zoned⟩ := sound
  cases event with
  | mesh state =>
      refine ⟨tidy, fun other published => ?_⟩
      cases published
      exact known state rfl
  | submit now fault => exact ⟨tidy, zoned⟩
  | delete id => exact ⟨tidy, zoned⟩
  | outage problem => exact ⟨tidy, zoned⟩
  | subscribe group =>
      refine ⟨⟨tidy.genuine, fun named snapshot found => ?_, fun named snapshot found => ?_⟩, zoned⟩
      · exact tidy.stored named snapshot ((SnapshotStore.snapshot?_subscribe _ _ _).symm.trans found)
      · exact tidy.dated named snapshot ((SnapshotStore.snapshot?_subscribe _ _ _).symm.trans found)
  | unsubscribe follower =>
      refine ⟨⟨tidy.genuine, fun named snapshot found => ?_, fun named snapshot found => ?_⟩, zoned⟩
      · exact tidy.stored named snapshot ((SnapshotStore.snapshot?_unsubscribe _ _ _).symm.trans found)
      · exact tidy.dated named snapshot ((SnapshotStore.snapshot?_unsubscribe _ _ _).symm.trans found)
  | update now => exact ⟨tidy.updateBy zoned ticks system.faults now, zoned⟩

theorem Sound.update {system : System} (sound : system.Sound zones)
    (distinct : (zones.map Prod.fst).Nodup) (event : SystemEvent)
    (known : ∀ state, event = .mesh state → state.Over zones) :
    (system.handle Updater.update event).Sound zones := by
  rw [Updater.update_eq_updateBy]
  exact sound.handle (fun _ _ _ tidy zoned => tidy.tick distinct zoned) event known

theorem Sound.updateAll {system : System} (sound : system.Sound zones) (event : SystemEvent)
    (known : ∀ state, event = .mesh state → state.Over zones) :
    (system.handle Updater.updateAll event).Sound zones := by
  rw [Updater.updateAll]
  exact sound.handle (fun _ _ _ tidy zoned => tidy.tickAll zoned) event known

/-- Two systems that differ in nothing but what is not shown. -/
structure Alike (first second : System) : Prop where
  updater : first.updater.Alike second.updater
  mesh : first.mesh = second.mesh
  faults : first.faults = second.faults

theorem Alike.handle {first second : System} (alike : first.Alike second)
    (distinct : (zones.map Prod.fst).Nodup) (sound : first.Sound zones)
    (others : second.Sound zones) (event : SystemEvent) :
    (first.handle Updater.update event).Alike (second.handle Updater.updateAll event) := by
  obtain ⟨updater, mesh, faults⟩ := alike
  have rest {store store' : SnapshotStore} (stores : store.Alike store') :
      Updater.Alike { first.updater with store := store }
        { second.updater with store := store' } :=
    ⟨updater.config, updater.versions, stores, updater.generation, updater.last⟩
  cases event with
  | mesh state => exact ⟨updater, congrArg (·.set (some state)) mesh, faults⟩
  | submit now fault =>
      refine ⟨updater, mesh, ?_⟩
      simp only [System.handle, faults]
  | delete id =>
      refine ⟨updater, mesh, ?_⟩
      simp only [System.handle, faults]
  | outage problem =>
      refine ⟨updater, mesh, ?_⟩
      simp only [System.handle, faults]
  | subscribe group => exact ⟨rest (updater.store.subscribe group), mesh, faults⟩
  | unsubscribe follower => exact ⟨rest (updater.store.unsubscribe follower), mesh, faults⟩
  | update now =>
      obtain ⟨behind, listed⟩ :=
        updater.update sound.tidy others.tidy distinct sound.zoned first.faults now
      simp only [System.handle]
      rw [← mesh, ← faults]
      exact ⟨behind, rfl, listed⟩

/-- Along every run the two systems stay alike. -/
theorem run_alike (distinct : (zones.map Prod.fst).Nodup) (config : BuilderConfig)
    {events : List SystemEvent} (known : ∀ state, .mesh state ∈ events → state.Over zones) :
    (run Updater.update config events).Alike (run Updater.updateAll config events) ∧
      (run Updater.update config events).Sound zones ∧
      (run Updater.updateAll config events).Sound zones := by
  induction events using List.reverseRecOn with
  | nil =>
      rw [run_nil, run_nil]
      exact ⟨⟨alike_start config, rfl, rfl⟩, sound_start zones config, sound_start zones config⟩
  | append_singleton events event ih =>
      have earlier (state : MultiZone) (member : .mesh state ∈ events) : state.Over zones :=
        known state (List.mem_append_left _ member)
      have latest (state : MultiZone) (same : event = .mesh state) : state.Over zones :=
        known state (List.mem_append_right _ (same ▸ List.mem_cons_self))
      obtain ⟨alike, sound, others⟩ := ih earlier
      rw [run_snoc, run_snoc]
      exact ⟨alike.handle distinct sound others event, sound.update distinct event latest,
        others.updateAll event latest⟩

/-- Behind any events the same groups are registered, and each has the same content under the same
versions and the same news for everybody who follows it, as if each update had made everything anew
and had built and published the snapshots of all groups. It makes no difference either which states
of the mesh are taken to be the one of the last build. -/
theorem incremental_eq_full {zones : List (String × Locality)}
    (distinct : (zones.map Prod.fst).Nodup) (config : BuilderConfig) (events : List SystemEvent)
    (known : ∀ state, .mesh state ∈ events → state.Over zones) (group : ConsumerGroup) :
    let updater := (run Updater.update config events).updater
    let full := (run Updater.updateAll config events).updater
    updater.store.isRegistered group = full.store.isRegistered group ∧
      (updater.store.snapshot? group).map Snapshot.content =
        (full.store.snapshot? group).map Snapshot.content ∧
      (updater.store.snapshot? group).map Snapshot.versions =
        (full.store.snapshot? group).map Snapshot.versions ∧
      (∀ follower, updater.store.hasNews follower = full.store.hasNews follower) ∧
      ∀ mesh, updater.globalFor mesh =
        updater.builder.config.global mesh (updater.last.map Built.global) := by
  intro updater full
  obtain ⟨⟨behind, -, -⟩, sound, -⟩ := run_alike distinct config known
  have alike := behind.store
  have shown := alike.snapshot? group
  refine ⟨alike.isRegistered group, ?_, ?_, alike.hasNews, Updater.globalFor_eq sound.tidy.genuine⟩
  · have contents := congrArg (Option.map Prod.snd) shown
    rwa [Option.map_map, Option.map_map] at contents
  · have versions := congrArg (Option.map Prod.fst) shown
    rwa [Option.map_map, Option.map_map] at versions

/-- A second state of the mesh that does not concern a group. -/
theorem incremental_eq_full_unconcerned :
    let zones := [("home", Locality.local)]
    let web : ConsumerGroup := ⟨"web", .global, .services (SortedSet.ofList ["api"])⟩
    let mesh (names : List String) : MultiZone :=
      ⟨[⟨"home", .local, Services.ofList (names.map fun name => ⟨name, ∅⟩)⟩]⟩
    let config : BuilderConfig := ⟨.zero, none, [], false⟩
    let events := [.subscribe web, .mesh (mesh ["api"]), .update 0, .mesh (mesh ["api", "db"]),
      .update 1]
    (zones.map Prod.fst).Nodup ∧ (∀ state, .mesh state ∈ events → state.Over zones) ∧
      ((run Updater.update config events).updater.store.snapshot? web).map Snapshot.content =
        ((run Updater.updateAll config events).updater.store.snapshot? web).map
          Snapshot.content := by
  intro zones web mesh config events
  have distinct : (zones.map Prod.fst).Nodup := by decide
  have zoned (names : List String) : (mesh names).Over zones := by
    intro zone member
    cases List.mem_singleton.mp member
    exact List.mem_cons_self
  have known (state : MultiZone) (member : .mesh state ∈ events) : state.Over zones := by
    simp only [events, List.mem_cons, reduceCtorEq, SystemEvent.mesh.injEq, List.not_mem_nil,
      false_or, or_false] at member
    rcases member with rfl | rfl
    · exact zoned _
    · exact zoned _
  exact ⟨distinct, known, (incremental_eq_full distinct config events known web).2.1⟩

end System

end ServiceMesh
