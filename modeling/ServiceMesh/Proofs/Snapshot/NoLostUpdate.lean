import ServiceMesh.Proofs.Snapshot.Interleaving
import ServiceMesh.Proofs.Snapshot.Rebuild

/-! No update is lost, whatever others do between the steps of the loop: when it waits and nothing
tells it to go on, all snapshots are made from what there is. -/
namespace ServiceMesh.Interleaving

variable {zones : List (String × Locality)} {config : BuilderConfig} {world after : World}

namespace World

def isRegistered (world : World) (group : ConsumerGroup) : Bool :=
  world.updater.store.isRegistered group

def snapshot? (world : World) (group : ConsumerGroup) : Option Snapshot :=
  world.updater.store.snapshot? group

/-- Holds if a state of the mesh is published that the loop has not taken yet. -/
def hasMeshNews (world : World) : Bool := world.mesh.isNewsSince world.updater.seenMesh

/-- Everything that is stored comes from the last build. -/
def Settled (world : World) (config : BuilderConfig) : Prop :=
  ∀ group snapshot, world.snapshot? group = some snapshot →
    ∃ last, world.updater.last = some last ∧ snapshot.content = last.target config group

/-- A state of known zones which is the published one, unless there is news. -/
def Current (world : World) (zones : List (String × Locality)) (mesh : MultiZone) : Prop :=
  mesh.Over zones ∧ (world.hasMeshNews = false → world.mesh.value = some mesh)

/-- Each change of the faults that was announced was there when they were listed last, unless there
is a revision that the loop has not seen. -/
def Caught (world : World) : Prop :=
  world.faults.revision = world.updater.seenFaults →
    ∀ change < world.history.saved, change ∉ world.history.unannounced →
      change < world.history.listed

/-- A group without a snapshot, about which the loop will hear. -/
def Awaits (world : World) (group : ConsumerGroup) : Prop :=
  world.snapshot? group = none ∧ world.updater.store.groupAdded = true

/-- The last build was made from a state of the mesh and from the faults that were found last, and it
has reached all groups but those that the loop will hear about. -/
def UpToDate (world : World) (state : MultiZone) : Prop :=
  (∃ last, world.updater.last = some last ∧ last.mesh = state ∧
    last.faults = world.history.found) ∧ world.Caught ∧
  ∀ group, world.isRegistered group = true →
    (world.snapshot? group).isSome = true ∨ world.updater.store.groupAdded = true

/-- What holds of a world where the loop stands at some place. -/
def Fits (world : World) (zones : List (String × Locality)) (config : BuilderConfig) : Stage → Prop
  | .resting | .listening => world.Settled config ∧ ∀ state, world.hasMeshNews = false →
      world.mesh.value = some state → state.hasNoServices = false → world.UpToDate state
  | .reading => world.Settled config
  | .marking mesh | .listing mesh => world.Settled config ∧ world.Current zones mesh
  | .pruning mesh faults => world.Settled config ∧ world.Current zones mesh ∧
      faults = world.history.found ∧ world.Caught
  | .building mesh faults groups => world.Settled config ∧ world.Current zones mesh ∧
      faults = world.history.found ∧ world.Caught ∧
      ∀ group, world.isRegistered group = true → group ∈ groups ∨ world.Awaits group
  | .publishing built snapshots => built.Genuine zones config ∧ world.Current zones built.mesh ∧
      built.faults = world.history.found ∧ world.Caught ∧
      (∀ snapshot ∈ snapshots, snapshot.generation = world.updater.generation ∧
        snapshot.content = built.target config snapshot.group) ∧
      ∀ group, world.isRegistered group = true →
        world.updater.store.Holds (built.target config) group ∨
          group ∈ snapshots.map Snapshot.group ∨ world.Awaits group
  | .ended => True

/-- What holds of every world that can be reached. -/
structure Sound (world : World) (zones : List (String × Locality)) (config : BuilderConfig) :
    Prop where
  zoned : ∀ state, world.mesh.value = some state → state.Over zones
  config_eq : world.updater.builder.config = config
  genuine : ∀ last, world.updater.last = some last → last.Genuine zones config
  seenMesh : world.updater.seenMesh ≤ world.mesh.revision
  seenFaults : world.updater.seenFaults ≤ world.faults.revision
  dated : world.updater.store.Dated world.updater.generation
  fits : world.Fits zones config world.stage

theorem Sound.fits_of_stage (sound : world.Sound zones config) {stage : Stage}
    (stands : world.stage = stage) : world.Fits zones config stage := by
  rw [← stands]
  exact sound.fits

theorem sound_start (zones : List (String × Locality)) (config : BuilderConfig) :
    (start config).Sound zones config := by
  refine ⟨fun state published => ?_, rfl, fun last built => ?_, le_rfl, le_rfl,
    fun group snapshot found => ?_, fun group snapshot found => ?_⟩ <;> contradiction

/-! ### Steps of others -/

/-- What others may do to a world while the loop stands still. -/
structure Meanwhile (world after : World) (zones : List (String × Locality)) : Prop where
  stage : after.stage = world.stage
  updater : after.updater = { world.updater with store := after.updater.store }
  found : after.history.found = world.history.found
  zoned : ∀ state, after.mesh.value = some state → state.Over zones
  mesh : after.hasMeshNews = false → after.mesh = world.mesh
  meshRevision : world.mesh.revision ≤ after.mesh.revision
  faultsRevision : world.faults.revision ≤ after.faults.revision
  caught : world.Caught → after.Caught
  snapshots : ∀ group, after.snapshot? group = world.snapshot? group
  registered : ∀ group, after.isRegistered group = true →
    world.isRegistered group = true ∨ after.Awaits group
  added : world.updater.store.groupAdded = true → after.updater.store.groupAdded = true

namespace Meanwhile

variable (meanwhile : world.Meanwhile after zones)

include meanwhile

theorem last : after.updater.last = world.updater.last := by
  rw [meanwhile.updater]

theorem hasMeshNews (quiet : after.hasMeshNews = false) : world.hasMeshNews = false := by
  have same := meanwhile.mesh quiet
  rw [World.hasMeshNews, meanwhile.updater, same] at quiet
  exact quiet

theorem settled (settled : world.Settled config) : after.Settled config := by
  intro group snapshot found
  rw [meanwhile.snapshots] at found
  rw [meanwhile.last]
  exact settled group snapshot found

theorem current {mesh : MultiZone} (current : world.Current zones mesh) :
    after.Current zones mesh := by
  refine ⟨current.1, fun quiet => ?_⟩
  rw [meanwhile.mesh quiet]
  exact current.2 (meanwhile.hasMeshNews quiet)

theorem awaits {group : ConsumerGroup} (awaits : world.Awaits group) : after.Awaits group :=
  ⟨(meanwhile.snapshots group).trans awaits.1, meanwhile.added awaits.2⟩

theorem holds {target : ConsumerGroup → SnapshotContent} {group : ConsumerGroup}
    (holds : world.updater.store.Holds target group) : after.updater.store.Holds target group := by
  obtain ⟨stored, found, content⟩ := holds
  exact ⟨stored, (meanwhile.snapshots group).trans found, content⟩

theorem upToDate {state : MultiZone} (upToDate : world.UpToDate state) :
    after.UpToDate state := by
  obtain ⟨built, caught, reached⟩ := upToDate
  refine ⟨?_, meanwhile.caught caught, fun group known => ?_⟩
  · rw [meanwhile.last, meanwhile.found]
    exact built
  · rcases meanwhile.registered group known with known | awaits
    · rw [meanwhile.snapshots]
      exact (reached group known).imp id meanwhile.added
    · exact .inr awaits.2

theorem fits {stage : Stage} (fits : world.Fits zones config stage) :
    after.Fits zones config stage := by
  have waiting (fits : world.Settled config ∧ ∀ state, world.hasMeshNews = false →
      world.mesh.value = some state → state.hasNoServices = false → world.UpToDate state) :
      after.Settled config ∧ ∀ state, after.hasMeshNews = false →
        after.mesh.value = some state → state.hasNoServices = false → after.UpToDate state := by
    refine ⟨meanwhile.settled fits.1, fun state quiet published services => ?_⟩
    rw [meanwhile.mesh quiet] at published
    exact meanwhile.upToDate (fits.2 state (meanwhile.hasMeshNews quiet) published services)
  cases stage with
  | resting => exact waiting fits
  | listening => exact waiting fits
  | reading => exact meanwhile.settled fits
  | marking mesh => exact ⟨meanwhile.settled fits.1, meanwhile.current fits.2⟩
  | listing mesh => exact ⟨meanwhile.settled fits.1, meanwhile.current fits.2⟩
  | pruning mesh faults =>
      obtain ⟨settled, current, listed, caught⟩ := fits
      exact ⟨meanwhile.settled settled, meanwhile.current current,
        listed.trans meanwhile.found.symm, meanwhile.caught caught⟩
  | building mesh faults groups =>
      obtain ⟨settled, current, listed, caught, reached⟩ := fits
      refine ⟨meanwhile.settled settled, meanwhile.current current,
        listed.trans meanwhile.found.symm, meanwhile.caught caught, fun group known => ?_⟩
      rcases meanwhile.registered group known with known | awaits
      · exact (reached group known).imp id meanwhile.awaits
      · exact .inr awaits
  | publishing built snapshots =>
      obtain ⟨genuine, current, listed, caught, news, reached⟩ := fits
      refine ⟨genuine, meanwhile.current current, listed.trans meanwhile.found.symm,
        meanwhile.caught caught, fun snapshot member => ?_, fun group known => ?_⟩
      · rw [meanwhile.updater]
        exact news snapshot member
      · rcases meanwhile.registered group known with known | awaits
        · exact (reached group known).imp meanwhile.holds (.imp id meanwhile.awaits)
        · exact .inr (.inr awaits)
  | ended => trivial

theorem sound (sound : world.Sound zones config) : after.Sound zones config := by
  refine ⟨meanwhile.zoned, ?_, fun last built => ?_, ?_, ?_, fun group snapshot found => ?_, ?_⟩
  · rw [meanwhile.updater]
    exact sound.config_eq
  · rw [meanwhile.last] at built
    exact sound.genuine last built
  · rw [meanwhile.updater]
    exact sound.seenMesh.trans meanwhile.meshRevision
  · rw [meanwhile.updater]
    exact sound.seenFaults.trans meanwhile.faultsRevision
  · rw [meanwhile.updater]
    exact sound.dated group snapshot ((meanwhile.snapshots group).symm.trans found)
  · rw [meanwhile.stage]
    exact meanwhile.fits sound.fits

end Meanwhile

/-- Only the store changes, and only by who follows which groups. -/
theorem meanwhile_store (sound : world.Sound zones config) {store : SnapshotStore}
    (snapshots : ∀ group, store.snapshot? group = world.snapshot? group)
    (registered : ∀ group, store.isRegistered group = true →
      world.isRegistered group = true ∨ store.snapshot? group = none ∧ store.groupAdded = true)
    (added : world.updater.store.groupAdded = true → store.groupAdded = true) :
    world.Meanwhile (world.withStore store) zones :=
  ⟨rfl, rfl, rfl, sound.zoned, fun _ => rfl, le_rfl, le_rfl, id, snapshots, registered, added⟩

theorem meanwhile_save (sound : world.Sound zones config) (store : FaultStore) :
    world.Meanwhile (world.save store) zones := by
  refine ⟨rfl, rfl, rfl, sound.zoned, fun _ => rfl, le_rfl, le_rfl, fun caught seen change => ?_,
    fun _ => rfl, fun _ known => .inl known, id⟩
  intro numbered announced
  simp only [save, List.mem_cons, not_or] at numbered announced
  exact caught seen change (by omega) announced.2

theorem meanwhile_announce (sound : world.Sound zones config) (change : Nat) :
    world.Meanwhile (world.announce change) zones := by
  refine ⟨rfl, rfl, rfl, sound.zoned, fun _ => rfl, le_rfl, Nat.le_succ _, fun _ seen => ?_,
    fun _ => rfl, fun _ known => .inl known, id⟩
  have before := sound.seenFaults
  simp only [announce] at seen
  omega

theorem meanwhile_mesh (sound : world.Sound zones config) {state : MultiZone}
    (zoned : state.Over zones) :
    world.Meanwhile { world with mesh := world.mesh.set (some state) } zones := by
  refine ⟨rfl, rfl, rfl, fun other published => ?_, fun quiet => ?_, Nat.le_succ _, le_rfl, id,
    fun _ => rfl, fun _ known => .inl known, id⟩
  · cases published
    exact zoned
  · have before := sound.seenMesh
    simp only [World.hasMeshNews, Watched.isNewsSince, Watched.set, bne_eq_false_iff_eq] at quiet
    omega

/-- A group that comes up has no snapshot, and the loop will hear about it. -/
theorem meanwhile_subscribe (sound : world.Sound zones config) (group : ConsumerGroup) :
    world.Meanwhile (world.withStore (world.updater.store.subscribe group).2) zones := by
  refine meanwhile_store sound (fun other => SnapshotStore.snapshot?_subscribe _ _ _)
    (fun other known => ?_) (fun added => ?_)
  · rw [SnapshotStore.snapshot?_subscribe, SnapshotStore.groupAdded_subscribe]
    cases before : world.updater.store.isRegistered other with
    | true => exact .inl before
    | false =>
        rw [SnapshotStore.isRegistered_subscribe, before] at known
        have same : group = other := by simpa using known
        subst same
        refine .inr ⟨?_, by rw [before]; simp⟩
        by_contra held
        obtain ⟨snapshot, found⟩ := Option.ne_none_iff_exists'.mp held
        rw [SnapshotStore.isRegistered_of_snapshot? found] at before
        contradiction
  · rw [SnapshotStore.groupAdded_subscribe, added, Bool.true_or]

theorem meanwhile_unsubscribe (sound : world.Sound zones config) (follower : Follower) :
    world.Meanwhile (world.withStore (world.updater.store.unsubscribe follower)) zones := by
  refine meanwhile_store sound (fun group => SnapshotStore.snapshot?_unsubscribe _ _ _)
    (fun group known => .inl ?_) id
  rwa [SnapshotStore.isRegistered_unsubscribe] at known

/-! ### Steps of the loop -/

variable {mesh : MultiZone} {faults : List Fault} {groups : SortedSet ConsumerGroup}
  {built : Built} {snapshot : Snapshot} {rest : List Snapshot}

/-- Whatever the loop hears, it goes on to read. -/
theorem Sound.reading (sound : world.Sound zones config) (settled : world.Settled config)
    {seenMesh seenFaults : Nat} (meshTaken : seenMesh ≤ world.mesh.revision)
    (faultsTaken : seenFaults ≤ world.faults.revision) (added : Bool) :
    Sound { world with
      updater := { world.updater with
        seenMesh := seenMesh
        seenFaults := seenFaults
        store := { world.updater.store with groupAdded := added } }
      stage := .reading } zones config :=
  ⟨sound.zoned, sound.config_eq, sound.genuine, meshTaken, faultsTaken, sound.dated, settled⟩

theorem Sound.read (sound : world.Sound zones config) (stage : world.stage = .reading) :
    world.read.Sound zones config := by
  have settled : world.Settled config := sound.fits_of_stage stage
  refine ⟨sound.zoned, sound.config_eq, sound.genuine, le_rfl, sound.seenFaults, sound.dated, ?_⟩
  cases published : world.mesh.value with
  | none =>
      simp only [World.read, published]
      refine ⟨settled, fun state _ some => ?_⟩
      rw [published] at some
      contradiction
  | some state =>
      simp only [World.read, published]
      split
      case isTrue empty =>
        refine ⟨settled, fun other _ same services => ?_⟩
        rw [published] at same
        cases same
        rw [empty] at services
        contradiction
      case isFalse => exact ⟨settled, sound.zoned state published, fun _ => published⟩

theorem Sound.mark (sound : world.Sound zones config) (stage : world.stage = .marking mesh) :
    (world.mark mesh).Sound zones config := by
  exact ⟨sound.zoned, sound.config_eq, sound.genuine, sound.seenMesh, le_rfl, sound.dated,
    sound.fits_of_stage stage⟩

/-- All changes that were saved are there when faults are listed. -/
theorem Sound.list (sound : world.Sound zones config) (stage : world.stage = .listing mesh)
    (now : Time) : (world.list mesh now).Sound zones config := by
  have fits := sound.fits_of_stage stage
  refine ⟨sound.zoned, sound.config_eq, sound.genuine, sound.seenMesh, ?_, sound.dated,
    fits.1, fits.2, rfl, fun _ change saved _ => saved⟩
  have same := faultsFor_revision world.updater world.faults now
  exact sound.seenFaults.trans same.ge

theorem Sound.prune (sound : world.Sound zones config)
    (stage : world.stage = .pruning mesh faults) :
    (world.prune mesh faults).Sound zones config := by
  obtain ⟨settled, current, listed, caught⟩ := sound.fits_of_stage stage
  refine ⟨sound.zoned, sound.config_eq, sound.genuine, sound.seenMesh, sound.seenFaults,
    sound.dated.prune, fun group snapshot found => ?_, current, listed, caught,
    fun group known => .inl (SnapshotStore.mem_groups.mpr known)⟩
  exact settled group snapshot (SnapshotStore.snapshot?_of_prune found)

/-- What is built is what the groups are to have, and those that are spared have it. -/
theorem Sound.build (sound : world.Sound zones config) (distinct : (zones.map Prod.fst).Nodup)
    (stage : world.stage = .building mesh faults groups) :
    (world.build mesh faults groups).Sound zones config := by
  obtain ⟨settled, current, listed, caught, reached⟩ := sound.fits_of_stage stage
  have made : world.updater.globalFor mesh =
      config.global mesh (world.updater.last.map Built.global) := by
    have genuine := sound.genuine
    rw [← sound.config_eq] at genuine ⊢
    exact Updater.globalFor_eq genuine mesh
  have genuine : Built.Genuine ⟨mesh, world.updater.globalFor mesh, faults⟩ zones config :=
    ⟨current.1, _, made⟩
  have builds := SnapshotBuilder.buildAll_buildsAll world.updater.builder
    world.updater.store.holdings (groups.toList.filter (Updater.needsRebuild world.updater.store
      (world.updater.changedServices mesh) (world.updater.haveFaultsChanged faults)))
    (world.updater.globalFor mesh) faults world.updater.generation
  refine ⟨sound.zoned, builds.config_eq.trans sound.config_eq, sound.genuine, sound.seenMesh,
    sound.seenFaults, sound.dated, genuine, current, listed, caught, fun snapshot member => ?_,
    fun group known => ?_⟩
  · obtain ⟨dated, content, -⟩ := builds.mem member
    rw [sound.config_eq] at content
    exact ⟨dated, content⟩
  · rcases reached group known with member | awaits
    case inr => exact .inr (.inr awaits)
    case inl =>
      cases stale : Updater.needsRebuild world.updater.store (world.updater.changedServices mesh)
          (world.updater.haveFaultsChanged faults) group with
      | true =>
          have picked := List.mem_filter.mpr ⟨SortedSet.mem_toList.mpr member, stale⟩
          rw [← builds.groups_eq] at picked
          exact .inr (.inl picked)
      | false =>
          have holds := Updater.holds_of_needsRebuild sound.genuine distinct current.1
            (settled group) stale
          rw [← made] at holds
          exact .inl holds

theorem Sound.publish (sound : world.Sound zones config)
    (stage : world.stage = .publishing built (snapshot :: rest)) :
    (world.publish built snapshot rest).Sound zones config := by
  obtain ⟨genuine, current, listed, caught, news, reached⟩ := sound.fits_of_stage stage
  obtain ⟨generated, right⟩ := news snapshot List.mem_cons_self
  have dated := sound.dated
  rw [← generated] at dated
  refine ⟨sound.zoned, sound.config_eq, sound.genuine, sound.seenMesh, sound.seenFaults,
    generated ▸ dated.publish, genuine, current, listed, caught,
    fun later member => news later (List.mem_cons_of_mem _ member), fun group known => ?_⟩
  have known : world.updater.store.isRegistered group = true := by
    rw [← SnapshotStore.isRegistered_publish _ snapshot]
    exact known
  by_cases own : snapshot.group = group
  · subst own
    exact .inl (SnapshotStore.holds_publish dated known right)
  · rcases reached group known with holds | member | awaits
    · exact .inl (holds.publish dated right)
    · exact .inr (.inl ((List.mem_cons.mp member).resolve_left (Ne.symm own)))
    · refine .inr (.inr ⟨?_, ?_⟩)
      · exact (SnapshotStore.snapshot?_publish_other _ own).trans awaits.1
      · exact (SnapshotStore.groupAdded_publish _ _).trans awaits.2

theorem Sound.finish (sound : world.Sound zones config)
    (stage : world.stage = .publishing built []) : (world.finish built).Sound zones config := by
  obtain ⟨genuine, current, listed, caught, -, reached⟩ := sound.fits_of_stage stage
  refine ⟨sound.zoned, sound.config_eq, fun last same => ?_, sound.seenMesh, sound.seenFaults,
    sound.dated, fun group snapshot found => ?_, fun state quiet published _ => ?_⟩
  · cases same
    exact genuine
  · refine ⟨built, rfl, ?_⟩
    rcases reached group (SnapshotStore.isRegistered_of_snapshot? found) with
      ⟨stored, same, content⟩ | member | awaits
    · rw [show world.updater.store.snapshot? group = some snapshot from found] at same
      cases same
      exact content
    · contradiction
    · cases found.symm.trans awaits.1
  · refine ⟨⟨built, rfl, ?_, listed⟩, caught, fun group known => ?_⟩
    · exact Option.some.inj ((current.2 quiet).symm.trans published)
    · rcases reached group known with ⟨stored, found, -⟩ | member | awaits
      · exact .inl (Option.isSome_iff_exists.mpr ⟨stored, found⟩)
      · contradiction
      · exact .inr awaits.2

end World

theorem Step.sound (step : Step zones world after) (distinct : (zones.map Prod.fst).Nodup)
    (sound : world.Sound zones config) : after.Sound zones config := by
  cases step with
  | wake stage =>
      exact ⟨sound.zoned, sound.config_eq, sound.genuine, sound.seenMesh, sound.seenFaults,
        sound.dated, sound.fits_of_stage stage⟩
  | stop _ =>
      exact ⟨sound.zoned, sound.config_eq, sound.genuine, sound.seenMesh, sound.seenFaults,
        sound.dated, trivial⟩
  | hearMesh stage _ =>
      exact sound.reading (sound.fits_of_stage stage).1 le_rfl sound.seenFaults _
  | hearFaults stage _ =>
      exact sound.reading (sound.fits_of_stage stage).1 sound.seenMesh le_rfl _
  | hearGroup stage _ =>
      exact sound.reading (sound.fits_of_stage stage).1 sound.seenMesh sound.seenFaults false
  | hearTimer stage =>
      exact sound.reading (sound.fits_of_stage stage).1 sound.seenMesh sound.seenFaults _
  | read stage => exact sound.read stage
  | mark stage => exact sound.mark stage
  | list now stage => exact sound.list stage now
  | prune stage => exact sound.prune stage
  | build stage => exact sound.build distinct stage
  | publish stage => exact sound.publish stage
  | finish stage => exact sound.finish stage
  | mesh zoned => exact (World.meanwhile_mesh sound zoned).sound sound
  | submit now fault => exact (World.meanwhile_save sound _).sound sound
  | delete id => exact (World.meanwhile_save sound _).sound sound
  | announce _ => exact (World.meanwhile_announce sound _).sound sound
  | subscribe group => exact (World.meanwhile_subscribe sound group).sound sound
  | unsubscribe follower => exact (World.meanwhile_unsubscribe sound follower).sound sound

theorem Steps.sound (steps : Steps zones (.start config) world)
    (distinct : (zones.map Prod.fst).Nodup) : world.Sound zones config := by
  induction steps with
  | refl => exact World.sound_start zones config
  | tail _ step ih => exact step.sound distinct ih

/-- In every world that can be reached, where the loop listens and there is no new state of the mesh,
no new revision of the faults and no new group to hear about: if the mesh has services, the last build
was made from its present state and from the faults as they were listed last; all changes of the faults
that were announced had been saved by then; and every group has a snapshot of what follows from
that build. -/
theorem no_lost_update (steps : Steps zones (.start config) world)
    (distinct : (zones.map Prod.fst).Nodup) (listens : world.stage = .listening)
    (meshSeen : world.mesh.isNewsSince world.updater.seenMesh = false)
    (faultsSeen : world.faults.revision = world.updater.seenFaults)
    (groupsSeen : world.updater.store.groupAdded = false) {state : MultiZone}
    (published : world.mesh.value = some state) (services : state.hasNoServices = false) :
    ∃ last, world.updater.last = some last ∧ last.mesh = state ∧
      last.faults = world.history.found ∧
      (∀ change < world.history.saved, change ∉ world.history.unannounced →
        change < world.history.listed) ∧
      ∀ group, world.updater.store.isRegistered group = true →
        ∃ snapshot, world.updater.store.snapshot? group = some snapshot ∧
          snapshot.content = config.content group last.global last.faults := by
  obtain ⟨settled, fresh⟩ := (Steps.sound steps distinct).fits_of_stage listens
  obtain ⟨⟨last, built, mesh, found⟩, caught, reached⟩ := fresh state meshSeen published services
  refine ⟨last, built, mesh, found, caught faultsSeen, fun group known => ?_⟩
  rcases reached group known with held | added
  · obtain ⟨snapshot, stored⟩ := Option.isSome_iff_exists.mp held
    obtain ⟨same, built', content⟩ := settled group snapshot stored
    cases built.symm.trans built'
    exact ⟨snapshot, stored, content⟩
  · rw [groupsSeen] at added
    contradiction

/-- A group that comes up before there is any mesh gets its snapshot with the first one. -/
theorem no_lost_update_early_group :
    let config : BuilderConfig := ⟨.zero, none, [], false⟩
    let web : ConsumerGroup := ⟨"web", .global, .services (SortedSet.ofList ["api"])⟩
    let state : MultiZone := ⟨[⟨"home", .local, Services.ofList [⟨"api", ∅⟩]⟩]⟩
    ∃ world : World, Steps [("home", .local)] (.start config) world ∧ world.stage = .listening ∧
      world.mesh.value = some state ∧ world.updater.store.isRegistered web = true ∧
      ∃ last snapshot, world.updater.last = some last ∧
        world.updater.store.snapshot? web = some snapshot ∧
        snapshot.content = config.content web last.global last.faults := by
  intro config web state
  have zoned : state.Over [("home", .local)] := by
    intro zone member
    cases List.mem_singleton.mp member
    exact List.mem_cons_self
  -- The group comes up while there is no mesh yet, and the mesh while the loop is about to read.
  let idle : World := { (World.start config).read with stage := .listening }
  let ready : World := { idle with
    updater := { idle.updater with
      store := { (idle.updater.store.subscribe web).2 with groupAdded := false } }
    mesh := idle.mesh.set (some state)
    stage := .reading }
  have begins : Steps [("home", .local)] (.start config) ready :=
    .head (.read rfl) <| .head (.wake rfl) <| .head (.subscribe web) <|
      .head (.hearGroup rfl rfl) <| .single (.mesh zoned)
  have ends : ∃ next, Steps [("home", .local)] ready next ∧ _ := update_steps rfl 0
  obtain ⟨next, steps, rests, mesh, updated⟩ := ends
  have reached : Steps [("home", .local)] (.start config) { next with stage := .listening } :=
    (begins.trans steps).tail (.wake rests)
  have known : next.updater.store.isRegistered web = true :=
    (congrArg (fun pair => pair.1.store.isRegistered web) updated).trans (by decide)
  have seen : next.mesh.isNewsSince next.updater.seenMesh = false := by
    rw [mesh]
    exact congrArg (fun pair => ready.mesh.isNewsSince pair.1.seenMesh) updated
  have caught : next.faults.revision = next.updater.seenFaults :=
    (congrArg (fun pair => pair.2.revision) updated).trans
      (congrArg (fun pair => pair.1.seenFaults) updated).symm
  have heard : next.updater.store.groupAdded = false :=
    (congrArg (fun pair => pair.1.store.groupAdded) updated).trans (by decide)
  have published : next.mesh.value = some state := congrArg Watched.value mesh
  obtain ⟨last, built, -, -, -, holds⟩ :=
    no_lost_update reached (by decide) rfl seen caught heard published rfl
  obtain ⟨snapshot, stored, content⟩ := holds web known
  exact ⟨_, reached, rfl, published, known, last, snapshot, built, stored, content⟩

end ServiceMesh.Interleaving
