import Mathlib.Logic.Relation
import ServiceMesh.Proofs.Snapshot.Publishing
import ServiceMesh.Proofs.Snapshot.Stability
import ServiceMesh.Snapshot.UpdateLoop

/-! The update loop in small steps. Between any two of them others may publish a state of the mesh,
change faults, and begin or end to follow a group. A change of the faults takes two steps: it is saved
first and announced by a new revision later. -/
namespace ServiceMesh.Interleaving

/-- Where the loop stands: it waits, or it is somewhere in an update, with what it has at hand. -/
inductive Stage where
  | resting
  | listening
  | reading
  | marking (mesh : MultiZone)
  | listing (mesh : MultiZone)
  | pruning (mesh : MultiZone) (faults : List Fault)
  | building (mesh : MultiZone) (faults : List Fault) (groups : SortedSet ConsumerGroup)
  | publishing (built : Built) (snapshots : List Snapshot)
  | ended

/-- The changes of faults, numbered in the order of their saving: how many there are, which of them
are not announced yet, how many there were when faults were listed last, and what was found then. -/
structure History where
  saved : Nat
  unannounced : List Nat
  listed : Nat
  found : List Fault

structure World where
  updater : Updater
  mesh : Watched (Option MultiZone)
  faults : FaultService
  stage : Stage
  history : History

namespace World

/-- The loop begins with an update. -/
def start (config : BuilderConfig) : World :=
  ⟨.start config, .start none, .start, .reading, ⟨0, [], 0, []⟩⟩

/-- Takes a state of the mesh; without one, or without services in it, the update is over. -/
def read (world : World) : World :=
  { world with
    updater := { world.updater with seenMesh := world.mesh.revision }
    stage := match world.mesh.value with
      | none => .resting
      | some state => if state.hasNoServices then .resting else .marking state }

def mark (world : World) (mesh : MultiZone) : World :=
  { world with
    updater := { world.updater with seenFaults := world.faults.revision }
    stage := .listing mesh }

def list (world : World) (mesh : MultiZone) (now : Time) : World :=
  let (found, faults) := world.updater.faultsFor world.faults now
  { world with
    faults := faults
    stage := .pruning mesh found
    history := { world.history with listed := world.history.saved, found := found } }

def prune (world : World) (mesh : MultiZone) (faults : List Fault) : World :=
  let store := world.updater.store.prune
  { world with
    updater := { world.updater with
      generation := world.updater.generation + 1
      store := store
      builder := world.updater.builder.retain store.groups }
    stage := .building mesh faults store.groups }

def build (world : World) (mesh : MultiZone) (faults : List Fault)
    (groups : SortedSet ConsumerGroup) : World :=
  let updater := world.updater
  let global := updater.globalFor mesh
  let stale := groups.toList.filter (Updater.needsRebuild updater.store
    (updater.changedServices mesh) (updater.haveFaultsChanged faults))
  let (snapshots, builder) := updater.builder.buildAll updater.store.holdings stale global faults
    updater.generation
  { world with
    updater := { updater with builder := builder }
    stage := .publishing ⟨mesh, global, faults⟩ snapshots }

def publish (world : World) (built : Built) (snapshot : Snapshot) (rest : List Snapshot) : World :=
  let (outcome, store) := world.updater.store.publish snapshot
  { world with
    updater := { world.updater with
      store := store
      publications := world.updater.publications ++ [outcome] }
    stage := .publishing built rest }

def finish (world : World) (built : Built) : World :=
  { world with
    updater := { world.updater with
      builder := world.updater.builder.purge world.updater.store.holdings
      last := some built
      ready := true
      ticks := world.updater.ticks + 1 }
    stage := .resting }

/-- Saves a change of the faults, which is not announced yet. -/
def save (world : World) (store : FaultStore) : World :=
  { world with
    faults := { world.faults with store := store }
    history := { world.history with
      saved := world.history.saved + 1
      unannounced := world.history.saved :: world.history.unannounced } }

def announce (world : World) (change : Nat) : World :=
  { world with
    faults := { world.faults with revision := world.faults.revision + 1 }
    history := { world.history with unannounced := world.history.unannounced.erase change } }

/-- The world with another store of snapshots. -/
def withStore (world : World) (store : SnapshotStore) : World :=
  { world with updater := { world.updater with store := store } }

end World

/-- What can happen next: a step of the loop, whose timers may go off at any time, or a step of
others, who publish states of the mesh out of known zones. -/
inductive Step (zones : List (String × Locality)) : World → World → Prop
  | wake {world : World} : world.stage = .resting → Step zones world { world with stage := .listening }
  | stop {world : World} : world.stage = .resting ∨ world.stage = .listening →
      Step zones world { world with stage := .ended }
  | hearMesh {world : World} : world.stage = .listening →
      world.mesh.isNewsSince world.updater.seenMesh = true →
      Step zones world { world with
        updater := { world.updater with seenMesh := world.mesh.revision }, stage := .reading }
  | hearFaults {world : World} : world.stage = .listening →
      world.faults.revision ≠ world.updater.seenFaults →
      Step zones world { world with
        updater := { world.updater with seenFaults := world.faults.revision }, stage := .reading }
  | hearGroup {world : World} : world.stage = .listening →
      world.updater.store.groupAdded = true →
      Step zones world { world.withStore { world.updater.store with groupAdded := false } with
        stage := .reading }
  | hearTimer {world : World} : world.stage = .listening →
      Step zones world { world with stage := .reading }
  | read {world : World} : world.stage = .reading → Step zones world world.read
  | mark {world : World} {mesh : MultiZone} : world.stage = .marking mesh →
      Step zones world (world.mark mesh)
  | list {world : World} {mesh : MultiZone} (now : Time) : world.stage = .listing mesh →
      Step zones world (world.list mesh now)
  | prune {world : World} {mesh : MultiZone} {faults : List Fault} :
      world.stage = .pruning mesh faults → Step zones world (world.prune mesh faults)
  | build {world : World} {mesh : MultiZone} {faults : List Fault}
      {groups : SortedSet ConsumerGroup} : world.stage = .building mesh faults groups →
      Step zones world (world.build mesh faults groups)
  | publish {world : World} {built : Built} {snapshot : Snapshot} {rest : List Snapshot} :
      world.stage = .publishing built (snapshot :: rest) →
      Step zones world (world.publish built snapshot rest)
  | finish {world : World} {built : Built} : world.stage = .publishing built [] →
      Step zones world (world.finish built)
  | mesh {world : World} {state : MultiZone} : state.Over zones →
      Step zones world { world with mesh := world.mesh.set (some state) }
  | submit {world : World} (now : Time) (fault : Fault) :
      Step zones world (world.save (world.faults.store.save now fault))
  | delete {world : World} (id : String) :
      Step zones world (world.save (world.faults.store.delete id))
  | announce {world : World} {change : Nat} : change ∈ world.history.unannounced →
      Step zones world (world.announce change)
  | subscribe {world : World} (group : ConsumerGroup) :
      Step zones world (world.withStore (world.updater.store.subscribe group).2)
  | unsubscribe {world : World} (follower : Follower) :
      Step zones world (world.withStore (world.updater.store.unsubscribe follower))

/-- Any number of steps. -/
abbrev Steps (zones : List (String × Locality)) : World → World → Prop :=
  Relation.ReflTransGen (Step zones)

/-! ### Steps that nobody interrupts -/

variable {zones : List (String × Locality)} {world : World}

theorem publish_steps {built : Built} {snapshots : List Snapshot}
    (stage : world.stage = .publishing built snapshots) :
    Steps zones world { world with
      updater := { world.updater with
        store := (world.updater.store.publishAll snapshots).2
        publications := world.updater.publications ++
          (world.updater.store.publishAll snapshots).1 }
      stage := .publishing built [] } := by
  induction snapshots generalizing world with
  | nil =>
      rw [← stage]
      simp only [SnapshotStore.publishAll, List.foldl_nil, List.append_nil]
      exact .refl
  | cons snapshot rest ih =>
      have later : Steps zones (world.publish built snapshot rest) _ := ih rfl
      simp only [World.publish, List.append_assoc, List.singleton_append] at later
      rw [SnapshotStore.publishAll_cons]
      exact .head (.publish stage) later

/-- A build from beginning to end. -/
theorem tick_steps {mesh : MultiZone} {faults : List Fault}
    (stage : world.stage = .pruning mesh faults) :
    Steps zones world { world with
      updater := world.updater.tick mesh faults, stage := .resting } := by
  have built : Steps zones world
      ((world.prune mesh faults).build mesh faults world.updater.store.prune.groups) :=
    .head (.prune stage) (.single (.build rfl))
  unfold World.build World.prune at built
  unfold Updater.tick
  simp only [Updater.globalFor, Updater.changedServices, Updater.haveFaultsChanged,
    SnapshotBuilder.retain] at built ⊢
  generalize SnapshotBuilder.buildAll _ _ _ _ _ _ = made at built ⊢
  obtain ⟨snapshots, builder⟩ := made
  exact (built.trans (publish_steps rfl)).tail (.finish rfl)

/-- Listing faults is no change of them. -/
theorem faultsFor_revision (updater : Updater) (faults : FaultService) (now : Time) :
    (updater.faultsFor faults now).2.revision = faults.revision := by
  unfold Updater.faultsFor FaultService.list
  cases faults.outage <;> rfl

/-- An update from beginning to end. -/
theorem update_steps (stage : world.stage = .reading) (now : Time) :
    ∃ next, Steps zones world next ∧ next.stage = .resting ∧ next.mesh = world.mesh ∧
      (next.updater, next.faults) = world.updater.update world.mesh world.faults now := by
  have reads : Step zones world world.read := .read stage
  cases published : world.mesh.value with
  | none =>
      refine ⟨world.read, .single reads, ?_, rfl, ?_⟩
      · simp only [World.read, published]
      · simp only [World.read, Updater.update, published]
  | some state =>
      by_cases empty : state.hasNoServices = true
      · refine ⟨world.read, .single reads, ?_, rfl, ?_⟩
        · simp only [World.read, published, if_pos empty]
        · simp only [World.read, Updater.update, published, if_pos empty]
      · have going : world.read.stage = .marking state := by
          simp only [World.read, published, if_neg empty]
        have listed : Steps zones world ((world.read.mark state).list state now) :=
          .head reads (.head (.mark going) (.single (.list now rfl)))
        refine ⟨_, listed.trans (tick_steps rfl), rfl, rfl, ?_⟩
        have asked : (world.read.mark state).updater.faultsFor (world.read.mark state).faults now =
            { world.updater with seenMesh := world.mesh.revision }.faultsFor world.faults now := rfl
        simp only [Updater.update, published, if_neg empty, faultsFor_revision, World.list, asked]
        rfl

/-- A world in which the loop stands where an update loop stands. -/
structure World.Shows (world : World) (run : UpdateLoop) : Prop where
  updater : world.updater = run.updater
  mesh : world.mesh = run.mesh.latest
  faults : world.faults = run.faults
  stage : world.stage = match run.phase with
    | .resting _ => .resting
    | .listening _ => .listening
    | .ended => .ended

theorem update_shows {run : UpdateLoop} (updater : world.updater = run.updater)
    (mesh : world.mesh = run.mesh.latest) (faults : world.faults = run.faults)
    (stage : world.stage = .reading) (now : Time) :
    ∃ after, Steps zones world after ∧ after.Shows (run.update now) := by
  obtain ⟨after, steps, rests, sameMesh, updated⟩ :
      ∃ after, Steps zones world after ∧ _ := update_steps stage now
  rw [updater, mesh, faults] at updated
  obtain ⟨behind, listed⟩ := Prod.mk.inj updated
  exact ⟨after, steps, behind, sameMesh.trans mesh, listed, rests⟩

/-- Whatever the update loop does in one go it does in steps. -/
theorem loop_steps {run next : UpdateLoop} {now : Time} (shows : world.Shows run)
    (goes : run.step? now = some next) : ∃ after, Steps zones world after ∧ after.Shows next := by
  obtain ⟨sameUpdater, sameMesh, sameFaults, sameStage⟩ := shows
  obtain ⟨_, ⟨_, closed⟩, _, sample, phase⟩ := run
  obtain ⟨updater, latest, faults, stage, history⟩ := world
  dsimp only at sameUpdater sameMesh sameFaults sameStage
  subst sameUpdater sameMesh sameFaults sameStage
  -- Behind whatever it hears the loop reads, as in the world where it has heard.
  have behind (updater : Updater) : ∃ after,
      Steps zones ⟨updater, latest, faults, .reading, history⟩ after ∧
        after.Shows (UpdateLoop.update ⟨updater, ⟨latest, closed⟩, faults, sample, phase⟩ now) :=
    update_shows rfl rfl rfl rfl now
  unfold UpdateLoop.step? at goes
  cases phase with
  | ended => contradiction
  | resting wakeAt =>
      dsimp only at goes
      split at goes
      case isFalse => contradiction
      case isTrue =>
        cases goes
        exact ⟨_, .single (.wake rfl), rfl, rfl, rfl, rfl⟩
  | listening deadline =>
      dsimp only [UpdateLoop.hear] at goes
      split at goes
      case isTrue news =>
        cases goes
        obtain ⟨after, steps, shows⟩ := behind { updater with seenMesh := latest.revision }
        exact ⟨after, .head (.hearMesh rfl news) steps, shows⟩
      split at goes
      case isTrue =>
        cases goes
        exact ⟨_, .single (.stop (.inr rfl)), rfl, rfl, rfl, rfl⟩
      split at goes
      case isTrue news =>
        cases goes
        obtain ⟨after, steps, shows⟩ := behind { updater with seenFaults := faults.revision }
        exact ⟨after, .head (.hearFaults rfl news) steps, shows⟩
      split at goes
      case isTrue added =>
        cases goes
        obtain ⟨after, steps, shows⟩ :=
          behind { updater with store := { updater.store with groupAdded := false } }
        exact ⟨after, .head (.hearGroup rfl added) steps, shows⟩
      split at goes
      case isTrue =>
        cases goes
        obtain ⟨after, steps, shows⟩ := behind updater
        exact ⟨after, .head (.hearTimer rfl) steps, shows⟩
      case isFalse => contradiction

theorem announce_save (world : World) (store : FaultStore) :
    (world.save store).announce world.history.saved = { world with
      faults := { world.faults with store := store, revision := world.faults.revision + 1 }
      history := { world.history with saved := world.history.saved + 1 } } := by
  rw [World.announce, World.save, List.erase_cons_head]

/-- A submission in one go is a change that is announced at once. -/
theorem submit_steps {now : Time} {fault : Fault} {faults : FaultService}
    (submitted : world.faults.submit now fault = .ok faults) :
    Steps zones world { world with
      faults := faults
      history := { world.history with saved := world.history.saved + 1 } } := by
  have announced : Steps zones world _ :=
    .head (.submit now fault) (.single (.announce List.mem_cons_self))
  unfold FaultService.submit at submitted
  split at submitted
  · contradiction
  · cases submitted
    rwa [announce_save] at announced

theorem delete_steps {id : String} {faults : FaultService}
    (deleted : world.faults.delete id = .ok faults) :
    Steps zones world { world with
      faults := faults
      history := { world.history with saved := world.history.saved + 1 } } := by
  have announced : Steps zones world _ :=
    .head (.delete id) (.single (.announce List.mem_cons_self))
  unfold FaultService.delete at deleted
  split at deleted
  · contradiction
  · cases deleted
    rwa [announce_save] at announced

end ServiceMesh.Interleaving
