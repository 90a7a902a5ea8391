import ServiceMesh.Proofs.Snapshot.ParallelTick

/-! Runs of a system whose updates build side by side, while others take snapshots and give them back.
Behind any such run it makes no difference whose turn it is in the next tick. -/
namespace ServiceMesh

/-- A system, and the snapshots that others took and still hold. -/
structure SharedSystem where
  system : System
  taken : List Snapshot

/-- What can happen to a system: an event, which brings the turns of its builds with it if it is an
update; that the state of the mesh is taken back; and that somebody takes the snapshot of a group, or
gives one back. -/
inductive SharedStep where
  | event (turns : List Nat) (event : SystemEvent)
  | withdraw
  | take (group : ConsumerGroup)
  | giveBack (n : Nat)

namespace SharedSystem

def start (config : BuilderConfig) : SharedSystem := ⟨.start config, []⟩

def perform (shared : SharedSystem) : SharedStep → SharedSystem
  | .event turns event =>
      let update := Updater.updateBy fun updater => updater.tickBy shared.taken turns
      { shared with system := shared.system.handle update event }
  | .withdraw =>
      { shared with system := { shared.system with mesh := shared.system.mesh.set none } }
  | .take group =>
      { shared with
        taken := shared.taken ++ (shared.system.updater.store.snapshot? group).toList }
  | .giveBack n => { shared with taken := shared.taken.eraseIdx n }

/-- A system behind some steps. -/
def behind (config : BuilderConfig) (steps : List SharedStep) : SharedSystem :=
  steps.foldl perform (start config)

theorem behind_snoc (config : BuilderConfig) (steps : List SharedStep) (step : SharedStep) :
    behind config (steps ++ [step]) = (behind config steps).perform step := by
  rw [behind, List.foldl_append]
  rfl

end SharedSystem

namespace Updater

variable {updater : Updater} {taken : List Snapshot}

theorem Shared.updateBy (shared : updater.Shared taken) (turns : List Nat)
    (mesh : Watched (Option MultiZone)) (faults : FaultService) (now : Time) :
    (updater.updateBy (fun updater => updater.tickBy taken turns) mesh faults now).1.Shared
      taken := by
  rcases updater.updateBy_cases (fun updater => updater.tickBy taken turns) mesh faults now with
    idle | ⟨state, active, behind, -, -, built⟩
  · rw [idle]
    exact shared.seen _ _
  · have noted := shared.seen mesh.revision behind.revision
    obtain ⟨made, builder, ticked⟩ := noted.tickBy turns state active
    rw [built]
    exact ticked.shared noted

end Updater

namespace SharedSystem

theorem perform_shared {shared : SharedSystem}
    (sound : shared.system.updater.Shared shared.taken) (step : SharedStep) :
    (shared.perform step).system.updater.Shared (shared.perform step).taken := by
  have all : shared.taken ⊆ shared.system.updater.store.snapshots ++ shared.taken :=
    List.subset_append_right _ _
  cases step with
  | withdraw => exact sound
  | take group =>
      refine sound.hold (fun _ => rfl) (List.append_subset.mpr ⟨all, fun snapshot member => ?_⟩)
      exact List.mem_append_left _
        (SnapshotStore.mem_snapshots.mpr ⟨group, Option.mem_toList.mp member⟩)
  | giveBack n => exact sound.hold (fun _ => rfl) fun _ member => all (List.mem_of_mem_eraseIdx member)
  | event turns event =>
      cases event with
      | mesh state => exact sound
      | submit now fault => exact sound
      | delete id => exact sound
      | outage problem => exact sound
      | subscribe group => exact sound.hold (SnapshotStore.snapshot?_subscribe _ group) all
      | unsubscribe follower => exact sound.hold (SnapshotStore.snapshot?_unsubscribe _ follower) all
      | update now => exact sound.updateBy turns shared.system.mesh shared.system.faults now

theorem behind_shared (config : BuilderConfig) (steps : List SharedStep) :
    (behind config steps).system.updater.Shared (behind config steps).taken := by
  induction steps using List.reverseRecOn with
  | nil => exact .start config
  | append_singleton steps step ih =>
      rw [behind_snoc]
      exact perform_shared ih step

/-- Behind any steps, and whatever a tick then finds, it makes no difference how its builds take turns.
Every group has the same content, and the same becomes of each snapshot that is published. As many
wire forms are computed, of each kind as many as there are distinct collections that are built and that
nobody holds once the groups are dropped that nobody follows, and as many collections are alive. The
versions are the same up to a renaming of those that are given out in the tick. While nobody else holds
a snapshot, builds that are made one after the other are those of the updater itself. -/
theorem parallel_builds_commute (config : BuilderConfig) (steps : List SharedStep)
    (mesh : MultiZone) (faults : List Fault) (turns others : List Nat) :
    let taken := (behind config steps).taken
    let before := (behind config steps).system.updater
    let after := before.tickBy taken turns mesh faults
    let other := before.tickBy taken others mesh faults
    (∀ group, (other.store.snapshot? group).map Snapshot.content =
      (after.store.snapshot? group).map Snapshot.content) ∧
    other.publications = after.publications ∧
    after.serializations = List.zipWith (· + ·) before.serializations
      (before.builder.caches.missing (before.pruned.heldWith taken)
        ((before.stale mesh faults).map (before.target mesh faults))) ∧
    other.serializations = after.serializations ∧
    other.builder.caches.liveEntries (other.heldWith taken) =
      after.builder.caches.liveEntries (after.heldWith taken) ∧
    (∃ rename : Equiv.Perm String,
      (∀ name, (∀ n, before.builder.versions.issued < n → n ≤ after.builder.versions.issued →
        versionText n ≠ name) → rename name = name) ∧
      ∀ group, (other.store.snapshot? group).map Snapshot.versions =
        (after.store.snapshot? group).map fun snapshot => snapshot.versions.rename rename) ∧
    before.tickBy [] [] mesh faults = before.tick mesh faults := by
  intro taken before after other
  have shared : before.Shared taken := behind_shared config steps
  obtain ⟨made, builder, ticked⟩ := shared.tickBy turns mesh faults
  obtain ⟨made', builder', ticked'⟩ := shared.tickBy others mesh faults
  have content (group : ConsumerGroup) : (other.store.snapshot? group).map Snapshot.content =
      (after.store.snapshot? group).map Snapshot.content := by
    rw [ticked.content_eq, ticked'.content_eq]
  refine ⟨content, ?_, ticked.serializations_eq shared, ?_,
    (ticked.shared shared).liveEntries_congr (ticked'.shared shared) content,
    (ticked.exists_renaming shared ticked').2, before.tickBy_nil mesh faults⟩
  · rw [ticked.published, ticked'.published]
  · rw [ticked.serializations_eq shared, ticked'.serializations_eq shared]

/-! ### A collection that is alive when a tick starts -/

/-- A group that depends on one service. -/
def dependent (name : String) : ConsumerGroup :=
  ⟨name, .global, .services (SortedSet.ofList ["a"])⟩

def oneService : MultiZone := ⟨[⟨"home", .local, Services.ofList [⟨"a", ∅⟩]⟩]⟩

/-- One group has its snapshot, and is left by all who follow it when another one comes up. -/
def handover : List SharedStep :=
  [.event [] (.subscribe (dependent "web")), .event [] (.mesh oneService), .event [] (.update 0),
    .event [] (.unsubscribe ⟨dependent "web", 0⟩), .event [] (.subscribe (dependent "api"))]

/-- It is not enough that a collection is alive when the tick starts: if the only group that has it is
dropped in the tick, a group that comes up with it needs its wire form again. -/
theorem handover_serializes_again :
    let before := (behind ⟨.zero, none, [], false⟩ handover).system.updater
    (before.tick oneService []).serializations ≠ List.zipWith (· + ·) before.serializations
      (before.builder.caches.missing (before.heldWith [])
        ((before.stale oneService []).map (before.target oneService []))) := by
  intro before
  have begins := (behind_shared ⟨.zero, none, [], false⟩ (handover.take 2)).seen 1 0
  obtain ⟨made, builder, ticked⟩ := begins.tickBy [] oneService []
  have stored := (ticked.content_eq (dependent "web")).trans (if_pos (List.mem_singleton.mpr rfl))
  refine (behind_shared _ handover).serialized_again rfl rfl (dependent "web") ?_
  exact (congrArg (Option.map Snapshot.content) ((SnapshotStore.snapshot?_subscribe _ _ _).trans
    (SnapshotStore.snapshot?_unsubscribe _ _ _))).trans stored

end SharedSystem

end ServiceMesh
