import ServiceMesh.Proofs.Snapshot.Coupling

/-! A system is ready once an update has found services, and stays so. Behind each such update every
group that is followed has its snapshot, and no group loses the one it has as long as it is registered.
An update that finds nothing changes nothing, also where the state of the mesh was taken back. -/
namespace ServiceMesh

/-- Some service is known in some zone. -/
def MultiZone.HasService (mesh : MultiZone) : Prop :=
  ∃ zone ∈ mesh.zones, ∃ name service, zone.services.get? name = some service

theorem MultiZone.hasNoServices_eq_false_iff {mesh : MultiZone} :
    mesh.hasNoServices = false ↔ mesh.HasService := by
  simp only [hasNoServices, List.all_eq_false, HasService, Bool.not_eq_true]
  constructor
  · rintro ⟨zone, listed, filled⟩
    cases entries : zone.services.byName.entries with
    | nil =>
        rw [Services.isEmpty, SortedMap.isEmpty, entries] at filled
        contradiction
    | cons entry rest =>
        refine ⟨zone, listed, entry.1, entry.2, SortedMap.get?_eq_some_iff.mpr ?_⟩
        rw [entries]
        exact List.mem_cons_self
  · rintro ⟨zone, listed, name, service, found⟩
    refine ⟨zone, listed, ?_⟩
    have member := SortedMap.get?_eq_some_iff.mp found
    rw [Services.isEmpty, SortedMap.isEmpty, List.isEmpty_eq_false_iff]
    exact List.ne_nil_of_mem member

/-- What can happen to a system: an event, or that the state of the mesh is taken back. -/
inductive SystemStep where
  | event (event : SystemEvent)
  | withdraw

namespace System

variable {system : System} {group : ConsumerGroup}

/-- The published state of the mesh has services. -/
def FindsServices (system : System) : Prop :=
  ∃ state, system.mesh.value = some state ∧ state.HasService

def perform (system : System) : SystemStep → System
  | .event event => system.handle Updater.update event
  | .withdraw => { system with mesh := system.mesh.set none }

/-- A system behind some steps. -/
def behind (config : BuilderConfig) (steps : List SystemStep) : System :=
  steps.foldl perform (start config)

theorem behind_snoc (config : BuilderConfig) (steps : List SystemStep) (step : SystemStep) :
    behind config (steps ++ [step]) = (behind config steps).perform step := by
  rw [behind, List.foldl_append]
  rfl

theorem perform_coupled (coupled : system.updater.Coupled) (step : SystemStep) :
    (system.perform step).updater.Coupled := by
  cases step with
  | event event => exact handle_coupled coupled event
  | withdraw => exact coupled

theorem behind_coupled (config : BuilderConfig) (steps : List SystemStep) :
    (behind config steps).updater.Coupled := by
  induction steps using List.reverseRecOn with
  | nil => exact .start config
  | append_singleton steps step ih =>
      rw [behind_snoc]
      exact perform_coupled ih step

/-! ### Single steps -/

/-- An update that finds nothing takes note of that, and of nothing else. -/
theorem update_idle (nothing : ¬ system.FindsServices) (now : Time) :
    system.perform (.event (.update now)) =
      { system with updater := { system.updater with seenMesh := system.mesh.revision } } := by
  simp only [perform, handle, Updater.update]
  cases published : system.mesh.value with
  | none => rfl
  | some state =>
      cases empty : state.hasNoServices with
      | true => simp only [empty, if_true]
      | false => exact absurd ⟨state, published, MultiZone.hasNoServices_eq_false_iff.mp empty⟩ nothing

theorem update_ready (finds : system.FindsServices) (now : Time) :
    (system.perform (.event (.update now))).updater.ready = true := by
  obtain ⟨state, published, services⟩ := finds
  simp only [perform, handle, Updater.update, published,
    MultiZone.hasNoServices_eq_false_iff.mpr services, Bool.false_eq_true, if_false]
  rfl

theorem update_settles (coupled : system.updater.Coupled) (finds : system.FindsServices)
    (now : Time) :
    system.updater.Settles (system.perform (.event (.update now))).updater := by
  obtain ⟨state, published, services⟩ := finds
  exact coupled.update_settles published (MultiZone.hasNoServices_eq_false_iff.mpr services) _ now

/-- A step leaves all snapshots and the readiness alone, or it is an update that finds services. -/
theorem perform_cases (system : System) (step : SystemStep) :
    (∃ now, step = .event (.update now) ∧ system.FindsServices) ∨
    (system.perform step).updater.ready = system.updater.ready ∧
      ∀ group, (system.perform step).updater.store.snapshot? group =
        system.updater.store.snapshot? group := by
  cases step with
  | withdraw => exact .inr ⟨rfl, fun _ => rfl⟩
  | event event =>
      cases event with
      | mesh state => exact .inr ⟨rfl, fun _ => rfl⟩
      | submit now fault => exact .inr ⟨rfl, fun _ => rfl⟩
      | delete id => exact .inr ⟨rfl, fun _ => rfl⟩
      | outage problem => exact .inr ⟨rfl, fun _ => rfl⟩
      | subscribe group => exact .inr ⟨rfl, SnapshotStore.snapshot?_subscribe _ group⟩
      | unsubscribe follower => exact .inr ⟨rfl, SnapshotStore.snapshot?_unsubscribe _ follower⟩
      | update now =>
          by_cases finds : system.FindsServices
          · exact .inl ⟨now, rfl, finds⟩
          · rw [update_idle finds]
            exact .inr ⟨rfl, fun _ => rfl⟩

/-- A group that is registered behind a step has the snapshot it had, or another one. -/
theorem perform_keeps (coupled : system.updater.Coupled) (step : SystemStep)
    (has : (system.updater.store.snapshot? group).isSome = true)
    (registered : (system.perform step).updater.store.isRegistered group = true) :
    ((system.perform step).updater.store.snapshot? group).isSome = true := by
  rcases system.perform_cases step with ⟨now, rfl, finds⟩ | ⟨-, same⟩
  · exact (update_settles coupled finds now).stored group registered
  · rw [same]
    exact has

/-! ### Runs -/

/-- Some update found services on the way. -/
def HasFound (config : BuilderConfig) (steps : List SystemStep) : Prop :=
  ∃ front now rest, steps = front ++ .event (.update now) :: rest ∧
    (behind config front).FindsServices

theorem hasFound_snoc {config : BuilderConfig} {steps : List SystemStep} {step : SystemStep} :
    HasFound config (steps ++ [step]) ↔ HasFound config steps ∨
      ∃ now, step = .event (.update now) ∧ (behind config steps).FindsServices := by
  constructor
  · rintro ⟨front, now, rest, split, finds⟩
    rcases List.eq_nil_or_concat rest with rfl | ⟨rest, last, rfl⟩
    · obtain ⟨rfl, rfl⟩ := List.append_inj' split rfl |>.imp id List.singleton_inj.mp
      exact .inr ⟨now, rfl, finds⟩
    · rw [List.concat_eq_append, ← List.cons_append, ← List.append_assoc] at split
      exact .inl ⟨front, now, rest, (List.append_inj' split rfl).1, finds⟩
  · rintro (⟨front, now, rest, rfl, finds⟩ | ⟨now, rfl, finds⟩)
    · exact ⟨front, now, rest ++ [step], by simp, finds⟩
    · exact ⟨steps, now, [], rfl, finds⟩

theorem behind_ready_iff (config : BuilderConfig) (steps : List SystemStep) :
    (behind config steps).updater.ready = true ↔ HasFound config steps := by
  induction steps using List.reverseRecOn with
  | nil =>
      constructor
      · intro ready
        contradiction
      · rintro ⟨front, now, rest, split, -⟩
        simp at split
  | append_singleton steps step ih =>
      rw [behind_snoc, hasFound_snoc]
      rcases (behind config steps).perform_cases step with ⟨now, rfl, finds⟩ | ⟨same, -⟩
      · exact ⟨fun _ => .inr ⟨now, rfl, finds⟩, fun _ => update_ready finds now⟩
      · rw [same, ih]
        constructor
        · exact .inl
        · rintro (found | ⟨now, rfl, finds⟩)
          · exact found
          · rw [update_ready finds now] at same
            exact ih.mp same.symm

theorem HasFound.later {config : BuilderConfig} {steps : List SystemStep}
    (found : HasFound config steps) (later : List SystemStep) :
    HasFound config (steps ++ later) := by
  obtain ⟨front, now, rest, rfl, finds⟩ := found
  exact ⟨front, now, rest ++ later, by simp, finds⟩

/-- A group that stays registered keeps having a snapshot. -/
theorem behind_keeps {config : BuilderConfig} {steps later : List SystemStep}
    (has : ((behind config steps).updater.store.snapshot? group).isSome = true)
    (registered : ∀ part, part <+: later →
      (behind config (steps ++ part)).updater.store.isRegistered group = true) :
    ((behind config (steps ++ later)).updater.store.snapshot? group).isSome = true := by
  induction later using List.reverseRecOn with
  | nil => rwa [List.append_nil]
  | append_singleton later step ih =>
      have before := ih fun part front => registered part (front.trans (List.prefix_append _ _))
      have still := registered _ (List.prefix_refl _)
      rw [← List.append_assoc, behind_snoc] at still ⊢
      exact perform_keeps (behind_coupled config _) step before still

/-- Behind any steps the system is ready exactly if some update found services, and it is ready ever
after. Behind an update that finds services the groups that are registered are those that were still
followed, and each has a snapshot. A group that has one has one as long as it stays registered. An
update that finds no state of the mesh, or one without services, changes no snapshot, no version, no
cache, no count, and no readiness. -/
theorem ready_and_complete (config : BuilderConfig) (steps : List SystemStep) :
    let before := (behind config steps).updater
    let updated (now : Time) := (behind config (steps ++ [.event (.update now)])).updater
    (before.ready = true ↔ HasFound config steps) ∧
    (∀ later, before.ready = true → (behind config (steps ++ later)).updater.ready = true) ∧
    ((behind config steps).FindsServices → ∀ now group,
      ((updated now).store.isRegistered group = true ↔ group ∈ before.store.prune.groups) ∧
      (group ∈ before.store.prune.groups →
        ((updated now).store.snapshot? group).isSome = true)) ∧
    (∀ group later, (before.store.snapshot? group).isSome = true →
      (∀ part, part <+: later →
        (behind config (steps ++ part)).updater.store.isRegistered group = true) →
      ((behind config (steps ++ later)).updater.store.snapshot? group).isSome = true) ∧
    (¬ (behind config steps).FindsServices → ∀ now,
      (updated now).store = before.store ∧ (updated now).builder = before.builder ∧
      (updated now).liveEntries = before.liveEntries ∧
      (updated now).serializations = before.serializations ∧
      (updated now).generation = before.generation ∧ (updated now).ready = before.ready) := by
  intro before updated
  have ready := behind_ready_iff config
  refine ⟨ready steps, fun later set => ?_, fun finds now group => ?_,
    fun group later has registered => behind_keeps has registered, fun nothing now => ?_⟩
  · rw [ready]
    exact ((ready steps).mp set).later later
  · have settles : before.Settles (updated now) := by
      rw [show updated now = _ from congrArg System.updater (behind_snoc config steps _)]
      exact update_settles (behind_coupled config steps) finds now
    have followed : (updated now).store.isRegistered group = true ↔
        group ∈ before.store.prune.groups := by
      rw [settles.groups, SnapshotStore.mem_groups]
    exact ⟨followed, fun listed => settles.stored group (followed.mpr listed)⟩
  · have same : updated now = { before with seenMesh := (behind config steps).mesh.revision } := by
      rw [show updated now = _ from congrArg System.updater (behind_snoc config steps _),
        update_idle nothing]
    rw [same]
    exact ⟨rfl, rfl, rfl, rfl, rfl, rfl⟩

/-- The first update that finds a service gives the one group that is followed its snapshot. -/
theorem ready_and_complete_first :
    let web : ConsumerGroup := ⟨"web", .global, .services (SortedSet.ofList ["api"])⟩
    let mesh : MultiZone := ⟨[⟨"home", .local, Services.ofList [⟨"api", ∅⟩]⟩]⟩
    let config : BuilderConfig := ⟨.zero, none, [], false⟩
    let steps := [.event (.subscribe web), .withdraw, .event (.mesh mesh)]
    (behind config steps).FindsServices ∧
      ((behind config (steps ++ [.event (.update 0)])).updater.store.snapshot? web).isSome = true := by
  intro web mesh config steps
  have finds : (behind config steps).FindsServices :=
    ⟨mesh, rfl, _, List.mem_cons_self, "api", ⟨"api", ∅⟩, by decide⟩
  obtain ⟨-, -, complete, -⟩ := ready_and_complete config steps
  exact ⟨finds, (complete finds 0 web).2 (SnapshotStore.mem_groups.mpr (by decide))⟩

end System

end ServiceMesh
