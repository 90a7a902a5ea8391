import ServiceMesh.Proofs.Snapshot.FullRebuild

/-! Taking over the resources of all services while the mesh stays the same. An updater need not notice
that it does. At each tick where it notices and takes the resources over, they are what they would be if
they were made again, so that no run shows the difference. -/
namespace ServiceMesh

namespace Updater

variable {updater : Updater}

/-- A tick that makes the resources of all services again, whatever they were made from before. -/
def tickAnew (updater : Updater) (mesh : MultiZone) (faults : List Fault) : Updater :=
  updater.rebuild mesh faults
    (updater.builder.config.global mesh (updater.last.map Built.global)) fun store =>
      needsRebuild store (updater.changedServices mesh) (updater.haveFaultsChanged faults)

/-- A tick that takes the resources of the same mesh over if this is one of the ticks that look. -/
def tickReusing (looks : Nat → Bool) (updater : Updater) (mesh : MultiZone) (faults : List Fault) :
    Updater :=
  if looks updater.ticks then updater.tick mesh faults else updater.tickAnew mesh faults

theorem tickReusing_always : tickReusing (fun _ => true) = tick := by
  funext updater mesh faults
  rw [tickReusing, if_pos rfl]

theorem Made.seen (made : updater.Made) (seenMesh seenFaults : Nat) :
    Made { updater with seenMesh, seenFaults } := made

theorem Made.tick_eq (made : updater.Made) (mesh : MultiZone) (faults : List Fault) :
    updater.tick mesh faults = updater.tickAnew mesh faults := by
  rw [tick_eq_rebuild, made.globalFor_eq, tickAnew]

theorem Made.tickReusing_eq (made : updater.Made) (looks : Nat → Bool) (mesh : MultiZone)
    (faults : List Fault) :
    updater.tickReusing looks mesh faults = updater.tickAnew mesh faults := by
  rw [tickReusing, made.tick_eq, ite_self]

theorem made_tickAnew (updater : Updater) (mesh : MultiZone) (faults : List Fault) :
    (updater.tickAnew mesh faults).Made := by
  have config : (updater.tickAnew mesh faults).builder.config = updater.builder.config :=
    (SnapshotBuilder.buildAll_buildsAll _ _ _ _ _ _).config_eq
  intro last built
  obtain rfl := Option.some.inj built
  rw [config]
  exact ⟨_, rfl⟩

/-- Two ways to tick that agree for an updater whatever it has seen give the same updates of it. -/
theorem updateBy_congr {first second : Updater → MultiZone → List Fault → Updater}
    (same : ∀ seenMesh seenFaults, first { updater with seenMesh, seenFaults } =
      second { updater with seenMesh, seenFaults }) (mesh : Watched (Option MultiZone))
    (faults : FaultService) (now : Time) :
    updater.updateBy first mesh faults now = updater.updateBy second mesh faults now := by
  simp only [updateBy, same]

theorem Made.updateBy (made : updater.Made) (mesh : Watched (Option MultiZone))
    (faults : FaultService) (now : Time) : (updater.updateBy tickAnew mesh faults now).1.Made := by
  rcases updater.updateBy_cases tickAnew mesh faults now with
    idle | ⟨state, active, behind, -, -, built⟩
  · rw [idle]
    exact made
  · rw [built]
    exact made_tickAnew _ state active

end Updater

namespace System

variable {system : System} {state : MultiZone} {global : GlobalSnapshot} {config : BuilderConfig}

theorem handle_reusing (made : system.updater.Made) (looks : Nat → Bool) (event : SystemEvent) :
    system.handle (Updater.updateBy (Updater.tickReusing looks)) event =
      system.handle (Updater.updateBy Updater.tickAnew) event := by
  cases event with
  | update now =>
      have ticks (seenMesh seenFaults : Nat) :
          Updater.tickReusing looks { system.updater with seenMesh, seenFaults } =
            Updater.tickAnew { system.updater with seenMesh, seenFaults } := by
        funext state active
        exact (made.seen seenMesh seenFaults).tickReusing_eq looks state active
      simp only [handle, Updater.updateBy_congr ticks]
  | _ => rfl

theorem handle_made (made : system.updater.Made) (event : SystemEvent) :
    (system.handle (Updater.updateBy Updater.tickAnew) event).updater.Made := by
  cases event with
  | update now => exact made.updateBy system.mesh system.faults now
  | _ => exact made

/-- Along every run it makes no difference which ticks look for resources to take over. -/
theorem run_reusing (looks : Nat → Bool) (config : BuilderConfig) (events : List SystemEvent) :
    run (Updater.updateBy (Updater.tickReusing looks)) config events =
        run (Updater.updateBy Updater.tickAnew) config events ∧
      (run (Updater.updateBy Updater.tickAnew) config events).updater.Made := by
  induction events using List.reverseRecOn with
  | nil =>
      refine ⟨rfl, fun last built => ?_⟩
      contradiction
  | append_singleton events event ih =>
      obtain ⟨same, made⟩ := ih
      rw [run_snoc, run_snoc, same]
      exact ⟨handle_reusing made looks event, handle_made made event⟩

/-! ### While the mesh stays the same -/

/-- The last build was made from the mesh that is published, and gave these resources. -/
def Rests (system : System) (state : MultiZone) (global : GlobalSnapshot) : Prop :=
  system.mesh.value = some state ∧ ∃ faults, system.updater.last = some ⟨state, global, faults⟩

theorem Rests.handle (rests : system.Rests state global) (made : system.updater.Made)
    {event : SystemEvent} (same : ∀ other, event = .mesh other → other = state) :
    (system.handle (Updater.updateBy Updater.tickAnew) event).Rests state global := by
  obtain ⟨published, faults, last⟩ := rests
  cases event with
  | mesh other =>
      obtain rfl := same other rfl
      exact ⟨rfl, faults, last⟩
  | update now =>
      refine ⟨published, ?_⟩
      rcases system.updater.updateBy_cases Updater.tickAnew system.mesh system.faults now with
        idle | ⟨other, active, behind, found, -, built⟩
      · refine ⟨faults, ?_⟩
        simp only [System.handle, idle, last]
      · obtain rfl := Option.some.inj (found.symm.trans published)
        obtain ⟨previous, madeOf⟩ := made _ last
        dsimp only at madeOf
        -- What is made out of these resources are these resources again.
        have again : system.updater.builder.config.global other
            (system.updater.last.map Built.global) = global := by
          rw [last, Option.map_some, madeOf, BuilderConfig.global_again]
        refine ⟨active, ?_⟩
        simp only [System.handle, built]
        exact congrArg (fun made => some (Built.mk other made active)) again
  | _ => exact ⟨published, faults, last⟩

theorem Rests.run {events more : List SystemEvent}
    (rests : (run (Updater.updateBy Updater.tickAnew) config events).Rests state global)
    (same : ∀ other, .mesh other ∈ more → other = state) :
    (run (Updater.updateBy Updater.tickAnew) config (events ++ more)).Rests state global := by
  induction more using List.reverseRecOn with
  | nil => rwa [List.append_nil]
  | append_singleton more event ih =>
      have earlier := ih fun other member => same other (List.mem_append_left _ member)
      rw [← List.append_assoc, run_snoc]
      refine earlier.handle (run_reusing (fun _ => false) config _).2 fun other latest => ?_
      exact same other (List.mem_append_right _ (latest ▸ List.mem_cons_self))

/-- The resources of all services, made again from the same mesh and out of themselves, are the same. So
it cannot be told from a system at which ticks it takes them over, for a mesh that is the one of the last
build, and at which it makes them again: behind any events it is as if they had been made again each time.
As long as no other mesh is published, all ticks leave the same resources. -/
theorem reuse_eq_rebuild (config : BuilderConfig) :
    (∀ mesh previous, let global := config.global mesh previous
      config.global mesh (some global) = global) ∧
    ∀ looks events,
      let system := run (Updater.updateBy (Updater.tickReusing looks)) config events
      system = run (Updater.updateBy Updater.tickAnew) config events ∧
        system = run Updater.update config events ∧
        ∀ last, system.updater.last = some last → system.mesh.value = some last.mesh →
          ∀ more, (∀ state, .mesh state ∈ more → state = last.mesh) →
            (run (Updater.updateBy (Updater.tickReusing looks)) config
              (events ++ more)).updater.last.map Built.global = some last.global := by
  refine ⟨fun mesh previous => config.global_again mesh previous, fun looks events => ?_⟩
  intro system
  have anew : system = run (Updater.updateBy Updater.tickAnew) config events :=
    (run_reusing looks config events).1
  refine ⟨anew, ?_, fun last built published more same => ?_⟩
  · have always := (run_reusing (fun _ => true) config events).1
    rw [anew, ← always, Updater.tickReusing_always, Updater.update_eq_updateBy]
  · have rests : system.Rests last.mesh last.global := ⟨published, last.faults, built⟩
    rw [anew] at rests
    obtain ⟨-, faults, later⟩ := rests.run same
    rw [(run_reusing looks config (events ++ more)).1, later, Option.map_some]

/-- A service that lost its instances and another that is gone, where no tick looks. -/
theorem reuse_eq_rebuild_departed :
    let config : BuilderConfig := ⟨.zero, some "h2", [], true⟩
    let home (services : List Service) : MultiZone := ⟨[⟨"home", .local, Services.ofList services⟩]⟩
    let tagged : Instance := ⟨"w-1", SortedSet.ofList ["h2"], "10.0.0.1", 80, true, true, false, 1⟩
    let mesh := home [⟨"web", ∅⟩]
    let events := [.mesh (home [⟨"db", ∅⟩, ⟨"web", SortedSet.ofList [tagged]⟩]), .update 0,
      .mesh mesh, .update 1]
    let more := [.update 2, .mesh mesh, .update 3]
    let behind := run (Updater.updateBy (Updater.tickReusing fun _ => false)) config
    ∃ last, (behind events).updater.last = some last ∧
      (behind events).mesh.value = some last.mesh ∧
      (∀ state, .mesh state ∈ more → state = last.mesh) ∧
      last.global.clusters.entries = [("db", ⟨"db", 0, false⟩), ("web", ⟨"web", 0, true⟩)] ∧
      (behind (events ++ more)).updater.last.map Built.global = some last.global := by
  intro config home tagged mesh events more behind
  have built : (behind events).updater.last.map
      (fun last => (last.mesh, last.global.clusters.entries)) =
        some (mesh, [("db", ⟨"db", 0, false⟩), ("web", ⟨"web", 0, true⟩)]) := by decide +kernel
  obtain ⟨last, found, shown⟩ := Option.map_eq_some_iff.mp built
  obtain ⟨same, clusters⟩ := Prod.mk.inj shown
  have published : (behind events).mesh.value = some last.mesh := by
    rw [same]
    decide +kernel
  have known (state : MultiZone) (member : .mesh state ∈ more) : state = last.mesh := by
    rw [same]
    simpa [more] using member
  refine ⟨last, found, published, known, clusters, ?_⟩
  exact ((reuse_eq_rebuild config).2 (fun _ => false) events).2.2 last found published more known

end System

end ServiceMesh
