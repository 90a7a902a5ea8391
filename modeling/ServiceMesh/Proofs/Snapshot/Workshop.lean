import ServiceMesh.Proofs.Snapshot.Remembered

/-! Builds that go on side by side, on one builder. Each of them takes four steps: it serializes its
clusters, its endpoints and its routes, and then gets its versions. Whose turn it is is up to a list of
turns; what is not over behind it is finished build by build. -/
namespace ServiceMesh

/-- Where a build stands, with the handles that it holds already. -/
inductive BuildStage where
  | waiting
  | hasClusters (clusters : Handle Cluster)
  | hasEndpoints (clusters : Handle Cluster) (endpoints : Handle LoadAssignment)
  | hasRoutes (clusters : Handle Cluster) (endpoints : Handle LoadAssignment)
      (routes : Handle RouteConfiguration)
  | done (snapshot : Snapshot)

namespace BuildStage

def clusters? : BuildStage → Option (Handle Cluster)
  | .waiting => none
  | .hasClusters clusters => some clusters
  | .hasEndpoints clusters _ => some clusters
  | .hasRoutes clusters _ _ => some clusters
  | .done snapshot => some snapshot.clusters

def endpoints? : BuildStage → Option (Handle LoadAssignment)
  | .waiting => none
  | .hasClusters _ => none
  | .hasEndpoints _ endpoints => some endpoints
  | .hasRoutes _ endpoints _ => some endpoints
  | .done snapshot => some snapshot.endpoints

def routes? : BuildStage → Option (Handle RouteConfiguration)
  | .waiting => none
  | .hasClusters _ => none
  | .hasEndpoints _ _ => none
  | .hasRoutes _ _ routes => some routes
  | .done snapshot => some snapshot.routes

def snapshot? : BuildStage → Option Snapshot
  | .done snapshot => some snapshot
  | _ => none

/-- How many steps are left. -/
def left : BuildStage → Nat
  | .waiting => 4
  | .hasClusters _ => 3
  | .hasEndpoints _ _ => 2
  | .hasRoutes _ _ _ => 1
  | .done _ => 0

theorem left_eq_zero {stage : BuildStage} (ended : stage.left = 0) :
    ∃ snapshot, stage = .done snapshot := by
  cases stage with
  | done snapshot => exact ⟨snapshot, rfl⟩
  | _ => contradiction

end BuildStage

structure PendingBuild where
  group : ConsumerGroup
  stage : BuildStage

/-- What builds are made from, and the snapshots that others hold while they go on. -/
structure BuildPlan where
  others : List Snapshot
  global : GlobalSnapshot
  faults : List Fault
  generation : Nat

def BuildPlan.outside (plan : BuildPlan) : Holdings := .ofSnapshots plan.others

/-- The resources that a group is to receive. -/
def BuildPlan.target (plan : BuildPlan) (config : BuilderConfig) (group : ConsumerGroup) :
    SnapshotContent :=
  config.content group plan.global plan.faults

/-- What builds hold. -/
def Holdings.ofBuilds (builds : List PendingBuild) : Holdings where
  clusters := (builds.filterMap (·.stage.clusters?)).map Handle.id
  endpoints := (builds.filterMap (·.stage.endpoints?)).map Handle.id
  routes := (builds.filterMap (·.stage.routes?)).map Handle.id

/-- The next step of a build, while `held` is held by all together. -/
def SnapshotBuilder.advance (builder : SnapshotBuilder) (plan : BuildPlan) (held : Holdings)
    (build : PendingBuild) : BuildStage × SnapshotBuilder :=
  let content := plan.target builder.config build.group
  match build.stage with
  | .waiting =>
      let (clusters, cache) := builder.caches.clusters.serialize held.clusters content.clusters
      (.hasClusters clusters, { builder with caches := { builder.caches with clusters := cache } })
  | .hasClusters clusters =>
      let (endpoints, cache) := builder.caches.endpoints.serialize held.endpoints content.endpoints
      (.hasEndpoints clusters endpoints,
        { builder with caches := { builder.caches with endpoints := cache } })
  | .hasEndpoints clusters endpoints =>
      let (routes, cache) := builder.caches.routes.serialize held.routes content.routes
      (.hasRoutes clusters endpoints routes,
        { builder with caches := { builder.caches with routes := cache } })
  | .hasRoutes clusters endpoints routes =>
      let (versions, assigned) := builder.versions.assign build.group clusters endpoints routes
      (.done ⟨build.group, plan.generation, versions, clusters, endpoints, routes⟩,
        { builder with versions := assigned })
  | .done snapshot => (.done snapshot, builder)

/-- A builder with the builds that are under way. -/
structure Workshop where
  builder : SnapshotBuilder
  builds : List PendingBuild

namespace Workshop

/-- A build that has not begun. -/
def untouched (group : ConsumerGroup) : PendingBuild := ⟨group, .waiting⟩

/-- A build that is over. -/
def finished (snapshot : Snapshot) : PendingBuild := ⟨snapshot.group, .done snapshot⟩

def start (builder : SnapshotBuilder) (groups : List ConsumerGroup) : Workshop :=
  ⟨builder, groups.map untouched⟩

def holdings (workshop : Workshop) (plan : BuildPlan) : Holdings :=
  workshop.builder.holdings (plan.outside ++ .ofBuilds workshop.builds)

/-- One build makes its next step, if there is such a build. -/
def turn (plan : BuildPlan) (workshop : Workshop) (n : Nat) : Workshop :=
  match workshop.builds[n]? with
  | none => workshop
  | some build =>
      let (stage, builder) := workshop.builder.advance plan (workshop.holdings plan) build
      ⟨builder, workshop.builds.set n { build with stage := stage }⟩

def run (plan : BuildPlan) (workshop : Workshop) (turns : List Nat) : Workshop :=
  turns.foldl (turn plan) workshop

/-- The turns by which so many builds are finished one after the other. -/
def finishing (builds : Nat) : List Nat := (List.range builds).flatMap (List.replicate 4)

/-- What is built already, in the order in which it was asked for. -/
def snapshots (workshop : Workshop) : List Snapshot :=
  workshop.builds.filterMap (·.stage.snapshot?)

end Workshop

/-- Builds the snapshots of some groups side by side. -/
def SnapshotBuilder.buildBy (builder : SnapshotBuilder) (plan : BuildPlan)
    (groups : List ConsumerGroup) (turns : List Nat) : List Snapshot × SnapshotBuilder :=
  let workshop := (Workshop.start builder groups).run plan
    (turns ++ Workshop.finishing groups.length)
  (workshop.snapshots, workshop.builder)

namespace Workshop

variable {plan : BuildPlan} {workshop : Workshop} {builder : SnapshotBuilder}

theorem run_append (plan : BuildPlan) (workshop : Workshop) (turns later : List Nat) :
    workshop.run plan (turns ++ later) = (workshop.run plan turns).run plan later :=
  List.foldl_append

theorem run_cons (plan : BuildPlan) (workshop : Workshop) (n : Nat) (turns : List Nat) :
    workshop.run plan (n :: turns) = (workshop.turn plan n).run plan turns := rfl

theorem run_four (plan : BuildPlan) (workshop : Workshop) (n : Nat) :
    workshop.run plan (List.replicate 4 n) =
      (((workshop.turn plan n).turn plan n).turn plan n).turn plan n := rfl

theorem turn_at (plan : BuildPlan) (builder : SnapshotBuilder) (front back : List PendingBuild)
    (build : PendingBuild) :
    let workshop : Workshop := ⟨builder, front ++ build :: back⟩
    let next := builder.advance plan (workshop.holdings plan) build
    workshop.turn plan front.length =
      ⟨next.2, front ++ { build with stage := next.1 } :: back⟩ := by
  intro workshop next
  have found : workshop.builds[front.length]? = some build := by simp [workshop]
  rw [turn, found]
  simp [workshop, next]

/-- A turn is a step of the build in its place, or there is none. -/
theorem builds_split (workshop : Workshop) (n : Nat) :
    workshop.builds.length ≤ n ∨
      ∃ front build back, workshop.builds = front ++ build :: back ∧ front.length = n := by
  rcases Nat.lt_or_ge n workshop.builds.length with bound | beyond
  · refine .inr ⟨workshop.builds.take n, workshop.builds[n], workshop.builds.drop (n + 1), ?_, ?_⟩
    · rw [List.getElem_cons_drop, List.take_append_drop]
    · rw [List.length_take, Nat.min_eq_left bound.le]
  · exact .inl beyond

theorem turn_beyond {n : Nat} (beyond : workshop.builds.length ≤ n) :
    workshop.turn plan n = workshop := by
  rw [turn, List.getElem?_eq_none beyond]

/-- What every step of every build keeps is kept by all turns. -/
theorem run_keeps {motive : Workshop → Prop}
    (step : ∀ builder front build back, motive ⟨builder, front ++ build :: back⟩ →
      let held := (Workshop.mk builder (front ++ build :: back)).holdings plan
      let next := builder.advance plan held build
      motive ⟨next.2, front ++ { build with stage := next.1 } :: back⟩)
    (begins : motive workshop) (turns : List Nat) : motive (workshop.run plan turns) := by
  induction turns generalizing workshop with
  | nil => exact begins
  | cons n turns ih =>
      refine ih ?_
      rcases workshop.builds_split n with beyond | ⟨front, build, back, split, rfl⟩
      · rw [turn_beyond beyond]
        exact begins
      · obtain ⟨builder, builds⟩ := workshop
        dsimp only at split
        subst split
        rw [turn_at]
        exact step builder front build back begins

theorem run_groups (plan : BuildPlan) (workshop : Workshop) (turns : List Nat) :
    (workshop.run plan turns).builds.map PendingBuild.group =
      workshop.builds.map PendingBuild.group := by
  refine run_keeps (motive := fun later => later.builds.map PendingBuild.group =
    workshop.builds.map PendingBuild.group) ?_ rfl turns
  intro builder front build back same
  simpa using same

/-! ### Every build is over in the end -/

/-- How many steps are left of a build. -/
def left (workshop : Workshop) (n : Nat) : Nat :=
  (workshop.builds[n]?.map (·.stage.left)).getD 0

theorem advance_left (builder : SnapshotBuilder) (plan : BuildPlan) (held : Holdings)
    (build : PendingBuild) :
    (builder.advance plan held build).1.left = build.stage.left - 1 := by
  unfold SnapshotBuilder.advance
  cases build.stage <;> rfl

theorem left_turn (plan : BuildPlan) (workshop : Workshop) (n i : Nat) :
    (workshop.turn plan n).left i = workshop.left i - if n = i then 1 else 0 := by
  unfold turn
  split
  case h_1 missing =>
    split
    case isTrue same => rw [left, ← same, missing, Option.map_none, Option.getD_none]
    case isFalse => rfl
  case h_2 build found =>
    simp only [left]
    split
    case isTrue same =>
      subst same
      have bound := (List.getElem?_eq_some_iff.mp found).1
      rw [List.getElem?_set_self bound, found]
      exact advance_left _ _ _ _
    case isFalse apart => rw [List.getElem?_set_ne apart, Nat.sub_zero]

theorem left_start (builder : SnapshotBuilder) {groups : List ConsumerGroup} {i : Nat}
    (bound : i < groups.length) : (start builder groups).left i = 4 := by
  simp [left, start, List.getElem?_eq_getElem bound, untouched, BuildStage.left]

theorem left_run (plan : BuildPlan) (workshop : Workshop) (turns : List Nat) (i : Nat) :
    (workshop.run plan turns).left i = workshop.left i - turns.count i := by
  induction turns generalizing workshop with
  | nil => rfl
  | cons n turns ih =>
      rw [run_cons, ih, left_turn, List.count_cons, Nat.sub_sub, Nat.add_comm]
      simp only [beq_iff_eq]

theorem finishing_succ (builds : Nat) :
    finishing (builds + 1) = finishing builds ++ List.replicate 4 builds := by
  rw [finishing, List.range_succ, List.flatMap_append, List.flatMap_singleton, finishing]

theorem count_finishing {builds i : Nat} (bound : i < builds) :
    4 ≤ (finishing builds).count i := by
  induction builds with
  | zero => contradiction
  | succ builds ih =>
      rw [finishing_succ, List.count_append]
      rcases Nat.lt_succ_iff_lt_or_eq.mp bound with before | rfl
      · exact (ih before).trans (Nat.le_add_right _ _)
      · rw [List.count_replicate_self]
        exact Nat.le_add_left _ _

/-- Behind the finishing turns every build has its snapshot. -/
theorem run_done (plan : BuildPlan) (builder : SnapshotBuilder) (groups : List ConsumerGroup)
    (turns : List Nat) (build : PendingBuild)
    (member : build ∈ ((start builder groups).run plan
      (turns ++ finishing groups.length)).builds) : ∃ snapshot, build.stage = .done snapshot := by
  obtain ⟨i, bound, place⟩ := List.mem_iff_getElem.mp member
  have lengths := congrArg List.length (run_groups plan (start builder groups)
    (turns ++ finishing groups.length))
  simp only [List.length_map, start] at lengths
  have ended := left_run plan (start builder groups) (turns ++ finishing groups.length) i
  have begins := left_start builder (lengths ▸ bound : i < groups.length)
  have four := count_finishing (lengths ▸ bound)
  rw [begins, List.count_append, left, List.getElem?_eq_getElem bound, place] at ended
  refine BuildStage.left_eq_zero (Eq.trans ended ?_)
  omega

/-! ### One build after the other -/

theorem filterMap_finished {α : Type} (view : BuildStage → Option α) {shows : Snapshot → α}
    (ended : ∀ snapshot, view (.done snapshot) = some (shows snapshot)) (made : List Snapshot) :
    (made.map finished).filterMap (fun build => view build.stage) = made.map shows := by
  rw [List.filterMap_map, ← List.filterMap_eq_map]
  exact congrArg (List.filterMap · made) (funext ended)

theorem snapshots_finished (builder : SnapshotBuilder) (made : List Snapshot) :
    (Workshop.mk builder (made.map finished)).snapshots = made :=
  (filterMap_finished BuildStage.snapshot? (fun _ => rfl) made).trans (List.map_id made)

theorem filterMap_untouched {α : Type} {view : BuildStage → Option α} (waits : view .waiting = none)
    (groups : List ConsumerGroup) :
    (groups.map untouched).filterMap (fun build => view build.stage) = [] := by
  rw [List.filterMap_map, List.filterMap_eq_nil_iff]
  exact fun _ _ => waits

/-- A workshop in which one build is under way, behind those that are over and before those that have
not begun. -/
def around (made : List Snapshot) (groups : List ConsumerGroup) (builder : SnapshotBuilder)
    (build : PendingBuild) : Workshop :=
  ⟨builder, made.map finished ++ build :: groups.map untouched⟩

section Around

variable {made : List Snapshot} {groups : List ConsumerGroup} {build : PendingBuild}

theorem filterMap_around {α : Type} {view : BuildStage → Option α} {shows : Snapshot → α}
    (waits : view .waiting = none) (ended : ∀ snapshot, view (.done snapshot) = some (shows snapshot)) :
    ((around made groups builder build).builds.filterMap fun build => view build.stage) =
      made.map shows ++ (view build.stage).toList := by
  rw [around, List.filterMap_append, List.filterMap_cons, filterMap_untouched waits,
    filterMap_finished view ended]
  cases view build.stage <;> rfl

/-- As long as a build holds no collection of a kind, those of the kind are held by the others. -/
theorem holdings_around (plan : BuildPlan) (made : List Snapshot) (groups : List ConsumerGroup)
    (builder : SnapshotBuilder) (build : PendingBuild) :
    let held := (around made groups builder build).holdings plan
    let others := builder.holdings (plan.outside ++ .ofSnapshots made)
    (build.stage.clusters? = none → held.clusters = others.clusters) ∧
      (build.stage.endpoints? = none → held.endpoints = others.endpoints) ∧
      (build.stage.routes? = none → held.routes = others.routes) := by
  intro held others
  have ids {α : Type} {view : BuildStage → Option (Handle α)} {shows : Snapshot → Handle α}
      (waits : view .waiting = none)
      (ended : ∀ snapshot, view (.done snapshot) = some (shows snapshot))
      (none : view build.stage = none) :
      ((around made groups builder build).builds.filterMap fun build => view build.stage).map
        Handle.id = made.map fun snapshot => (shows snapshot).id := by
    rw [filterMap_around waits ended, none, Option.toList_none, List.append_nil, List.map_map]
    rfl
  refine ⟨fun none => ?_, fun none => ?_, fun none => ?_⟩
  · exact congrArg (plan.outside.clusters ++ · ++ builder.versions.holdings.clusters)
      (ids rfl (fun _ => rfl) none)
  · exact congrArg (plan.outside.endpoints ++ · ++ builder.versions.holdings.endpoints)
      (ids rfl (fun _ => rfl) none)
  · exact congrArg (plan.outside.routes ++ · ++ builder.versions.holdings.routes)
      (ids rfl (fun _ => rfl) none)

theorem turn_around (plan : BuildPlan) (builder : SnapshotBuilder) (build : PendingBuild) :
    let held := (around made groups builder build).holdings plan
    let next := builder.advance plan held build
    (around made groups builder build).turn plan made.length =
      around made groups next.2 { build with stage := next.1 } := by
  have place : made.length = (made.map finished).length := (List.length_map _).symm
  rw [place]
  exact turn_at plan builder (made.map finished) (groups.map untouched) build

/-- The four steps of a build, if no other comes in between, build what is built at once. -/
theorem run_around (plan : BuildPlan) (builder : SnapshotBuilder) (group : ConsumerGroup) :
    let next := builder.build (plan.outside ++ .ofSnapshots made) group plan.global plan.faults
      plan.generation
    (around made groups builder (untouched group)).run plan (List.replicate 4 made.length) =
      around made groups next.2 (finished next.1) := by
  intro next
  let content := plan.target builder.config group
  let held := builder.holdings (plan.outside ++ .ofSnapshots made)
  let clusters := builder.caches.clusters.serialize held.clusters content.clusters
  let endpoints := builder.caches.endpoints.serialize held.endpoints content.endpoints
  let routes := builder.caches.routes.serialize held.routes content.routes
  let one : SnapshotBuilder :=
    { builder with caches := { builder.caches with clusters := clusters.2 } }
  let two : SnapshotBuilder := { one with caches := { one.caches with endpoints := endpoints.2 } }
  let three : SnapshotBuilder := { two with caches := { two.caches with routes := routes.2 } }
  have first : (around made groups builder ⟨group, .waiting⟩).turn plan made.length =
      around made groups one ⟨group, .hasClusters clusters.1⟩ := by
    obtain ⟨same, -⟩ := holdings_around plan made groups builder ⟨group, .waiting⟩
    rw [turn_around]
    simp only [SnapshotBuilder.advance, same rfl, one, clusters, held, content]
  have second : (around made groups one ⟨group, .hasClusters clusters.1⟩).turn plan made.length =
      around made groups two ⟨group, .hasEndpoints clusters.1 endpoints.1⟩ := by
    obtain ⟨-, same, -⟩ := holdings_around plan made groups one
      ⟨group, .hasClusters clusters.1⟩
    rw [turn_around]
    simp only [SnapshotBuilder.advance, same rfl]
    rfl
  have third : (around made groups two ⟨group, .hasEndpoints clusters.1 endpoints.1⟩).turn plan
      made.length = around made groups three ⟨group, .hasRoutes clusters.1 endpoints.1 routes.1⟩ := by
    obtain ⟨-, -, same⟩ := holdings_around plan made groups two
      ⟨group, .hasEndpoints clusters.1 endpoints.1⟩
    rw [turn_around]
    simp only [SnapshotBuilder.advance, same rfl]
    rfl
  have fourth : (around made groups three ⟨group, .hasRoutes clusters.1 endpoints.1 routes.1⟩).turn
      plan made.length = around made groups next.2 (finished next.1) := by
    rw [turn_around]
    simp only [SnapshotBuilder.advance, finished, next, SnapshotBuilder.build]
    rfl
  rw [run_four, show untouched group = ⟨group, .waiting⟩ from rfl, first, second, third, fourth]

end Around

/-- The finishing turns build some groups as if each was built at once. -/
theorem run_finishing (plan : BuildPlan) (builder : SnapshotBuilder)
    (groups rest : List ConsumerGroup) :
    let made := builder.buildAll plan.outside groups plan.global plan.faults plan.generation
    (start builder (groups ++ rest)).run plan (finishing groups.length) =
      ⟨made.2, made.1.map finished ++ rest.map untouched⟩ := by
  induction groups using List.reverseRecOn generalizing rest with
  | nil => rfl
  | append_singleton groups group ih =>
      have counted : (builder.buildAll plan.outside groups plan.global plan.faults
          plan.generation).1.length = groups.length := by
        rw [← List.length_map Snapshot.group, (SnapshotBuilder.buildAll_buildsAll _ _ _ _ _ _).groups_eq]
      rw [SnapshotBuilder.buildAll_snoc, List.length_append, List.length_singleton, finishing_succ,
        run_append, List.append_assoc, List.singleton_append, ih, ← counted]
      refine (run_around plan _ group).trans ?_
      simp [around]

end Workshop

/-- Without turns the groups are built one after the other. -/
theorem SnapshotBuilder.buildBy_nil (builder : SnapshotBuilder) (plan : BuildPlan)
    (groups : List ConsumerGroup) :
    builder.buildBy plan groups [] =
      builder.buildAll plan.outside groups plan.global plan.faults plan.generation := by
  have whole := Workshop.run_finishing plan builder groups []
  rw [List.append_nil] at whole
  rw [buildBy, List.nil_append, whole]
  refine Prod.ext ?_ rfl
  exact (congrArg (Workshop.snapshots ⟨_, ·⟩) (List.append_nil _)).trans
    (Workshop.snapshots_finished _ _)

end ServiceMesh
