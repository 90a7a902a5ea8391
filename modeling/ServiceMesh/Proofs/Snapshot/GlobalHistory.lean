import ServiceMesh.Proofs.Snapshot.Stability

/-! The resources of all services along a history of states of the mesh, where each are made from a
state and from the resources before. A cluster is there for a service that is known, and speaks HTTP/2
as its instances did when it last had some. -/
namespace ServiceMesh

namespace MultiZone

variable {mesh : MultiZone} {name : String}

theorem mem_serviceNames_of_instances (populated : mesh.instancesOf name ≠ []) :
    name ∈ mesh.serviceNames := by
  by_contra unknown
  rw [instancesOf_eq, byZone_eq_nil unknown] at populated
  contradiction

theorem assignment_of_notMem (unknown : name ∉ mesh.serviceNames) :
    mesh.assignment name = ⟨name, []⟩ := by
  refine congrArg (LoadAssignment.mk name) (List.filterMap_eq_nil_iff.mpr fun zone member => ?_)
  have unfiled := List.filterMap_eq_nil_iff.mp (byZone_eq_nil unknown) zone member
  rw [ZoneState.endpointsOf?, Option.map_eq_none_iff.mp unfiled]

end MultiZone

namespace BuilderConfig

variable {config : BuilderConfig} {states : Nat → MultiZone} {name : String} {n : Nat}

/-- The resources at each time of a history, made from the state of that time and from the resources
before. -/
def globals (config : BuilderConfig) (states : Nat → MultiZone) : Nat → GlobalSnapshot
  | 0 => config.global (states 0) none
  | n + 1 => config.global (states (n + 1)) (some (config.globals states n))

/-- Holds if a service is there, or was there before in case clusters are never removed. -/
def Known (config : BuilderConfig) (states : Nat → MultiZone) (name : String) (n : Nat) : Prop :=
  if config.neverRemoveClusters then ∃ k ≤ n, name ∈ (states k).serviceNames
  else name ∈ (states n).serviceNames

/-- Holds if a service has been without instances between two times. Unless clusters are never
removed, it has always been there meanwhile. -/
def Idle (config : BuilderConfig) (states : Nat → MultiZone) (name : String) (k n : Nat) : Prop :=
  ∀ j, k < j → j ≤ n → (states j).instancesOf name = [] ∧
    (config.neverRemoveClusters = true ∨ name ∈ (states j).serviceNames)

/-- Holds if all instances of a service have the tag of HTTP/2, as of the last time that it had any. -/
def SpeaksHttp2 (config : BuilderConfig) (states : Nat → MultiZone) (name : String) (n : Nat) : Prop :=
  ∃ tag, config.http2Tag = some tag ∧ ∃ k ≤ n, (states k).instancesOf name ≠ [] ∧
    (∀ i ∈ (states k).instancesOf name, tag ∈ i.tags) ∧ config.Idle states name k n

/-! ### One state more -/

theorem known_zero : config.Known states name 0 ↔ name ∈ (states 0).serviceNames := by
  unfold Known
  split
  case isTrue => simp
  case isFalse => exact Iff.rfl

theorem known_of_mem (here : name ∈ (states n).serviceNames) : config.Known states name n := by
  unfold Known
  split
  case isTrue => exact ⟨n, Nat.le_refl n, here⟩
  case isFalse => exact here

theorem known_succ_of_notMem (gone : name ∉ (states (n + 1)).serviceNames) :
    config.Known states name (n + 1) ↔
      config.neverRemoveClusters = true ∧ config.Known states name n := by
  unfold Known
  cases config.neverRemoveClusters with
  | false => simp [gone]
  | true =>
      simp only [if_true, true_and]
      constructor
      · rintro ⟨k, bound, here⟩
        rcases Nat.le_succ_iff.mp bound with earlier | rfl
        · exact ⟨k, earlier, here⟩
        · contradiction
      · rintro ⟨k, bound, here⟩
        exact ⟨k, Nat.le_succ_of_le bound, here⟩

theorem idle_refl : config.Idle states name n n := fun _ later bound => by omega

theorem idle_succ {k : Nat} (bound : k ≤ n) : config.Idle states name k (n + 1) ↔
    config.Idle states name k n ∧ (states (n + 1)).instancesOf name = [] ∧
      (config.neverRemoveClusters = true ∨ name ∈ (states (n + 1)).serviceNames) := by
  constructor
  · intro idle
    exact ⟨fun j later upTo => idle j later (Nat.le_succ_of_le upTo),
      idle (n + 1) (Nat.lt_succ_of_le bound) (Nat.le_refl _)⟩
  · rintro ⟨idle, last⟩ j later upTo
    rcases Nat.le_succ_iff.mp upTo with earlier | rfl
    · exact idle j later earlier
    · exact last

theorem usesHttp2_iff {instances : List Instance} {previously : Bool} :
    config.usesHttp2 instances previously = true ↔ ∃ tag, config.http2Tag = some tag ∧
      if instances = [] then previously = true else ∀ i ∈ instances, tag ∈ i.tags := by
  unfold usesHttp2
  cases config.http2Tag with
  | none => simp
  | some tag => cases instances <;> simp

/-- With instances all is told by the state itself. -/
theorem speaksHttp2_of_instances (populated : (states n).instancesOf name ≠ []) :
    config.SpeaksHttp2 states name n ↔ ∃ tag, config.http2Tag = some tag ∧
      ∀ i ∈ (states n).instancesOf name, tag ∈ i.tags := by
  refine exists_congr fun tag => and_congr_right fun _ => ?_
  constructor
  · rintro ⟨k, bound, -, tagged, idle⟩
    rcases Nat.lt_or_eq_of_le bound with earlier | rfl
    · exact absurd (idle n earlier (Nat.le_refl n)).1 populated
    · exact tagged
  · intro tagged
    exact ⟨n, Nat.le_refl n, populated, tagged, idle_refl⟩

/-- Without instances all stays as it was, if the cluster stays. -/
theorem speaksHttp2_succ_of_empty (empty : (states (n + 1)).instancesOf name = []) :
    config.SpeaksHttp2 states name (n + 1) ↔
      (config.neverRemoveClusters = true ∨ name ∈ (states (n + 1)).serviceNames) ∧
        config.SpeaksHttp2 states name n := by
  constructor
  · rintro ⟨tag, set, k, bound, populated, tagged, idle⟩
    rcases Nat.le_succ_iff.mp bound with earlier | rfl
    · obtain ⟨idle, -, stays⟩ := (idle_succ earlier).mp idle
      exact ⟨stays, tag, set, k, earlier, populated, tagged, idle⟩
    · contradiction
  · rintro ⟨stays, tag, set, k, bound, populated, tagged, idle⟩
    exact ⟨tag, set, k, Nat.le_succ_of_le bound, populated, tagged,
      (idle_succ bound).mpr ⟨idle, empty, stays⟩⟩

theorem not_speaksHttp2_zero (empty : (states 0).instancesOf name = []) :
    ¬ config.SpeaksHttp2 states name 0 := by
  rintro ⟨-, -, k, bound, populated, -⟩
  obtain rfl := Nat.le_zero.mp bound
  contradiction

theorem SpeaksHttp2.known (speaks : config.SpeaksHttp2 states name n) :
    config.Known states name n := by
  obtain ⟨-, -, k, bound, populated, -, idle⟩ := speaks
  have there := MultiZone.mem_serviceNames_of_instances populated
  unfold Known
  split
  case isTrue => exact ⟨k, bound, there⟩
  case isFalse removed =>
    rcases Nat.lt_or_eq_of_le bound with earlier | rfl
    · exact (idle n earlier (Nat.le_refl n)).2.resolve_left removed
    · exact there

/-! ### Clusters along a history -/

/-- What a state makes of the flag before it. -/
theorem speaksHttp2_succ_of_mem (here : name ∈ (states (n + 1)).serviceNames) {before : Bool}
    (told : before = true ↔ config.SpeaksHttp2 states name n) :
    config.SpeaksHttp2 states name (n + 1) ↔
      config.usesHttp2 ((states (n + 1)).instancesOf name) before = true := by
  rw [usesHttp2_iff]
  by_cases empty : (states (n + 1)).instancesOf name = []
  · simp only [speaksHttp2_succ_of_empty empty, here, empty, if_true, told, or_true, true_and]
    constructor
    · intro speaks
      obtain ⟨tag, set, -⟩ := id speaks
      exact ⟨tag, set, speaks⟩
    · rintro ⟨-, -, speaks⟩
      exact speaks
  · simp only [speaksHttp2_of_instances empty, if_neg empty]

theorem speaksHttp2_zero : config.SpeaksHttp2 states name 0 ↔
    config.usesHttp2 ((states 0).instancesOf name) false = true := by
  rw [usesHttp2_iff]
  by_cases empty : (states 0).instancesOf name = []
  · simp [not_speaksHttp2_zero empty, empty]
  · simp only [speaksHttp2_of_instances empty, if_neg empty]

/-- The cluster of a service as its history tells it. -/
def ToldBy (config : BuilderConfig) (states : Nat → MultiZone) (name : String) (n : Nat)
    (cluster : Cluster) : Prop :=
  config.Known states name n ∧ cluster.name = name ∧
    cluster.connectTimeoutMillis = config.clusterConnectTimeout.toMillis ∧
    (cluster.http2 = true ↔ config.SpeaksHttp2 states name n)

theorem toldBy_of_mem (here : name ∈ (states n).serviceNames) {http2 : Bool}
    (told : config.SpeaksHttp2 states name n ↔ http2 = true) {cluster : Cluster} :
    some ⟨name, config.clusterConnectTimeout.toMillis, http2⟩ = some cluster ↔
      config.ToldBy states name n cluster := by
  have known : config.Known states name n := known_of_mem here
  obtain ⟨named, timeout, flag⟩ := cluster
  simp only [ToldBy, known, told, true_and, Option.some_inj, Cluster.mk.injEq]
  constructor
  · rintro ⟨rfl, rfl, rfl⟩
    exact ⟨rfl, rfl, Iff.rfl⟩
  · rintro ⟨rfl, rfl, same⟩
    exact ⟨rfl, rfl, (Bool.eq_iff_iff.mpr same).symm⟩

theorem exists_toldBy_iff :
    (∃ cluster, config.ToldBy states name n cluster) ↔ config.Known states name n := by
  constructor
  · rintro ⟨_, known, -⟩
    exact known
  · intro known
    classical
    exact ⟨⟨name, config.clusterConnectTimeout.toMillis, config.SpeaksHttp2 states name n⟩,
      known, rfl, rfl, decide_eq_true_iff⟩

theorem get?_clusters_globals (config : BuilderConfig) (states : Nat → MultiZone) (name : String)
    (n : Nat) (cluster : Cluster) :
    (config.globals states n).clusters.get? name = some cluster ↔
      config.ToldBy states name n cluster := by
  induction n generalizing cluster with
  | zero =>
      rw [globals, get?_clusters]
      split
      case isTrue here => exact toldBy_of_mem (SortedSet.contains_iff.mp here) speaksHttp2_zero
      case isFalse gone =>
        have unknown : ¬ config.Known states name 0 :=
          mt known_zero.mp (mt SortedSet.contains_iff.mpr gone)
        simp [ToldBy, unknown]
  | succ n ih =>
      rw [globals, get?_clusters]
      split
      case isTrue here =>
        have here := SortedSet.contains_iff.mp here
        refine toldBy_of_mem here (speaksHttp2_succ_of_mem here ?_)
        rw [Option.bind_some]
        cases found : (config.globals states n).clusters.get? name with
        | some before => exact ((ih before).mp found).2.2.2
        | none =>
            -- A service that speaks HTTP/2 is known, and then it has a cluster.
            refine iff_of_false Bool.false_ne_true fun speaks => ?_
            obtain ⟨before, told⟩ := exists_toldBy_iff.mpr speaks.known
            rw [(ih before).mpr told] at found
            contradiction
      case isFalse gone =>
        have gone := mt SortedSet.contains_iff.mpr gone
        have empty : (states (n + 1)).instancesOf name = [] :=
          not_not.mp (mt MultiZone.mem_serviceNames_of_instances gone)
        simp only [ToldBy, known_succ_of_notMem gone, speaksHttp2_succ_of_empty empty, gone, or_false]
        cases config.neverRemoveClusters with
        | false => simp
        | true => simpa [ToldBy] using ih cluster

theorem mem_keys_clusters_globals :
    name ∈ (config.globals states n).clusters.keys ↔ config.Known states name n := by
  rw [SortedMap.mem_keys, Option.isSome_iff_exists, ← exists_toldBy_iff]
  exact exists_congr fun cluster => get?_clusters_globals config states name n cluster

/-- A service that is known has endpoints: those of the state, which has none for it if it is gone. -/
theorem get?_endpoints_globals (config : BuilderConfig) (states : Nat → MultiZone) (name : String)
    (n : Nat) (assignment : LoadAssignment) :
    (config.globals states n).endpoints.get? name = some assignment ↔
      config.Known states name n ∧ (states n).assignment name = assignment := by
  by_cases here : name ∈ (states n).serviceNames
  · have known : config.Known states name n := known_of_mem here
    have contains := SortedSet.contains_iff.mpr here
    cases n <;> rw [globals, get?_endpoints, contains, if_pos rfl, Option.some_inj] <;> simp [known]
  · have contains : (states n).serviceNames.contains name = false :=
      eq_false_of_ne_true (mt SortedSet.contains_iff.mp here)
    rw [MultiZone.assignment_of_notMem here]
    cases n with
    | zero =>
        rw [globals, get?_endpoints, contains, known_zero]
        cases config.neverRemoveClusters <;> simp [here]
    | succ n =>
        have before : ((config.globals states n).clusters.get? name).isSome = true ↔
            config.Known states name n := by
          rw [← SortedMap.mem_keys, mem_keys_clusters_globals]
        rw [globals, get?_endpoints, contains, known_succ_of_notMem here, Option.bind_some,
          ← before, Option.isSome_iff_exists]
        cases config.neverRemoveClusters <;> simp

theorem mem_keys_endpoints_globals :
    name ∈ (config.globals states n).endpoints.keys ↔ config.Known states name n := by
  rw [SortedMap.mem_keys, Option.isSome_iff_exists]
  simp [get?_endpoints_globals]

/-- The resources at a time of any history. The services with a cluster are those that the state knows,
or with clusters that are never removed those that any state so far knew; the same services have
endpoints, which are none for a service that is gone. A cluster speaks HTTP/2 exactly if there is a tag
for it that all instances of the service carried when it last had some, without a state since then in
which the service was gone and its cluster removed. -/
theorem globals_follow_history (config : BuilderConfig) (states : Nat → MultiZone) (n : Nat) :
    let global := config.globals states n
    ∀ name,
      (name ∈ global.clusters.keys ↔ config.Known states name n) ∧
      (name ∈ global.endpoints.keys ↔ name ∈ global.clusters.keys) ∧
      (∀ cluster, global.clusters.get? name = some cluster →
        cluster.name = name ∧
          cluster.connectTimeoutMillis = config.clusterConnectTimeout.toMillis ∧
          (cluster.http2 = true ↔ config.SpeaksHttp2 states name n)) ∧
      (∀ assignment, global.endpoints.get? name = some assignment →
        assignment = (states n).assignment name ∧
          (name ∉ (states n).serviceNames → assignment = ⟨name, []⟩)) := by
  intro global name
  refine ⟨mem_keys_clusters_globals, ?_, fun cluster found => ?_, fun assignment found => ?_⟩
  · exact mem_keys_endpoints_globals.trans mem_keys_clusters_globals.symm
  · exact ((get?_clusters_globals config states name n cluster).mp found).2
  · obtain ⟨-, rfl⟩ := (get?_endpoints_globals config states name n assignment).mp found
    exact ⟨rfl, MultiZone.assignment_of_notMem⟩

/-- A service that loses its instances keeps to HTTP/2, until it is gone and comes back. -/
example :
    let config : BuilderConfig := ⟨.zero, some "h2", [], false⟩
    let home (services : List Service) : MultiZone := ⟨[⟨"home", .local, Services.ofList services⟩]⟩
    let tagged : Instance := ⟨"w-1", SortedSet.ofList ["h2"], "10.0.0.1", 80, true, true, false, 1⟩
    let states : Nat → MultiZone
      | 0 => home [⟨"web", SortedSet.ofList [tagged]⟩]
      | 2 => home []
      | _ => home [⟨"web", ∅⟩]
    [0, 1, 2, 3].map (fun n => ((config.globals states n).clusters.get? "web").map Cluster.http2) =
      [some true, some true, none, some false] := by
  decide +kernel

end BuilderConfig

end ServiceMesh
