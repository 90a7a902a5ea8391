import Mathlib.Data.String.Basic
import ServiceMesh.Proofs.Snapshot.Comparison
import ServiceMesh.Proofs.Snapshot.GlobalHistory
import ServiceMesh.Proofs.Snapshot.Origin
import ServiceMesh.Proofs.Sorting

/-! The three collections of a group line up. Clusters, endpoints and virtual hosts are those of the same
services, each once and in ascending order, so that every route leads to a cluster of the group and
every cluster has its endpoints. -/
namespace ServiceMesh

/-- Resources of all services that were made at some time: from a state of the mesh, and from resources
that were made before, if there are any. -/
inductive GlobalSnapshot.Made : Option GlobalSnapshot → Prop
  | none : Made none
  | global (config : BuilderConfig) (mesh : MultiZone) {previous : Option GlobalSnapshot} :
      Made previous → Made (some (config.global mesh previous))

/-- The zones whose endpoints a view shows. -/
def View.shows : View → ZoneState → Bool
  | .global, _ => true
  | .local, zone => zone.locality = .local

/-- A group asks for a service if it names the service, or if it depends on all services and none of the
excluded prefixes begins the name. -/
def BuilderConfig.Selects (config : BuilderConfig) (group : ConsumerGroup) (name : String) : Prop :=
  match group.dependencies with
  | .all => ∀ front ∈ config.wildcardExcludedPrefixes, ¬ front.toList <+: name.toList
  | .services names => name ∈ names

/-- A service is known if the mesh has it, or if it had a cluster before and clusters are never
removed. -/
def BuilderConfig.Knows (config : BuilderConfig) (mesh : MultiZone) (previous : Option GlobalSnapshot)
    (name : String) : Prop :=
  name ∈ mesh.serviceNames ∨
    config.neverRemoveClusters = true ∧ ∃ earlier ∈ previous, name ∈ earlier.clusters.keys

/-- A virtual host that answers to its name alone, sends all requests to the cluster of this name, and
has one rule for each fault that targets it, by id. -/
structure VirtualHost.Sound (host : VirtualHost) (faults : List Fault) : Prop where
  domains : host.domains = [host.name]
  routes : host.routes = [⟨"/", host.name⟩]
  ordered : host.faults.Pairwise fun a b => a.faultId < b.faultId
  rules : host.faults.Perm
    ((faults.filter fun fault => fault.target.pattern = "*" ∨ fault.target.pattern = host.name).map
      fun fault => ⟨fault.id, host.name, [fault.source.pattern], fault.delay.toMillis, 100⟩)

/-- All collections are those of some services, in ascending order. -/
structure SnapshotContent.Aligned (content : SnapshotContent) (names : List String)
    (faults : List Fault) : Prop where
  ordered : names.Pairwise (· < ·)
  clusters : content.clusters.map Cluster.name = names
  endpoints : content.endpoints.map LoadAssignment.cluster = names
  routes : ∃ hosts, content.routes = [⟨egressRoutes, hosts⟩] ∧
    hosts.map VirtualHost.name = names ∧ ∀ host ∈ hosts, host.Sound faults

/-- No route leads out of resources that line up. -/
theorem SnapshotContent.Aligned.route_inside {content : SnapshotContent} {names : List String}
    {faults : List Fault} (aligned : content.Aligned names faults) :
    ∀ routes ∈ content.routes, ∀ host ∈ routes.virtualHosts, ∀ route ∈ host.routes,
      route.cluster ∈ content.clusters.map Cluster.name := by
  obtain ⟨hosts, same, named, sound⟩ := aligned.routes
  intro routes member host listed route given
  rw [same, List.mem_singleton] at member
  subst member
  rw [(sound host listed).routes, List.mem_singleton] at given
  subst given
  rw [aligned.clusters, ← named]
  exact List.mem_map_of_mem listed

/-! ### Rules -/

theorem faultRules_perm (service : String) (faults : List Fault) :
    (faultRules service faults).Perm
      ((faults.filter fun fault => fault.target.pattern = "*" ∨ fault.target.pattern = service).map
        fun fault => ⟨fault.id, service, [fault.source.pattern], fault.delay.toMillis, 100⟩) := by
  have selects : (fun fault : Fault => fault.target.selects service) = fun fault =>
      decide (fault.target.pattern = "*" ∨ fault.target.pattern = service) := by
    funext fault
    simp [Selector.selects, beq_eq_decide]
  rw [← selects]
  exact List.mergeSort_perm _ _

/-- Faults with ids of their own make rules with ids of their own. -/
theorem nodup_ruleIds (service : String) {faults : List Fault}
    (distinct : (faults.map Fault.id).Nodup) :
    (((faults.filter (·.target.selects service)).map (·.rule service)).map
      FaultRule.faultId).Nodup := by
  rw [List.map_map]
  exact distinct.sublist (List.filter_sublist.map _)

theorem faultRules_ordered (service : String) {faults : List Fault}
    (distinct : (faults.map Fault.id).Nodup) :
    (faultRules service faults).Pairwise fun a b => a.faultId < b.faultId := by
  have sorted : (faultRules service faults).Pairwise fun a b =>
      (compareOn FaultRule.faultId a b).isLE = true := Sorting.pairwise_mergeSort _
  have apart : (faultRules service faults).Pairwise fun a b => a.faultId ≠ b.faultId := by
    rw [← List.pairwise_map]
    exact ((List.mergeSort_perm _ _).map FaultRule.faultId).nodup_iff.mpr
      (nodup_ruleIds service distinct)
  exact (sorted.and apart).imp fun ⟨upTo, other⟩ =>
    lt_of_le_of_ne (compare_le_iff_le.mp (Ordering.isLE_iff_ne_gt.mp upTo)) other

/-- The order in which faults are listed has no part in the rules. -/
theorem faultRules_eq_of_perm (service : String) {faults others : List Fault}
    (perm : faults.Perm others) (distinct : (faults.map Fault.id).Nodup) :
    faultRules service faults = faultRules service others := by
  have told : ∀ a ∈ (faults.filter (·.target.selects service)).map (·.rule service),
      ∀ b ∈ (faults.filter (·.target.selects service)).map (·.rule service),
        compareOn FaultRule.faultId a b = .eq → a = b := by
    intro a one b two equal
    exact List.inj_on_of_nodup_map (nodup_ruleIds service distinct) one two
      (Std.LawfulEqOrd.eq_of_compare equal)
  have sorted := Sorting.mergeSort_eq_of_perm
    ((perm.filter (·.target.selects service)).map (·.rule service)) told
  exact sorted

theorem virtualHost_sound {faults : List Fault} (distinct : (faults.map Fault.id).Nodup)
    (service : String) : (virtualHost faults service).Sound faults :=
  ⟨rfl, rfl, faultRules_ordered service distinct, faultRules_perm service faults⟩

/-! ### Endpoints -/

theorem ZoneState.priority_of_endpointsOf? {zone : ZoneState} {name : String}
    {group : LocalityEndpoints} (found : zone.endpointsOf? name = some group) :
    group.priority = zone.locality.priority := by
  have offered : Offered (fun seen => seen = zone) name group := ⟨zone, rfl, found⟩
  obtain ⟨_, _, rfl, -, rfl⟩ := offered.instances
  rfl

/-- What a view leaves of the endpoints of a service: those of the zones that it shows, in the order of
the mesh. -/
theorem MultiZone.restrict_assignment (mesh : MultiZone) (view : View) (name : String) :
    view.restrict (mesh.assignment name) =
      ⟨name, (mesh.zones.filter view.shows).filterMap (·.endpointsOf? name)⟩ := by
  cases view with
  | global =>
      have all : mesh.zones.filter View.global.shows = mesh.zones :=
        List.filter_eq_self.mpr fun _ _ => rfl
      rw [all]
      rfl
  | «local» =>
      refine congrArg (LoadAssignment.mk name) ?_
      rw [assignment, List.filter_filterMap, List.filterMap_filter]
      refine List.filterMap_congr fun zone _ => ?_
      cases found : zone.endpointsOf? name with
      | none => simp
      | some group =>
          have near : group.priority = Locality.local.priority ↔ zone.locality = .local := by
            rw [ZoneState.priority_of_endpointsOf? found]
            exact Locality.priority_injective.eq_iff
          simp [View.shows, Option.filter, near]

namespace BuilderConfig

variable {config : BuilderConfig} {mesh : MultiZone} {previous : Option GlobalSnapshot}
  {group : ConsumerGroup} {global : GlobalSnapshot} {faults : List Fault} {name : String}

/-- A service that has a cluster has the endpoints that the mesh has for it, which are none if it is
gone. -/
theorem get?_endpoints_of_cluster {cluster : Cluster}
    (found : (config.global mesh previous).clusters.get? name = some cluster) :
    (config.global mesh previous).endpoints.get? name = some (mesh.assignment name) := by
  rw [get?_clusters] at found
  rw [get?_endpoints]
  split
  case isTrue => rfl
  case isFalse unknown =>
    rw [if_neg unknown] at found
    have gone : name ∉ mesh.serviceNames := mt SortedSet.contains_iff.mpr unknown
    split
    case isTrue kept =>
      rw [if_pos kept] at found
      rw [found, MultiZone.assignment_of_notMem gone]
      rfl
    case isFalse removed =>
      rw [if_neg removed] at found
      contradiction

/-- The services that have a cluster are those that the mesh knows, and with clusters that are never
removed those that had one before. -/
theorem mem_keys_global : name ∈ (config.global mesh previous).clusters.keys ↔
    config.Knows mesh previous name := by
  have before : (∃ earlier ∈ previous, name ∈ earlier.clusters.keys) ↔
      (previous.bind (·.clusters.get? name)).isSome = true := by
    cases previous with
    | none => simp
    | some earlier => simp [SortedMap.mem_keys]
  rw [SortedMap.mem_keys, get?_clusters, Knows, before, ← SortedSet.contains_iff]
  cases mesh.serviceNames.contains name <;> cases config.neverRemoveClusters <;> simp

/-! ### Services -/

theorem mem_dependencies : name ∈ config.dependencies group global ↔
    name ∈ global.clusters.keys ∧ config.Selects group name := by
  unfold dependencies Selects
  cases group.dependencies with
  | all =>
      simp [List.mem_filter]
  | services names =>
      simp [List.mem_filter, SortedMap.mem_keys, SortedMap.contains, and_comm]

theorem dependencies_ordered (config : BuilderConfig) (group : ConsumerGroup)
    (global : GlobalSnapshot) : (config.dependencies group global).Pairwise (· < ·) := by
  unfold dependencies
  cases group.dependencies with
  | all =>
      have keys : global.clusters.keys.Pairwise (· < ·) := by
        rw [SortedMap.keys, List.pairwise_map]
        exact global.clusters.sorted.imp compare_lt_iff_lt.mp
      exact keys.filter _
  | services names => exact (names.sorted.imp compare_lt_iff_lt.mp).filter _

/-! ### Collections -/

/-- Resources that were made have their names as keys. -/
theorem from_of_made (made : GlobalSnapshot.Made previous) :
    ∀ earlier ∈ previous, earlier.From fun _ => True := by
  induction made with
  | none =>
      intro earlier given
      contradiction
  | global config mesh _ ih =>
      rintro earlier ⟨⟩
      exact global_from (fun _ _ => trivial) ih

/-- Each service that a group depends on has its cluster there. -/
theorem map_name_clusters (made : GlobalSnapshot.Made previous) :
    let global := config.global mesh previous
    (config.content group global faults).clusters.map Cluster.name =
      config.dependencies group global := by
  intro global
  have origin : global.From fun _ => True := global_from (fun _ _ => trivial) (from_of_made made)
  rw [content, List.map_filterMap]
  refine (List.filterMap_congr fun name listed => ?_).trans List.filterMap_some
  obtain ⟨cluster, found⟩ := get?_of_mem_dependencies listed
  rw [found, Option.map_some, (origin.clusters name cluster found).1]

/-- Each service that a group depends on has its endpoints there, as the view of the group shows them. -/
theorem content_endpoints :
    let global := config.global mesh previous
    (config.content group global faults).endpoints = (config.dependencies group global).map fun name =>
      ⟨name, (mesh.zones.filter group.view.shows).filterMap (·.endpointsOf? name)⟩ := by
  intro global
  have assigned : (config.dependencies group global).filterMap global.endpoints.get? =
      (config.dependencies group global).map mesh.assignment := by
    rw [← List.filterMap_eq_map]
    refine List.filterMap_congr fun name listed => ?_
    obtain ⟨cluster, found⟩ := get?_of_mem_dependencies listed
    exact get?_endpoints_of_cluster found
  rw [content]
  dsimp only
  rw [assigned, List.map_map]
  exact List.map_congr_left fun name _ => mesh.restrict_assignment group.view name

theorem content_aligned (made : GlobalSnapshot.Made previous)
    (distinct : (faults.map Fault.id).Nodup) :
    let global := config.global mesh previous
    (config.content group global faults).Aligned (config.dependencies group global) faults := by
  intro global
  refine ⟨dependencies_ordered config group global, map_name_clusters made, ?_, ?_⟩
  · rw [content_endpoints, List.map_map]
    exact List.map_id _
  · refine ⟨(config.dependencies group global).map (virtualHost faults), rfl, ?_, ?_⟩
    · rw [List.map_map]
      exact List.map_id _
    · intro host listed
      obtain ⟨service, -, rfl⟩ := List.mem_map.mp listed
      exact virtualHost_sound distinct service

/-- Groups that depend on the same services receive the same, but for what their views leave of the
endpoints. -/
theorem content_of_dependencies {other : ConsumerGroup}
    (same : other.dependencies = group.dependencies) :
    config.dependencies other global = config.dependencies group global ∧
    (config.content other global faults).clusters = (config.content group global faults).clusters ∧
    (config.content other global faults).routes = (config.content group global faults).routes := by
  have services : config.dependencies other global = config.dependencies group global := by
    rw [dependencies, dependencies, same]
  refine ⟨services, ?_, ?_⟩
  · simp only [content, services]
  · simp only [content, services]

end BuilderConfig

/-- What a group receives lines up: its clusters, endpoints and virtual hosts are those of the services
that are known and that it asks for, in ascending order and each with the rules of the faults that
target it, and no route leads elsewhere. The endpoints of a service are those that it has in the zones
that the view of the group shows, in the order of the mesh, and in nothing else does a group differ
from one with another view of the same services. -/
theorem SnapshotBuilder.group_aligned (builder : SnapshotBuilder) (outside : Holdings)
    (group : ConsumerGroup) (mesh : MultiZone) {previous : Option GlobalSnapshot}
    (made : GlobalSnapshot.Made previous) {faults : List Fault}
    (distinct : (faults.map Fault.id).Nodup) (generation : Nat) :
    let global := builder.config.global mesh previous
    let received (group : ConsumerGroup) : SnapshotContent :=
      (builder.build outside group global faults generation).1.content
    ∃ names : List String,
      (∀ name, name ∈ names ↔
        builder.config.Knows mesh previous name ∧ builder.config.Selects group name) ∧
      (received group).Aligned names faults ∧
      (∀ routes ∈ (received group).routes, ∀ host ∈ routes.virtualHosts, ∀ route ∈ host.routes,
        route.cluster ∈ (received group).clusters.map Cluster.name) ∧
      ∀ other : ConsumerGroup, other.dependencies = group.dependencies →
        (received other).clusters = (received group).clusters ∧
        (received other).routes = (received group).routes ∧
        (received other).endpoints = names.map fun name =>
          ⟨name, (mesh.zones.filter other.view.shows).filterMap (·.endpointsOf? name)⟩ := by
  intro global received
  have content (group : ConsumerGroup) :
      received group = builder.config.content group global faults :=
    (builder.build_builds outside group global faults generation).made
  have aligned : (received group).Aligned (builder.config.dependencies group global) faults := by
    rw [content]
    exact BuilderConfig.content_aligned made distinct
  refine ⟨builder.config.dependencies group global, ?_, aligned, aligned.route_inside, ?_⟩
  · intro name
    rw [BuilderConfig.mem_dependencies, BuilderConfig.mem_keys_global]
  · intro other same
    obtain ⟨services, clusters, routes⟩ := BuilderConfig.content_of_dependencies same
    rw [content, content, ← services]
    exact ⟨clusters, routes, BuilderConfig.content_endpoints⟩

/-- A service that is gone keeps its place in all three collections if clusters are never removed. -/
theorem SnapshotBuilder.group_aligned_retained :
    let config : BuilderConfig := ⟨.zero, none, ["x-"], true⟩
    let mesh (names : List String) : MultiZone := ⟨[⟨"home", .local,
      Services.ofList (names.map fun name => ⟨name, ∅⟩)⟩]⟩
    let fault (id target : String) : Fault := ⟨id, ⟨"*"⟩, ⟨target⟩, .zero, .zero⟩
    let faults := [fault "f-2" "*", fault "f-1" "old"]
    let before := config.global (mesh ["old", "x-ray"]) none
    let snapshot := ((start config).build ∅ ⟨"web", .local, .all⟩
      (config.global (mesh ["api"]) (some before)) faults 1).1
    (faults.map Fault.id).Nodup ∧
      snapshot.content.clusters.map Cluster.name =
        snapshot.content.endpoints.map LoadAssignment.cluster ∧
      "old" ∈ snapshot.content.clusters.map Cluster.name ∧
      "x-ray" ∉ snapshot.content.clusters.map Cluster.name := by
  intro config mesh fault faults before snapshot
  have distinct : (faults.map Fault.id).Nodup := by decide
  obtain ⟨names, known, aligned, -⟩ := group_aligned (start config) ∅ ⟨"web", .local, .all⟩
    (mesh ["api"]) (.global config (mesh ["old", "x-ray"]) .none) distinct 1
  have clusters : snapshot.content.clusters.map Cluster.name = names := aligned.clusters
  refine ⟨distinct, clusters.trans aligned.endpoints.symm, ?_, ?_⟩
  · rw [clusters, known]
    exact ⟨.inr ⟨rfl, before, rfl, by decide +kernel⟩, List.forall_mem_singleton.mpr (by decide)⟩
  · rw [clusters, known]
    rintro ⟨-, selected⟩
    exact selected "x-" List.mem_cons_self (by decide)

end ServiceMesh
