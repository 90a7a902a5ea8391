import Mathlib.Data.List.Nodup
import ServiceMesh.Proofs.SortedMap
import ServiceMesh.Proofs.SortedSet
import ServiceMesh.Snapshot.Content

/-! What a group receives follows from the services that it depends on: as long as these are filed in
the same way in each zone, its resources stay the same, although they are made from those before. -/
namespace ServiceMesh

namespace MultiZone

variable {zones : List (String × Locality)} {mesh now previous : MultiZone} {name : String}

theorem mem_serviceNames : name ∈ mesh.serviceNames ↔ mesh.byZone name ≠ [] := by
  rw [serviceNames, SortedSet.mem_ofList, List.mem_flatMap, byZone, Ne,
    List.filterMap_eq_nil_iff, not_forall₂]
  constructor
  · rintro ⟨zone, member, known⟩
    refine ⟨zone, member, fun missing => ?_⟩
    have found := SortedMap.mem_keys.mp known
    rw [show zone.services.byName.get? name = none from Option.map_eq_none_iff.mp missing] at found
    contradiction
  · rintro ⟨zone, member, known⟩
    refine ⟨zone, member, SortedMap.mem_keys.mpr (Option.isSome_iff_ne_none.mpr ?_)⟩
    exact fun missing => known (Option.map_eq_none_iff.mpr missing)

theorem byZone_eq_nil (unknown : name ∉ mesh.serviceNames) : mesh.byZone name = [] :=
  not_not.mp (mt mem_serviceNames.mpr unknown)

theorem instancesOf_eq (mesh : MultiZone) (name : String) :
    mesh.instancesOf name = (mesh.byZone name).flatMap fun entry => entry.2.instances.toList := by
  obtain ⟨zones⟩ := mesh
  simp only [instancesOf, byZone]
  induction zones with
  | nil => rfl
  | cons zone rest ih =>
      rw [List.flatMap_cons, List.filterMap_cons, ih]
      cases zone.services.get? name <;> rfl

/-- A mesh of zones out of a list, each with the locality that the list gives it. -/
def Over (zones : List (String × Locality)) (mesh : MultiZone) : Prop :=
  ∀ zone ∈ mesh.zones, (zone.zone, zone.locality) ∈ zones

/-- The locality that a list gives to a zone. -/
def localityIn (zones : List (String × Locality)) (zone : String) : Locality :=
  ((zones.find? fun entry => entry.1 == zone).map Prod.snd).getD .local

theorem Over.locality (zoned : mesh.Over zones) (distinct : (zones.map Prod.fst).Nodup)
    {zone : ZoneState} (member : zone ∈ mesh.zones) :
    zone.locality = localityIn zones zone.zone := by
  have listed := zoned zone member
  have some : (zones.find? fun entry => entry.1 == zone.zone).isSome = true :=
    List.find?_isSome.mpr ⟨_, listed, beq_self_eq_true zone.zone⟩
  obtain ⟨entry, found⟩ := Option.isSome_iff_exists.mp some
  have named : entry.1 = zone.zone := by simpa using List.find?_some found
  have same := List.inj_on_of_nodup_map distinct (List.mem_of_find?_eq_some found) listed named
  rw [localityIn, found, same]
  rfl

/-- The endpoints of a service follow from what is filed under its name, zone by zone. -/
theorem Over.assignment_eq (zoned : mesh.Over zones) (distinct : (zones.map Prod.fst).Nodup)
    (name : String) : mesh.assignment name = ⟨name, (mesh.byZone name).filterMap fun entry =>
      if entry.2.isEmpty then none
      else some ⟨entry.1, (localityIn zones entry.1).priority,
        entry.2.instances.toList.map Instance.toEndpoint⟩⟩ := by
  rw [assignment, byZone, List.filterMap_filterMap]
  refine congrArg (LoadAssignment.mk name) (List.filterMap_congr fun zone member => ?_)
  rw [ZoneState.endpointsOf?, zoned.locality distinct member]
  cases zone.services.get? name <;> rfl

theorem assignment_congr (distinct : (zones.map Prod.fst).Nodup) (zoned : now.Over zones)
    (before : previous.Over zones) (same : now.byZone name = previous.byZone name) :
    now.assignment name = previous.assignment name := by
  rw [zoned.assignment_eq distinct, before.assignment_eq distinct, same]

/-- A service is filed as before in each zone unless it is among the changed ones. -/
theorem byZone_eq_of_notMem (unchanged : name ∉ now.changedServices previous) :
    now.byZone name = previous.byZone name := by
  rw [changedServices, SortedSet.mem_filter, SortedSet.mem_union, mem_serviceNames,
    mem_serviceNames, decide_eq_true_iff] at unchanged
  by_contra differs
  refine unchanged ⟨?_, differs⟩
  by_contra none
  obtain ⟨first, second⟩ := not_or.mp none
  exact differs ((not_not.mp first).trans (not_not.mp second).symm)

end MultiZone

theorem GlobalSnapshot.ext_get? {a b : GlobalSnapshot}
    (clusters : ∀ name, a.clusters.get? name = b.clusters.get? name)
    (endpoints : ∀ name, a.endpoints.get? name = b.endpoints.get? name) : a = b := by
  cases a
  cases b
  exact congr (congrArg GlobalSnapshot.mk (SortedMap.ext_get? clusters))
    (SortedMap.ext_get? endpoints)

namespace BuilderConfig

variable {config : BuilderConfig} {mesh now : MultiZone} {previous : Option GlobalSnapshot}

theorem mem_retained {name : String} {cluster : Cluster} :
    (name, cluster) ∈ config.retained mesh previous ↔
      config.neverRemoveClusters = true ∧ name ∉ mesh.serviceNames ∧
        previous.bind (·.clusters.get? name) = some cluster := by
  unfold retained
  cases previous with
  | none => simp
  | some before =>
      cases config.neverRemoveClusters with
      | false => simp
      | true =>
          have absent : (!mesh.serviceNames.contains name) = true ↔ name ∉ mesh.serviceNames := by
            rw [← SortedSet.contains_iff]
            cases mesh.serviceNames.contains name <;> decide
          dsimp only
          rw [if_pos rfl, List.mem_filter, ← SortedMap.get?_eq_some_iff, absent, and_comm]
          simp

/-- Services that are known and clusters that are retained have names of their own. -/
theorem nodup_names (config : BuilderConfig) (mesh : MultiZone) (previous : Option GlobalSnapshot) :
    (mesh.serviceNames.toList ++ (config.retained mesh previous).map Prod.fst).Nodup := by
  refine List.Nodup.append (SortedSet.nodup _) ?_ ?_
  · unfold retained
    cases previous with
    | none => exact .nil
    | some before =>
        dsimp only
        split
        · exact (List.Sublist.map Prod.fst List.filter_sublist).nodup before.clusters.nodup_keys
        · exact .nil
  · intro name known gone
    obtain ⟨⟨_, cluster⟩, member, rfl⟩ := List.mem_map.mp gone
    exact (mem_retained.mp member).2.1 known

/-- The cluster under a name: of a known service, or retained. -/
theorem get?_clusters (config : BuilderConfig) (mesh : MultiZone)
    (previous : Option GlobalSnapshot) (name : String) :
    (config.global mesh previous).clusters.get? name =
      if mesh.serviceNames.contains name then some (config.cluster mesh previous name)
      else if config.neverRemoveClusters then previous.bind (·.clusters.get? name) else none := by
  have distinct : ((mesh.serviceNames.toList.map (fun name =>
      (name, config.cluster mesh previous name)) ++ config.retained mesh previous).map
        Prod.fst).Nodup := by
    simpa [Function.comp_def] using nodup_names config mesh previous
  ext cluster
  rw [global, SortedMap.get?_ofList distinct, List.mem_append, List.mem_map, mem_retained]
  split
  case isTrue known =>
    rw [SortedSet.contains_iff] at known
    simp [known, SortedSet.mem_toList]
  case isFalse unknown =>
    rw [SortedSet.contains_iff] at unknown
    cases config.neverRemoveClusters <;> simp [unknown, SortedSet.mem_toList]

/-- The endpoints under a name; a retained cluster has none. -/
theorem get?_endpoints (config : BuilderConfig) (mesh : MultiZone)
    (previous : Option GlobalSnapshot) (name : String) :
    (config.global mesh previous).endpoints.get? name =
      if mesh.serviceNames.contains name then some (mesh.assignment name)
      else if config.neverRemoveClusters then
        (previous.bind (·.clusters.get? name)).map fun _ => ⟨name, []⟩
      else none := by
  have distinct : ((mesh.serviceNames.toList.map (fun name => (name, mesh.assignment name)) ++
      (config.retained mesh previous).map fun entry =>
        (entry.1, (⟨entry.1, []⟩ : LoadAssignment))).map Prod.fst).Nodup := by
    simpa [Function.comp_def] using nodup_names config mesh previous
  ext assignment
  rw [global, SortedMap.get?_ofList distinct, List.mem_append, List.mem_map, List.mem_map]
  split
  case isTrue known =>
    rw [SortedSet.contains_iff] at known
    constructor
    · rintro (⟨_, _, same⟩ | ⟨⟨_, cluster⟩, member, same⟩)
      · obtain ⟨rfl, rfl⟩ := Prod.mk.inj same
        rfl
      · obtain ⟨rfl, -⟩ := Prod.mk.inj same
        exact absurd known (mem_retained.mp member).2.1
    · intro same
      exact .inl ⟨name, known, congrArg _ (Option.some.inj same)⟩
  case isFalse unknown =>
    rw [SortedSet.contains_iff] at unknown
    constructor
    · rintro (⟨other, known, same⟩ | ⟨⟨_, cluster⟩, member, same⟩)
      · obtain ⟨rfl, -⟩ := Prod.mk.inj same
        exact absurd known unknown
      · obtain ⟨rfl, rfl⟩ := Prod.mk.inj same
        obtain ⟨kept, -, before⟩ := mem_retained.mp member
        rw [if_pos kept, before]
        rfl
    · intro found
      split at found
      case isFalse => contradiction
      case isTrue kept =>
        obtain ⟨cluster, before, rfl⟩ := Option.map_eq_some_iff.mp found
        exact .inr ⟨(name, cluster), mem_retained.mpr ⟨kept, unknown, before⟩, rfl⟩

theorem usesHttp2_again (config : BuilderConfig) (instances : List Instance) (previously : Bool) :
    config.usesHttp2 instances (config.usesHttp2 instances previously) =
      config.usesHttp2 instances previously := by
  unfold usesHttp2
  cases config.http2Tag with
  | none => rfl
  | some tag => cases instances <;> rfl

section Again

variable {earlier : MultiZone} {name : String}

theorem contains_congr (same : now.byZone name = earlier.byZone name) :
    now.serviceNames.contains name = earlier.serviceNames.contains name := by
  rw [Bool.eq_iff_iff, SortedSet.contains_iff, SortedSet.contains_iff, MultiZone.mem_serviceNames,
    MultiZone.mem_serviceNames, same]

/-- A service that is filed as before keeps its cluster, or its absence. -/
theorem get?_clusters_again (same : now.byZone name = earlier.byZone name) :
    (config.global now (some (config.global earlier previous))).clusters.get? name =
      (config.global earlier previous).clusters.get? name := by
  have before := get?_clusters config earlier previous name
  rw [get?_clusters, contains_congr same, Option.bind_some, before]
  split
  case isTrue known =>
    rw [if_pos known] at before
    rw [cluster, Option.bind_some, before, MultiZone.instancesOf_eq, same,
      ← MultiZone.instancesOf_eq]
    exact congrArg (fun http2 => some (Cluster.mk name _ http2)) (usesHttp2_again config _ _)
  case isFalse => cases config.neverRemoveClusters <;> rfl

theorem get?_endpoints_again (same : now.byZone name = earlier.byZone name)
    (assigned : now.assignment name = earlier.assignment name) :
    (config.global now (some (config.global earlier previous))).endpoints.get? name =
      (config.global earlier previous).endpoints.get? name := by
  have before := get?_clusters config earlier previous name
  rw [get?_endpoints, get?_endpoints, contains_congr same, assigned, Option.bind_some, before]
  split
  case isTrue => rfl
  case isFalse => cases config.neverRemoveClusters <;> rfl

end Again

/-- Making the resources of the same mesh again makes no difference. -/
theorem global_again (config : BuilderConfig) (mesh : MultiZone)
    (previous : Option GlobalSnapshot) :
    config.global mesh (some (config.global mesh previous)) = config.global mesh previous :=
  GlobalSnapshot.ext_get? (fun _ => get?_clusters_again rfl)
    (fun _ => get?_endpoints_again rfl rfl)

/-- A group receives the same out of two collections that agree on what it depends on. -/
theorem content_congr {group : ConsumerGroup} {a b : GlobalSnapshot}
    (clusters : ∀ name, group.dependsOn name = true → a.clusters.get? name = b.clusters.get? name)
    (endpoints : ∀ name, group.dependsOn name = true →
      a.endpoints.get? name = b.endpoints.get? name) (faults : List Fault) :
    config.content group a faults = config.content group b faults := by
  cases depends : group.dependencies with
  | all =>
      have all (name : String) : group.dependsOn name = true := by
        rw [ConsumerGroup.dependsOn, depends]
      rw [GlobalSnapshot.ext_get? (fun name => clusters name (all name))
        (fun name => endpoints name (all name))]
  | services names =>
      have listed (name : String) (member : name ∈ names.toList) : group.dependsOn name = true := by
        rw [ConsumerGroup.dependsOn, depends]
        exact SortedSet.contains_iff.mpr member
      have services : config.dependencies group a = config.dependencies group b := by
        rw [dependencies, dependencies, depends]
        refine List.filter_congr fun name member => ?_
        rw [SortedMap.contains, SortedMap.contains, clusters name (listed name member)]
      have within (name : String) (member : name ∈ config.dependencies group b) :
          group.dependsOn name = true := by
        rw [dependencies, depends] at member
        exact listed name (List.mem_filter.mp member).1
      unfold content
      dsimp only
      rw [services,
        List.filterMap_congr fun name member => clusters name (within name member),
        List.filterMap_congr fun name member => endpoints name (within name member)]

/-- The resources of a group stay the same as long as nothing changes that the group depends on. -/
theorem content_stable {zones : List (String × Locality)} (distinct : (zones.map Prod.fst).Nodup)
    {earlier : MultiZone} (zoned : now.Over zones) (before : earlier.Over zones)
    {group : ConsumerGroup}
    (same : ∀ name, group.dependsOn name = true → now.byZone name = earlier.byZone name)
    (faults : List Fault) :
    config.content group (config.global now (some (config.global earlier previous))) faults =
      config.content group (config.global earlier previous) faults := by
  refine content_congr (fun name depends => ?_) (fun name depends => ?_) faults
  · exact get?_clusters_again (same name depends)
  · exact get?_endpoints_again (same name depends)
      (MultiZone.assignment_congr distinct zoned before (same name depends))

end BuilderConfig

end ServiceMesh
