import Mathlib.Data.List.Basic
import ServiceMesh.Proofs.Snapshot.Stability

/-! What the comparison of two states of the mesh tells about the resources made from them. It looks
at zones and instances and not at localities, and so do the resources, apart from the priorities of
endpoints. -/
namespace ServiceMesh

/-- A zone in which a service has instances. -/
structure Home where
  zone : String
  locality : Locality
  service : Service

namespace Home

/-- What the comparison of two states sees of a home. -/
def filed (home : Home) : String × Service := (home.zone, home.service)

def endpoints (home : Home) : LocalityEndpoints :=
  ⟨home.zone, home.locality.priority, home.service.instances.toList.map Instance.toEndpoint⟩

/-- Homes are told by what the comparison sees of them and by their localities. -/
theorem eq_of_map {homes others : List Home} (same : homes.map filed = others.map filed)
    (localities : homes.map locality = others.map locality) : homes = others := by
  have told : Function.Injective fun home : Home => (home.filed, home.locality) := by
    rintro ⟨zone, locality, service⟩ ⟨_, _, _⟩ equal
    obtain ⟨filed, rfl⟩ := Prod.mk.inj equal
    obtain ⟨rfl, rfl⟩ := Prod.mk.inj filed
    rfl
  have pairs (list : List Home) : list.map (fun home => (home.filed, home.locality)) =
      (list.map filed).zip (list.map locality) := List.zip_map'.symm
  refine List.map_injective_iff.mpr told ?_
  rw [pairs, pairs, same, localities]

/-- Homes in zones that keep their localities have the localities that they had. -/
theorem map_locality_eq {homes others : List Home} (same : homes.map filed = others.map filed)
    (kept : ∀ a ∈ homes, ∀ b ∈ others, a.zone = b.zone → a.locality = b.locality) :
    homes.map locality = others.map locality := by
  induction homes generalizing others with
  | nil =>
      rw [List.map_nil, List.nil_eq, List.map_eq_nil_iff] at same
      rw [same]
  | cons home homes ih =>
      cases others with
      | nil => contradiction
      | cons other others =>
          obtain ⟨first, rest⟩ := List.cons.inj same
          have here := kept home List.mem_cons_self other List.mem_cons_self (Prod.mk.inj first).1
          have later := ih rest fun a member b also =>
            kept a (List.mem_cons_of_mem _ member) b (List.mem_cons_of_mem _ also)
          rw [List.map_cons, List.map_cons, here, later]

end Home

theorem Locality.priority_injective : Function.Injective Locality.priority := by
  intro a b same
  cases a <;> cases b <;> first | rfl | exact absurd same (by decide)

/-- Endpoints without their priority. -/
def LocalityEndpoints.unranked (group : LocalityEndpoints) : LocalityEndpoints :=
  { group with priority := 0 }

/-- The zones and endpoints of a service without priorities. -/
def LoadAssignment.unranked (assignment : LoadAssignment) : LoadAssignment :=
  { assignment with localities := assignment.localities.map LocalityEndpoints.unranked }

namespace MultiZone

variable {mesh now previous : MultiZone} {name : String}

/-- The zones in which a service has instances, in the order of the mesh. -/
def homesOf (mesh : MultiZone) (name : String) : List Home :=
  mesh.zones.filterMap fun zone =>
    ((zone.services.get? name).filter fun found => !found.isEmpty).map fun found =>
      ⟨zone.zone, zone.locality, found⟩

theorem localities_assignment (mesh : MultiZone) (name : String) :
    (mesh.assignment name).localities = (mesh.homesOf name).map Home.endpoints := by
  rw [assignment, homesOf, List.map_filterMap]
  refine List.filterMap_congr fun zone _ => ?_
  rw [ZoneState.endpointsOf?]
  cases zone.services.get? name with
  | none => rfl
  | some found =>
      rw [Option.filter_some]
      cases empty : found.isEmpty <;> simp [empty, Home.endpoints]

theorem map_filed_homesOf (mesh : MultiZone) (name : String) :
    (mesh.homesOf name).map Home.filed =
      (mesh.byZone name).filter fun entry => !entry.2.isEmpty := by
  rw [homesOf, byZone, List.map_filterMap, List.filter_filterMap]
  refine List.filterMap_congr fun zone _ => ?_
  cases zone.services.get? name with
  | none => rfl
  | some found =>
      rw [Option.filter_some, Option.map_some, Option.filter_some]
      cases found.isEmpty <;> simp [Home.filed]

theorem homesOf_eq_nil (unknown : name ∉ mesh.serviceNames) : mesh.homesOf name = [] := by
  rw [← List.map_eq_nil_iff (f := Home.filed), map_filed_homesOf, byZone_eq_nil unknown,
    List.filter_nil]

theorem exists_zone_of_mem_homesOf {home : Home} (member : home ∈ mesh.homesOf name) :
    ∃ zone ∈ mesh.zones, zone.zone = home.zone ∧ zone.locality = home.locality := by
  obtain ⟨zone, known, made⟩ := List.mem_filterMap.mp member
  obtain ⟨found, -, rfl⟩ := Option.map_eq_some_iff.mp made
  exact ⟨zone, known, rfl, rfl⟩

/-- Without priorities the endpoints of a service follow from how it is filed in each zone. -/
theorem unranked_assignment_congr (same : now.byZone name = previous.byZone name) :
    (now.assignment name).unranked = (previous.assignment name).unranked := by
  have shown (mesh : MultiZone) : (mesh.assignment name).unranked = ⟨name,
      ((mesh.homesOf name).map Home.filed).map fun entry =>
        ⟨entry.1, 0, entry.2.instances.toList.map Instance.toEndpoint⟩⟩ := by
    rw [LoadAssignment.unranked, localities_assignment, List.map_map, List.map_map]
    rfl
  rw [shown, shown, map_filed_homesOf, map_filed_homesOf, same]

/-- Priorities are all by which the endpoints of a service that is filed as before can differ. -/
theorem assignment_eq_iff (same : now.byZone name = previous.byZone name) :
    now.assignment name = previous.assignment name ↔
      (now.homesOf name).map Home.locality = (previous.homesOf name).map Home.locality := by
  constructor
  · intro equal
    have priorities := congrArg (fun assignment : LoadAssignment =>
      assignment.localities.map LocalityEndpoints.priority) equal
    simp only [localities_assignment, List.map_map] at priorities
    refine List.map_injective_iff.mpr Locality.priority_injective ?_
    rw [List.map_map, List.map_map]
    exact priorities
  · intro localities
    have homes : now.homesOf name = previous.homesOf name := Home.eq_of_map
      (by rw [map_filed_homesOf, map_filed_homesOf, same]) localities
    have whole (mesh : MultiZone) :
        mesh.assignment name = ⟨name, (mesh.homesOf name).map Home.endpoints⟩ :=
      congrArg (LoadAssignment.mk name) (localities_assignment mesh name)
    rw [whole, whole, homes]

end MultiZone

namespace BuilderConfig

variable {config : BuilderConfig} {now previous : MultiZone} {earlier : Option GlobalSnapshot}
  {name : String}

theorem unranked_endpoints_again (same : now.byZone name = previous.byZone name) :
    ((config.global now (some (config.global previous earlier))).endpoints.get? name).map
        LoadAssignment.unranked =
      ((config.global previous earlier).endpoints.get? name).map LoadAssignment.unranked := by
  rw [get?_endpoints, get?_endpoints, Option.bind_some, get?_clusters, contains_congr same]
  split
  case isTrue => rw [Option.map_some, Option.map_some, MultiZone.unranked_assignment_congr same]
  case isFalse => cases config.neverRemoveClusters <;> rfl

/-- The endpoints of a service that is filed as before are what they were exactly if its zones are as
near as they were. -/
theorem endpoints_again_iff (same : now.byZone name = previous.byZone name) :
    (config.global now (some (config.global previous earlier))).endpoints.get? name =
        (config.global previous earlier).endpoints.get? name ↔
      (now.homesOf name).map Home.locality = (previous.homesOf name).map Home.locality := by
  by_cases known : name ∈ previous.serviceNames
  · have contains := SortedSet.contains_iff.mpr known
    rw [get?_endpoints, get?_endpoints, contains_congr same, contains, if_pos rfl, if_pos rfl,
      Option.some_inj, MultiZone.assignment_eq_iff same]
  · have gone : name ∉ now.serviceNames := by
      rwa [MultiZone.mem_serviceNames, same, ← MultiZone.mem_serviceNames]
    have nowhere : now.assignment name = previous.assignment name :=
      (MultiZone.assignment_eq_iff same).mpr
        (by rw [MultiZone.homesOf_eq_nil gone, MultiZone.homesOf_eq_nil known])
    rw [MultiZone.homesOf_eq_nil gone, MultiZone.homesOf_eq_nil known]
    exact iff_of_true (get?_endpoints_again same nowhere) rfl

/-- A service that the comparison of two states passes over has the same cluster in the resources made
from both, or none in either, and endpoints in the same zones that differ in nothing but priorities.
They do not even differ in these exactly if the zones with instances of the service are as near as
they were, as they are if no zone changes its locality. -/
theorem unchanged_but_for_priorities (config : BuilderConfig) (previous now : MultiZone)
    (earlier : Option GlobalSnapshot) {name : String}
    (unchanged : name ∉ now.changedServices previous) :
    let before := config.global previous earlier
    let after := config.global now (some before)
    after.clusters.get? name = before.clusters.get? name ∧
    (after.endpoints.get? name).map LoadAssignment.unranked =
      (before.endpoints.get? name).map LoadAssignment.unranked ∧
    (after.endpoints.get? name = before.endpoints.get? name ↔
      (now.homesOf name).map Home.locality = (previous.homesOf name).map Home.locality) ∧
    ((∀ zone ∈ now.zones, ∀ other ∈ previous.zones, zone.zone = other.zone →
        zone.locality = other.locality) →
      after.endpoints.get? name = before.endpoints.get? name) := by
  intro before after
  have same := MultiZone.byZone_eq_of_notMem unchanged
  have ranked : after.endpoints.get? name = before.endpoints.get? name ↔ _ := endpoints_again_iff same
  refine ⟨get?_clusters_again same, unranked_endpoints_again same, ranked, fun kept => ?_⟩
  refine ranked.mpr (Home.map_locality_eq ?_ fun a member b also named => ?_)
  · rw [MultiZone.map_filed_homesOf, MultiZone.map_filed_homesOf, same]
  · obtain ⟨zone, known, zoned, locality⟩ := MultiZone.exists_zone_of_mem_homesOf member
    obtain ⟨other, before, otherZoned, otherLocality⟩ := MultiZone.exists_zone_of_mem_homesOf also
    rw [← locality, ← otherLocality]
    exact kept zone known other before (by rw [zoned, otherZoned, named])

/-- A service that has lost its instances keeps to HTTP/2 while its neighbour changes. -/
theorem unchanged_but_for_priorities_emptied :
    let config : BuilderConfig := ⟨.zero, some "h2", [], false⟩
    let api (port : UInt32) : Service :=
      ⟨"api", SortedSet.ofList [⟨"a-1", ∅, "10.0.0.1", port, true, true, false, 1⟩]⟩
    let web : Service := ⟨"web", ∅⟩
    let mesh (port : UInt32) : MultiZone := ⟨[⟨"home", .local, Services.ofList [api port, web]⟩,
      ⟨"away", .remote, Services.ofList [web]⟩]⟩
    let earlier : GlobalSnapshot := ⟨SortedMap.ofList [("web", ⟨"web", 0, true⟩)], ∅⟩
    let before := config.global (mesh 80) (some earlier)
    "web" ∉ (mesh 81).changedServices (mesh 80) ∧
      (config.global (mesh 81) (some before)).clusters.get? "web" = some ⟨"web", 0, true⟩ := by
  intro config api web mesh earlier before
  have passed : "web" ∉ (mesh 81).changedServices (mesh 80) :=
    mt SortedSet.contains_iff.mpr (by decide +kernel)
  obtain ⟨cluster, -⟩ :=
    unchanged_but_for_priorities config (mesh 80) (mesh 81) (some earlier) passed
  exact ⟨passed, cluster.trans (by decide +kernel)⟩

/-- A zone that was near and is far now changes the priority of its endpoints, and the comparison
passes over that. -/
theorem locality_change_missed :
    let config : BuilderConfig := ⟨.zero, none, [], false⟩
    let web : Service := ⟨"web", SortedSet.ofList [⟨"w-1", ∅, "10.0.0.1", 80, true, true, false, 1⟩]⟩
    let mesh (locality : Locality) := MultiZone.ofList [⟨"home", locality, Services.ofList [web]⟩]
    let before := config.global (mesh .local) (some ⟨∅, ∅⟩)
    let after := config.global (mesh .remote) (some before)
    "web" ∉ (mesh .remote).changedServices (mesh .local) ∧
      (before.endpoints.get? "web").map (·.localities.map LocalityEndpoints.priority) = some [0] ∧
      (after.endpoints.get? "web").map (·.localities.map LocalityEndpoints.priority) = some [1] := by
  intro config web mesh before after
  exact ⟨mt SortedSet.contains_iff.mpr (by decide +kernel), by decide +kernel, by decide +kernel⟩

end BuilderConfig

end ServiceMesh
