import ServiceMesh.Pattern.Engine
import ServiceMesh.Proofs.ControlPlane.Following
import ServiceMesh.Proofs.Pipeline.Standard

/-! What proxies receive can be reached, and none of it belongs to a service that is kept out of the
mesh. The standard pipeline sees to both, and neither is lost on the way from there to the snapshots. -/
namespace ServiceMesh

variable {denylist : Option Denylist} {seen : ZoneState → Prop} {name : String}

/-- All names of services that occur in what a group receives. -/
def SnapshotContent.names (content : SnapshotContent) : List String :=
  content.clusters.map Cluster.name ++ content.endpoints.map LoadAssignment.cluster ++
    (content.routes.flatMap RouteConfiguration.virtualHosts).flatMap fun host =>
      host.name :: host.domains ++ host.routes.map Route.cluster ++ host.faults.map FaultRule.cluster

/-- A virtual host names no service but its own. -/
theorem eq_of_mem_virtualHost {faults : List Fault} {service : String}
    (named : let host := virtualHost faults service
      name ∈ host.name :: host.domains ++ host.routes.map Route.cluster ++
        host.faults.map FaultRule.cluster) :
    name = service := by
  simp only [virtualHost, List.cons_append, List.nil_append, List.map_cons, List.map_nil,
    List.mem_cons, List.mem_map] at named
  rcases named with own | own | own | ⟨rule, made, rfl⟩
  · exact own
  · exact own
  · exact own
  · rw [faultRules, List.mem_mergeSort, List.mem_map] at made
    obtain ⟨fault, -, rfl⟩ := made
    rfl

theorem SnapshotContent.From.filed_of_mem_names {content : SnapshotContent}
    (origin : content.From seen) (named : name ∈ content.names) : Filed seen name := by
  rw [names, List.mem_append, List.mem_append, List.mem_map, List.mem_map, List.mem_flatMap] at named
  rcases named with (⟨cluster, member, rfl⟩ | ⟨assignment, member, rfl⟩) | ⟨host, listed, named⟩
  · exact origin.clusters cluster member
  · exact (origin.endpoints assignment member).1
  · obtain ⟨routes, member, listed⟩ := List.mem_flatMap.mp listed
    obtain ⟨filed, faults, made⟩ := origin.hosts routes member host listed
    rw [made] at named
    rw [eq_of_mem_virtualHost named]
    exact filed

/-- All services of a zone are as the standard pipeline leaves them, each under its own name. -/
def ZoneState.Settled (denylist : Option Denylist) (zone : ZoneState) : Prop :=
  ∀ name service, zone.services.get? name = some service →
    service.name = name ∧ service.Settled denylist

theorem Filed.allowed (settled : ∀ zone, seen zone → zone.Settled denylist)
    (filed : Filed seen name) : ∀ patterns ∈ denylist, patterns.excludes name = false := by
  obtain ⟨zone, service, known, found⟩ := filed
  obtain ⟨rfl, left⟩ := settled zone known name service found
  exact left.allowed

theorem Offered.reachable {locality : LocalityEndpoints}
    (settled : ∀ zone, seen zone → zone.Settled denylist) (offered : Offered seen name locality) :
    ∀ endpoint ∈ locality.endpoints, (IpAddress.parse? endpoint.address).isSome = true ∧
      1 ≤ endpoint.port ∧ endpoint.port ≤ 65535 := by
  obtain ⟨zone, service, known, found, rfl⟩ := offered.instances
  obtain ⟨-, left⟩ := settled zone known name service found
  intro endpoint member
  obtain ⟨i, listed, rfl⟩ := List.mem_map.mp member
  obtain ⟨-, hasValidPort, hasIpAddress⟩ := left.reachable i listed
  rw [Instance.hasValidPort, Bool.and_eq_true, decide_eq_true_iff, decide_eq_true_iff] at hasValidPort
  exact ⟨hasIpAddress, hasValidPort⟩

theorem Offered.distinct {locality : LocalityEndpoints}
    (settled : ∀ zone, seen zone → zone.Settled denylist) (offered : Offered seen name locality) :
    locality.endpoints.Pairwise fun a b => a.address ≠ b.address ∨ a.port ≠ b.port := by
  obtain ⟨zone, service, known, found, rfl⟩ := offered.instances
  obtain ⟨-, left⟩ := settled zone known name service found
  rw [List.pairwise_map]
  refine service.instances.nodup.pairwise_of_forall_ne fun i iKnown j jKnown apart => ?_
  by_contra same
  obtain ⟨address, port⟩ := not_or.mp same
  exact apart (left.distinct i iKnown j jKnown
    (Target.mk.injEq _ _ _ _ ▸ ⟨not_not.mp address, not_not.mp port⟩))

namespace ControlPlane

variable {config : SourceConfig} {known : List (Feed × ZoneSource)} {builder : BuilderConfig}
  {steps : List Step} {group : ConsumerGroup} {snapshot : Snapshot}

theorem Told.settled {plane : ControlPlane} {zone : ZoneState}
    (standard : plane.zones.pipeline = .standard denylist) (told : Told plane steps zone) :
    zone.Settled denylist := by
  obtain ⟨front, -, member⟩ := told
  obtain ⟨raw, services⟩ := Zones.exists_raw_of_mem_states member
  intro name service found
  rw [services, standard] at found
  exact Pipeline.settled_of_get?_applyTo found

/-- Whatever registries and peers tell, behind the standard pipeline and any steps each endpoint of a
stored snapshot has an IP address and a port from 1 to 65535, no two endpoints of a locality share
both, and no name in the snapshot is one that the denylist excludes, be it of a cluster that was
retained. -/
theorem routable_and_screened (config : SourceConfig) (known : List (Feed × ZoneSource))
    (denylist : Option Denylist) (builder : BuilderConfig) (steps : List Step)
    (group : ConsumerGroup) (snapshot : Snapshot)
    (stored : ((start config known (.standard denylist) builder).after steps).updater.store.snapshot?
      group = some snapshot) :
    (∀ assignment ∈ snapshot.content.endpoints, ∀ locality ∈ assignment.localities,
      (∀ endpoint ∈ locality.endpoints, (IpAddress.parse? endpoint.address).isSome = true ∧
        1 ≤ endpoint.port ∧ endpoint.port ≤ 65535) ∧
      locality.endpoints.Pairwise fun a b => a.address ≠ b.address ∨ a.port ≠ b.port) ∧
    ∀ name ∈ snapshot.content.names, ∀ patterns ∈ denylist, patterns.excludes name = false := by
  have origin := stored_from stored
  have settled (zone : ZoneState)
      (told : Told (start config known (.standard denylist) builder) steps zone) :
      zone.Settled denylist := told.settled rfl
  constructor
  · intro assignment member locality listed
    have offered := (origin.endpoints assignment member).2 locality listed
    exact ⟨offered.reachable settled, offered.distinct settled⟩
  · intro name named
    exact (origin.filed_of_mem_names named).allowed settled

/-- Of what a peer tells, two instances at one place are one endpoint behind the pipeline, and a
service that is kept out leaves no trace. -/
theorem routable_and_screened_peer :
    let web : ConsumerGroup := ⟨"web", .global, .all⟩
    let made (id : String) : Instance := ⟨id, ∅, "10.0.0.1", 80, true, true, false, 1⟩
    let told := Services.ofList [⟨"api", SortedSet.ofList [made "a", made "b"]⟩,
      ⟨"db", SortedSet.ofList [made "c"]⟩]
    let around : Surroundings := ⟨⟨fun _ => ⟨none, .error (.status 500)⟩,
      fun _ _ => ⟨none, .error (.status 500)⟩⟩, fun _ => ⟨some 0, .ok told⟩⟩
    let denylist := (Denylist.ofPatterns .engine ["db"]).toOption
    let plane := start ⟨⟨.zero, .zero, .zero, ⟨∅⟩, ⟨"", "", 1⟩⟩, ⟨.zero, .zero, .zero⟩⟩
      [(.start "home" .local, .peer .start)] (.standard denylist) ⟨.zero, none, [], true⟩
    let steps := [.subscribe web, .event (.poll 0 around 0), .event .aggregate, .event (.update 0)]
    denylist.isSome = true ∧ ∃ snapshot,
      (plane.after steps).updater.store.snapshot? web = some snapshot ∧
      snapshot.content.endpoints = [⟨"api", [⟨"home", 0,
        [⟨"10.0.0.1", 80, some 2, .healthy, SortedMap.ofList [("lb_regular", "true")], []⟩]⟩]⟩] ∧
      "db" ∉ snapshot.content.names := by
  intro web made told around denylist plane steps
  have excluded : denylist.any (·.excludes "db") = true := by decide +kernel
  obtain ⟨patterns, given, excludes⟩ := (Option.any_eq_true _ _).mp excluded
  let mesh := MultiZone.ofList [⟨"home", .local, (Pipeline.standard denylist).applyTo told⟩]
  have published : (plane.after (steps.take 3)).zones.published.value = some mesh := by
    decide +kernel
  obtain ⟨snapshot, stored, content⟩ := first_update published (by decide +kernel) rfl
    (SnapshotStore.mem_groups.mpr (by decide +kernel) : web ∈ _) 0
  obtain ⟨-, screened⟩ := routable_and_screened _ _ denylist _ steps web snapshot stored
  refine ⟨by decide +kernel, snapshot, stored, ?_, fun named => ?_⟩
  · rw [content]
    decide +kernel
  · rw [screened "db" named patterns given] at excludes
    contradiction

end ControlPlane

end ServiceMesh
