import ServiceMesh.Proofs.Snapshot.Coupling

/-! Where the resources in stored snapshots come from. Whatever an update leaves alone, retains or
builds anew, each name in a snapshot is one under which some zone filed a service, and the endpoints
of a zone are those that it had at some time. -/
namespace ServiceMesh

variable {seen later : ZoneState → Prop} {config : BuilderConfig} {mesh : MultiZone}
  {previous : Option GlobalSnapshot} {global : GlobalSnapshot} {group : ConsumerGroup}
  {faults : List Fault} {name : String}

/-! ### Resources and where they come from -/

/-- A zone that was seen files a service under the name. -/
def Filed (seen : ZoneState → Prop) (name : String) : Prop :=
  ∃ zone service, seen zone ∧ zone.services.get? name = some service

/-- A zone that was seen has these endpoints for the service of a name. -/
def Offered (seen : ZoneState → Prop) (name : String) (locality : LocalityEndpoints) : Prop :=
  ∃ zone, seen zone ∧ zone.endpointsOf? name = some locality

/-- All resources of all services come from zones that were seen. -/
structure GlobalSnapshot.From (seen : ZoneState → Prop) (global : GlobalSnapshot) : Prop where
  clusters : ∀ name cluster, global.clusters.get? name = some cluster →
    cluster.name = name ∧ Filed seen name
  endpoints : ∀ name assignment, global.endpoints.get? name = some assignment →
    assignment.cluster = name ∧ Filed seen name ∧
      ∀ locality ∈ assignment.localities, Offered seen name locality

/-- All resources of a group come from zones that were seen. -/
structure SnapshotContent.From (seen : ZoneState → Prop) (content : SnapshotContent) : Prop where
  clusters : ∀ cluster ∈ content.clusters, Filed seen cluster.name
  endpoints : ∀ assignment ∈ content.endpoints, Filed seen assignment.cluster ∧
    ∀ locality ∈ assignment.localities, Offered seen assignment.cluster locality
  hosts : ∀ routes ∈ content.routes, ∀ host ∈ routes.virtualHosts,
    Filed seen host.name ∧ ∃ faults, host = virtualHost faults host.name

theorem Filed.mono (filed : Filed seen name) (also : ∀ zone, seen zone → later zone) :
    Filed later name := by
  obtain ⟨zone, service, known, found⟩ := filed
  exact ⟨zone, service, also zone known, found⟩

theorem Offered.mono {locality : LocalityEndpoints} (offered : Offered seen name locality)
    (also : ∀ zone, seen zone → later zone) : Offered later name locality := by
  obtain ⟨zone, known, found⟩ := offered
  exact ⟨zone, also zone known, found⟩

/-- The endpoints of a service are those of the instances that a zone has of it. -/
theorem Offered.instances {locality : LocalityEndpoints} (offered : Offered seen name locality) :
    ∃ zone service, seen zone ∧ zone.services.get? name = some service ∧ locality =
      ⟨zone.zone, zone.locality.priority, service.instances.toList.map Instance.toEndpoint⟩ := by
  obtain ⟨zone, known, has⟩ := offered
  unfold ZoneState.endpointsOf? at has
  split at has
  case h_1 => contradiction
  case h_2 service found =>
    split at has
    case isTrue => contradiction
    case isFalse => exact ⟨zone, service, known, found, (Option.some.inj has).symm⟩

theorem GlobalSnapshot.From.mono (origin : global.From seen)
    (also : ∀ zone, seen zone → later zone) : global.From later := by
  refine ⟨fun name cluster found => ?_, fun name assignment found => ?_⟩
  · obtain ⟨named, filed⟩ := origin.clusters name cluster found
    exact ⟨named, filed.mono also⟩
  · obtain ⟨named, filed, offered⟩ := origin.endpoints name assignment found
    exact ⟨named, filed.mono also, fun locality member => (offered locality member).mono also⟩

theorem SnapshotContent.From.mono {content : SnapshotContent} (origin : content.From seen)
    (also : ∀ zone, seen zone → later zone) : content.From later := by
  refine ⟨fun cluster member => ?_, fun assignment member => ?_, fun routes member host listed => ?_⟩
  · exact (origin.clusters cluster member).mono also
  · obtain ⟨filed, offered⟩ := origin.endpoints assignment member
    exact ⟨filed.mono also, fun locality member => (offered locality member).mono also⟩
  · obtain ⟨filed, made⟩ := origin.hosts routes member host listed
    exact ⟨filed.mono also, made⟩

theorem MultiZone.filed_of_mem_serviceNames (known : ∀ zone ∈ mesh.zones, seen zone)
    (listed : name ∈ mesh.serviceNames) : Filed seen name := by
  rw [serviceNames, SortedSet.mem_ofList, List.mem_flatMap] at listed
  obtain ⟨zone, member, named⟩ := listed
  obtain ⟨service, found⟩ := Option.isSome_iff_exists.mp (SortedMap.mem_keys.mp named)
  exact ⟨zone, service, known zone member, found⟩

namespace BuilderConfig

/-- Retained clusters have their names from before, and no endpoints. -/
theorem global_from (known : ∀ zone ∈ mesh.zones, seen zone)
    (before : ∀ earlier ∈ previous, earlier.From seen) :
    (config.global mesh previous).From seen := by
  constructor
  · intro name cluster found
    rw [get?_clusters] at found
    split at found
    case isTrue listed =>
      obtain rfl := Option.some.inj found
      exact ⟨rfl, mesh.filed_of_mem_serviceNames known (SortedSet.contains_iff.mp listed)⟩
    case isFalse =>
      split at found
      case isFalse => contradiction
      case isTrue =>
        obtain ⟨earlier, given, kept⟩ := Option.bind_eq_some_iff.mp found
        exact (before earlier given).clusters name cluster kept
  · intro name assignment found
    rw [get?_endpoints] at found
    split at found
    case isTrue listed =>
      obtain rfl := Option.some.inj found
      refine ⟨rfl, mesh.filed_of_mem_serviceNames known (SortedSet.contains_iff.mp listed), ?_⟩
      intro locality member
      obtain ⟨zone, listed, has⟩ := List.mem_filterMap.mp member
      exact ⟨zone, known zone listed, has⟩
    case isFalse =>
      split at found
      case isFalse => contradiction
      case isTrue =>
        obtain ⟨cluster, kept, rfl⟩ := Option.map_eq_some_iff.mp found
        obtain ⟨earlier, given, kept⟩ := Option.bind_eq_some_iff.mp kept
        refine ⟨rfl, ((before earlier given).clusters name cluster kept).2, ?_⟩
        intro locality member
        contradiction

theorem get?_of_mem_dependencies (listed : name ∈ config.dependencies group global) :
    ∃ cluster, global.clusters.get? name = some cluster := by
  unfold dependencies at listed
  split at listed
  · exact Option.isSome_iff_exists.mp (SortedMap.mem_keys.mp (List.mem_filter.mp listed).1)
  · exact Option.isSome_iff_exists.mp (List.mem_filter.mp listed).2

/-- The virtual hosts of a group are those of the services that it depends on. -/
theorem mem_virtualHosts {routes : RouteConfiguration} {host : VirtualHost}
    (member : routes ∈ (config.content group global faults).routes)
    (listed : host ∈ routes.virtualHosts) :
    ∃ service ∈ config.dependencies group global, host = virtualHost faults service := by
  obtain rfl := List.mem_singleton.mp member
  obtain ⟨service, depends, rfl⟩ := List.mem_map.mp listed
  exact ⟨service, depends, rfl⟩

theorem content_from (origin : global.From seen) :
    (config.content group global faults).From seen := by
  refine ⟨fun cluster member => ?_, fun assignment member => ?_, fun routes member host listed => ?_⟩
  · obtain ⟨name, -, found⟩ := List.mem_filterMap.mp member
    obtain ⟨rfl, filed⟩ := origin.clusters name cluster found
    exact filed
  · obtain ⟨whole, made, rfl⟩ := List.mem_map.mp member
    obtain ⟨name, -, found⟩ := List.mem_filterMap.mp made
    obtain ⟨rfl, filed, offered⟩ := origin.endpoints name whole found
    cases group.view with
    | global => exact ⟨filed, offered⟩
    | «local» => exact ⟨filed, fun locality kept => offered locality (List.mem_filter.mp kept).1⟩
  · obtain ⟨service, depends, rfl⟩ := mem_virtualHosts member listed
    obtain ⟨cluster, found⟩ := get?_of_mem_dependencies depends
    exact ⟨(origin.clusters service cluster found).2, faults, rfl⟩

end BuilderConfig

/-! ### Builds -/

namespace Updater

variable {updater : Updater} {wanted : SnapshotStore → ConsumerGroup → Bool} {snapshot : Snapshot}

/-- Behind a build a group holds what was made for it, unless it was left out and holds what it
held. -/
theorem Coupled.rebuild_cases (coupled : updater.Coupled)
    (stored : (updater.rebuild mesh faults global wanted).store.snapshot? group = some snapshot) :
    snapshot.content = updater.builder.config.content group global faults ∨
      wanted updater.store.prune group = false ∧ updater.store.snapshot? group = some snapshot := by
  have serves : (updater.builder.retain updater.store.prune.groups).caches.Serves
      (updater.builder.retain updater.store.prune.groups).versions.byGroup.values :=
    coupled.serves.mono (SnapshotVersions.values_retain _ _)
  have left := SnapshotBuilder.buildAll_republished coupled.remember.retain serves
    (coupled.numbered.retain _) coupled.dated.prune
    ((SortedSet.nodup updater.store.prune.groups).filter (wanted updater.store.prune))
    (List.filter_sublist.subset) global faults
  have builds := SnapshotBuilder.buildAll_buildsAll
    (updater.builder.retain updater.store.prune.groups) updater.store.prune.holdings
    (updater.store.prune.groups.toList.filter (wanted updater.store.prune)) global faults
    (updater.generation + 1)
  have registered : updater.store.prune.isRegistered group = true := by
    rw [← left.registered]
    exact SnapshotStore.isRegistered_of_snapshot? stored
  cases asked : wanted updater.store.prune group with
  | true =>
      -- What is shown for the group is what was built, and it is what is stored.
      have listed := List.mem_filter.mpr ⟨SnapshotStore.mem_groups.mpr registered, asked⟩
      rw [← builds.groups_eq] at listed
      obtain ⟨built, member, rfl⟩ := List.mem_map.mp listed
      obtain ⟨-, -, shown⟩ := builds.mem member
      have same := shown.symm.trans (left.remember.shown stored)
      exact .inl (Prod.mk.inj (Option.some.inj same)).2.symm
  | false =>
      refine .inr ⟨rfl, SnapshotStore.snapshot?_of_prune ?_⟩
      rw [← left.left group fun built => ?_]
      · exact stored
      · rw [List.mem_filter, asked] at built
        exact Bool.false_ne_true built.2

theorem Coupled.tick_cases (coupled : updater.Coupled)
    (stored : (updater.tick mesh faults).store.snapshot? group = some snapshot) :
    snapshot.content = updater.builder.config.content group (updater.globalFor mesh) faults ∨
      needsRebuild updater.store.prune (updater.changedServices mesh)
        (updater.haveFaultsChanged faults) group = false ∧
      updater.store.snapshot? group = some snapshot := by
  rw [tick_eq_rebuild] at stored
  exact coupled.rebuild_cases stored

/-- All that is stored, and all that the next build can take over, comes from zones that were
seen. -/
structure From (seen : ZoneState → Prop) (updater : Updater) : Prop where
  last : ∀ last, updater.last = some last → last.global.From seen
  stored : ∀ group snapshot, updater.store.snapshot? group = some snapshot →
    snapshot.content.From seen

theorem From.start (seen : ZoneState → Prop) (config : BuilderConfig) :
    (Updater.start config).From seen :=
  ⟨fun last built => by contradiction, fun group snapshot stored => by contradiction⟩

theorem From.mono (origin : updater.From seen) (also : ∀ zone, seen zone → later zone) :
    updater.From later :=
  ⟨fun last built => (origin.last last built).mono also,
    fun group snapshot stored => (origin.stored group snapshot stored).mono also⟩

theorem From.globalFor (origin : updater.From seen) (known : ∀ zone ∈ mesh.zones, seen zone) :
    (updater.globalFor mesh).From seen := by
  unfold Updater.globalFor
  cases built : updater.last with
  | none =>
      refine BuilderConfig.global_from known fun earlier given => ?_
      contradiction
  | some last =>
      have before := origin.last last built
      dsimp only
      split
      · exact before
      · refine BuilderConfig.global_from known fun earlier given => ?_
        obtain rfl := Option.some.inj given
        exact before

theorem tick_last (updater : Updater) (mesh : MultiZone) (faults : List Fault) :
    (updater.tick mesh faults).last = some ⟨mesh, updater.globalFor mesh, faults⟩ := rfl

theorem From.tick (origin : updater.From seen) (coupled : updater.Coupled)
    (known : ∀ zone ∈ mesh.zones, seen zone) : (updater.tick mesh faults).From seen := by
  have made := origin.globalFor known
  constructor
  · intro last built
    rw [tick_last] at built
    obtain rfl := Option.some.inj built
    exact made
  · intro group snapshot stored
    rcases coupled.tick_cases stored with content | ⟨-, before⟩
    · rw [content]
      exact BuilderConfig.content_from made
    · exact origin.stored group snapshot before

/-- An update that finds services ticks with the faults that are to be had. -/
theorem update_busy (updater : Updater) {mesh : Watched (Option MultiZone)} {state : MultiZone}
    (published : mesh.value = some state) (busy : state.hasNoServices = false)
    (faults : FaultService) (now : Time) :
    let active := updater.faultsFor faults now
    updater.update mesh faults now =
      ({ updater with seenMesh := mesh.revision, seenFaults := active.2.revision }.tick state active.1,
        active.2) := by
  simp only [Updater.update, published, busy, Bool.false_eq_true, if_false]
  rfl

/-- An update takes note of the revision of the mesh, and ticks with the faults that are to be had if it
finds services. -/
theorem update_cases (updater : Updater) (mesh : Watched (Option MultiZone)) (faults : FaultService)
    (now : Time) :
    updater.update mesh faults now = ({ updater with seenMesh := mesh.revision }, faults) ∨
      ∃ state active behind, mesh.value = some state ∧
        updater.faultsFor faults now = (active, behind) ∧
        updater.update mesh faults now = ({ updater with
          seenMesh := mesh.revision, seenFaults := behind.revision }.tick state active, behind) := by
  rw [update_eq_updateBy]
  exact updater.updateBy_cases tick mesh faults now

/-- An update lists the faults, or leaves them alone. -/
theorem update_faults (updater : Updater) (mesh : Watched (Option MultiZone)) (faults : FaultService)
    (now : Time) :
    let behind := (updater.update mesh faults now).2
    behind = faults ∨ ∃ listed, faults.list now = .ok (listed, behind) := by
  rcases updater.update_cases mesh faults now with idle | ⟨state, active, behind, -, found, ticks⟩
  · rw [idle]
    exact .inl rfl
  · rw [ticks]
    rw [faultsFor] at found
    cases lists : faults.list now with
    | ok listed =>
        rw [lists] at found
        exact .inr ⟨active, congrArg Except.ok found⟩
    | error problem =>
        rw [lists] at found
        exact .inl (Prod.mk.inj found).2.symm

/-- The first update that finds services gives a group that is followed what is made of them. -/
theorem Coupled.update_first (coupled : updater.Coupled) (unbuilt : updater.last = none)
    {mesh : Watched (Option MultiZone)} {state : MultiZone} (published : mesh.value = some state)
    (busy : state.hasNoServices = false) (followed : group ∈ updater.store.prune.groups)
    (faults : FaultService) (now : Time) :
    ∃ snapshot, (updater.update mesh faults now).1.store.snapshot? group = some snapshot ∧
      snapshot.content = updater.builder.config.content group
        (updater.builder.config.global state none) (updater.faultsFor faults now).1 := by
  have settles := coupled.update_settles published busy faults now
  have registered := (settles.groups group).trans (SnapshotStore.mem_groups.mp followed)
  obtain ⟨snapshot, stored⟩ := Option.isSome_iff_exists.mp (settles.stored group registered)
  refine ⟨snapshot, stored, ?_⟩
  rw [updater.update_busy published busy] at stored
  rcases (coupled.seen mesh.revision _).tick_cases stored with made | ⟨spared, -⟩
  · rw [made, Updater.globalFor, unbuilt]
  · obtain ⟨calm, -⟩ := Built.unchanged_of_needsRebuild spared
    rw [haveFaultsChanged, unbuilt] at calm
    contradiction

theorem From.update (origin : updater.From seen) (coupled : updater.Coupled)
    {mesh : Watched (Option MultiZone)}
    (known : ∀ state, mesh.value = some state → ∀ zone ∈ state.zones, seen zone)
    (faults : FaultService) (now : Time) : (updater.update mesh faults now).1.From seen := by
  rcases updater.update_cases mesh faults now with idle | ⟨state, active, behind, published, -, ticks⟩
  · rw [idle]
    exact ⟨origin.last, origin.stored⟩
  · rw [ticks]
    have noted : From seen
        { updater with seenMesh := mesh.revision, seenFaults := behind.revision } :=
      ⟨origin.last, origin.stored⟩
    exact noted.tick (coupled.seen mesh.revision behind.revision) (known state published)

end Updater

end ServiceMesh
