import ServiceMesh.Proofs.Snapshot.Coupling
import ServiceMesh.Proofs.Snapshot.ParallelBuilds

/-! A builder in use: it builds snapshots, which others take and give back, forgets groups and sweeps its
caches. What a group has already is not built anew, whatever happened meanwhile, as long as the group
was not forgotten. -/
namespace ServiceMesh

/-- A collection whose wire form is known costs nothing more, and has the handle that it had. -/
theorem ResourceCache.Serves.serialize_known {α : Type} [DecidableEq α] [Resource α]
    {cache : ResourceCache α} {handles : List (Handle α)} (serves : cache.Serves handles)
    {handle : Handle α} (held : handle ∈ handles) (known : (cache.wire? handle).isSome = true) :
    let made := cache.serialize (handles.map Handle.id) handle.resources
    made.1 = handle ∧ made.2.serializations = cache.serializations := by
  intro made
  rcases serves.serialize_cases handle.resources with ⟨-, interned⟩ | ⟨lacks, -⟩
  · constructor
    · rw [show made = _ from interned, serves.intern_known held]
    · rw [show made = _ from interned, serializations_intern]
  · exact absurd ⟨handle, held, rfl, known⟩ lacks

/-- A group that gets the collections it has keeps its versions. -/
theorem SnapshotVersions.assign_again {versions : SnapshotVersions} {group : ConsumerGroup}
    {entry : GroupVersions} (found : versions.byGroup.get? group = some entry) :
    versions.assign group entry.clusters.handle entry.endpoints.handle entry.routes.handle =
      (entry.current, versions) := by
  simp only [assign, found, Versioned.update, if_true, SortedMap.insert_of_found found]

namespace SnapshotBuilder

variable {builder : SnapshotBuilder} {others : List GroupVersions} {group : ConsumerGroup}

/-- Behind a build the wire forms of its collections are known as well. -/
theorem build_encoded (serves : builder.caches.Serves (others ++ builder.versions.byGroup.values))
    (encoded : builder.caches.Encoded (others ++ builder.versions.byGroup.values))
    (group : ConsumerGroup) (global : GlobalSnapshot) (faults : List Fault) (generation : Nat) :
    let made := builder.build (.ofGroups others) group global faults generation
    made.2.caches.Encoded (made.1.remembered :: (others ++ builder.versions.byGroup.values)) := by
  intro made
  have all {α : Type} (handles : List (Handle α)) (handle : Handle α) :
      handle ∈ handles ↔ handle ∈ [] ++ handles := by simp
  simp only [made, build, holdings_eq]
  exact ⟨
    ((ResourceCache.Batch.start serves.clusters encoded.clusters).serialize (all _) _).encoded,
    ((ResourceCache.Batch.start serves.endpoints encoded.endpoints).serialize (all _) _).encoded,
    ((ResourceCache.Batch.start serves.routes encoded.routes).serialize (all _) _).encoded⟩

/-- To build what a group has already changes nothing that can be seen. -/
theorem build_again (serves : builder.caches.Serves (others ++ builder.versions.byGroup.values))
    (encoded : builder.caches.Encoded (others ++ builder.versions.byGroup.values))
    {entry : GroupVersions} (found : builder.versions.byGroup.get? group = some entry)
    {global : GlobalSnapshot} {faults : List Fault}
    (same : builder.config.content group global faults = entry.shown.2) (generation : Nat) :
    let made := builder.build (.ofGroups others) group global faults generation
    made.1.remembered = entry ∧ made.2.versions = builder.versions ∧
      made.2.caches.serializations = builder.caches.serializations := by
  intro made
  have held : entry ∈ others ++ builder.versions.byGroup.values :=
    List.mem_append_right _ (SortedMap.mem_values.mpr ⟨group, found⟩)
  obtain ⟨clusters, clusterCount⟩ := serves.clusters.serialize_known (List.mem_map_of_mem held)
    (encoded.clusters _ (List.mem_map_of_mem held))
  obtain ⟨endpoints, endpointCount⟩ := serves.endpoints.serialize_known (List.mem_map_of_mem held)
    (encoded.endpoints _ (List.mem_map_of_mem held))
  obtain ⟨routes, routeCount⟩ := serves.routes.serialize_known (List.mem_map_of_mem held)
    (encoded.routes _ (List.mem_map_of_mem held))
  simp only [made, build, holdings_eq, same, GroupVersions.shown]
  simp only [Holdings.ofGroups, clusters, endpoints, routes, SnapshotVersions.assign_again found]
  refine ⟨rfl, trivial, ?_⟩
  simp only [ResourceCaches.serializations, clusterCount, endpointCount, routeCount]

end SnapshotBuilder

/-- A builder, and the snapshots that others took and still hold. -/
structure BuilderSession where
  builder : SnapshotBuilder
  taken : List Snapshot

inductive BuilderEvent where
  | build (group : ConsumerGroup) (global : GlobalSnapshot) (faults : List Fault) (generation : Nat)
  | giveBack (n : Nat)
  | purge
  | retain (groups : SortedSet ConsumerGroup)

/-- Events that neither build the snapshot of a group nor make the builder forget it. -/
def BuilderEvent.Spares (group : ConsumerGroup) : BuilderEvent → Prop
  | .build other _ _ _ => other ≠ group
  | .retain groups => group ∈ groups
  | _ => True

namespace BuilderSession

def start (config : BuilderConfig) : BuilderSession := ⟨.start config, []⟩

def build (session : BuilderSession) (group : ConsumerGroup) (global : GlobalSnapshot)
    (faults : List Fault) (generation : Nat) : Snapshot × BuilderSession :=
  let (snapshot, builder) :=
    session.builder.build (.ofSnapshots session.taken) group global faults generation
  (snapshot, ⟨builder, session.taken ++ [snapshot]⟩)

def perform (session : BuilderSession) : BuilderEvent → BuilderSession
  | .build group global faults generation => (session.build group global faults generation).2
  | .giveBack n => { session with taken := session.taken.eraseIdx n }
  | .purge => { session with builder := session.builder.purge (.ofSnapshots session.taken) }
  | .retain groups => { session with builder := session.builder.retain groups }

def run (session : BuilderSession) (events : List BuilderEvent) : BuilderSession :=
  events.foldl perform session

/-- All that others or the versions hold. -/
def inUse (session : BuilderSession) : List GroupVersions :=
  session.taken.map Snapshot.remembered ++ session.builder.versions.byGroup.values

/-- What is built has the handles and the versions of an earlier snapshot, and no version was given out
and no wire form computed for it. -/
structure Repeats (session : BuilderSession) (earlier : Snapshot) (made : Snapshot × BuilderSession) :
    Prop where
  clusters : made.1.clusters = earlier.clusters
  endpoints : made.1.endpoints = earlier.endpoints
  routes : made.1.routes = earlier.routes
  versions : made.1.versions = earlier.versions
  assigned : made.2.builder.versions = session.builder.versions
  serializations :
    made.2.builder.caches.serializations = session.builder.caches.serializations

/-- The caches serve all that is held, and know its wire forms. -/
structure Sound (session : BuilderSession) : Prop where
  serves : session.builder.caches.Serves session.inUse
  encoded : session.builder.caches.Encoded session.inUse

variable {session : BuilderSession} {group : ConsumerGroup} {entry : GroupVersions}

theorem Sound.start (config : BuilderConfig) : (start config).Sound :=
  ⟨.start, nofun, nofun, nofun⟩

/-- Where less is held the caches stay sound. -/
theorem Sound.mono (sound : session.Sound) {other : BuilderSession}
    (caches : other.builder.caches = session.builder.caches) (fewer : other.inUse ⊆ session.inUse) :
    other.Sound := by
  constructor
  · rw [caches]
    exact sound.serves.mono fewer
  · rw [caches]
    exact sound.encoded.mono fewer

theorem build_eq (session : BuilderSession) (group : ConsumerGroup) (global : GlobalSnapshot)
    (faults : List Fault) (generation : Nat) :
    let made := session.builder.build (.ofGroups (session.taken.map Snapshot.remembered)) group
      global faults generation
    session.build group global faults generation = (made.1, ⟨made.2, session.taken ++ [made.1]⟩) := by
  intro made
  rw [build, Holdings.ofSnapshots_eq]

/-- A build remembers its snapshot, and leaves alone what is remembered of other groups. -/
theorem Sound.byGroup_build (sound : session.Sound) (group : ConsumerGroup) (global : GlobalSnapshot)
    (faults : List Fault) (generation : Nat) :
    let made := session.build group global faults generation
    made.2.builder.versions.byGroup =
      session.builder.versions.byGroup.insert group made.1.remembered := by
  intro made
  simp only [made, build_eq]
  exact (SnapshotBuilder.build_remembers sound.serves group global faults generation).1

/-- A build adds its snapshot to what is held, and may drop what the group had before. -/
theorem Sound.inUse_build (sound : session.Sound) (group : ConsumerGroup) (global : GlobalSnapshot)
    (faults : List Fault) (generation : Nat) :
    let made := session.build group global faults generation
    made.2.inUse ⊆ made.1.remembered :: session.inUse := by
  intro made entry member
  have taken : made.2.taken = session.taken ++ [made.1] := rfl
  rw [inUse, taken, sound.byGroup_build] at member
  rcases List.mem_append.mp member with held | listed
  · rw [List.map_append] at held
    rcases List.mem_append.mp held with before | latest
    · exact List.mem_cons_of_mem _ (List.mem_append_left _ before)
    · exact List.mem_cons.mpr (.inl (List.mem_singleton.mp latest))
  · rcases List.mem_cons.mp (SortedMap.values_insert_subset _ _ _ listed) with latest | before
    · exact List.mem_cons.mpr (.inl latest)
    · exact List.mem_cons_of_mem _ (List.mem_append_right _ before)

theorem Sound.perform (sound : session.Sound) (event : BuilderEvent) :
    (session.perform event).Sound := by
  cases event with
  | build group global faults generation =>
      have fewer := sound.inUse_build group global faults generation
      obtain ⟨-, serves⟩ :=
        SnapshotBuilder.build_remembers sound.serves group global faults generation
      have encoded :=
        SnapshotBuilder.build_encoded sound.serves sound.encoded group global faults generation
      rw [BuilderSession.perform]
      rw [build_eq] at fewer ⊢
      exact ⟨serves.mono fewer, encoded.mono fewer⟩
  | giveBack n =>
      refine sound.mono rfl (List.append_subset.mpr ⟨?_, List.subset_append_right _ _⟩)
      refine List.Subset.trans (List.map_subset _ ?_) (List.subset_append_left _ _)
      exact fun _ => List.mem_of_mem_eraseIdx
  | purge =>
      have held : session.builder.holdings (.ofSnapshots session.taken) = .ofGroups session.inUse := by
        rw [Holdings.ofSnapshots_eq, SnapshotBuilder.holdings_eq, inUse]
      rw [BuilderSession.perform, SnapshotBuilder.purge, held]
      exact ⟨sound.serves.purge, sound.encoded.purge sound.serves⟩
  | retain groups =>
      refine sound.mono rfl (List.append_subset.mpr ⟨List.subset_append_left _ _, ?_⟩)
      exact List.Subset.trans (SnapshotVersions.values_retain _ groups) (List.subset_append_right _ _)

theorem Sound.run (sound : session.Sound) (events : List BuilderEvent) : (session.run events).Sound := by
  induction events generalizing session with
  | nil => exact sound
  | cons event rest ih => exact ih (sound.perform event)

/-- What is remembered of a group stays until the group is built for again, or forgotten. -/
theorem Sound.remembers_perform (sound : session.Sound)
    (found : session.builder.versions.byGroup.get? group = some entry) {event : BuilderEvent}
    (spared : event.Spares group) :
    (session.perform event).builder.versions.byGroup.get? group = some entry := by
  cases event with
  | build other global faults generation =>
      rw [BuilderSession.perform, sound.byGroup_build, SortedMap.get?_insert, if_neg spared, found]
  | giveBack n => exact found
  | purge => exact found
  | retain groups =>
      have kept : groups.contains group = true := SortedSet.contains_iff.mpr spared
      rw [BuilderSession.perform, SnapshotBuilder.retain, SnapshotVersions.retain,
        SortedMap.get?_filter, found, Option.filter_some, if_pos kept]

theorem Sound.remembers_run (sound : session.Sound)
    (found : session.builder.versions.byGroup.get? group = some entry) {events : List BuilderEvent}
    (spared : ∀ event ∈ events, event.Spares group) :
    (session.run events).builder.versions.byGroup.get? group = some entry := by
  induction events generalizing session with
  | nil => exact found
  | cons event rest ih =>
      have first := sound.remembers_perform found (spared event List.mem_cons_self)
      exact ih (sound.perform event) first fun other member =>
        spared other (List.mem_cons_of_mem _ member)

theorem config_run (session : BuilderSession) (events : List BuilderEvent) :
    (session.run events).builder.config = session.builder.config := by
  induction events generalizing session with
  | nil => rfl
  | cons event rest ih =>
      refine (ih (session.perform event)).trans ?_
      cases event <;> rfl

/-- Behind a build its snapshot is remembered. -/
theorem Sound.remembers_build (sound : session.Sound) (group : ConsumerGroup)
    (global : GlobalSnapshot) (faults : List Fault) (generation : Nat) :
    let made := session.build group global faults generation
    made.2.builder.versions.byGroup.get? group = some made.1.remembered := by
  intro made
  rw [sound.byGroup_build, SortedMap.get?_insert, if_pos rfl]

theorem build_content (session : BuilderSession) (group : ConsumerGroup) (global : GlobalSnapshot)
    (faults : List Fault) (generation : Nat) :
    (session.build group global faults generation).1.content =
      session.builder.config.content group global faults :=
  (SnapshotBuilder.build_builds session.builder (.ofSnapshots session.taken) group global faults
    generation).made

/-- A group that is to receive what is remembered of it gets just that. -/
theorem Sound.repeats (sound : session.Sound) {snapshot : Snapshot} {global : GlobalSnapshot}
    {faults : List Fault}
    (remembered : session.builder.versions.byGroup.get? group = some snapshot.remembered)
    (wanted : session.builder.config.content group global faults = snapshot.content)
    (generation : Nat) : session.Repeats snapshot (session.build group global faults generation) := by
  obtain ⟨again, versions, serializations⟩ :=
    SnapshotBuilder.build_again sound.serves sound.encoded remembered wanted generation
  rw [build_eq]
  generalize session.builder.build _ group global faults generation = made
    at again versions serializations ⊢
  exact ⟨congrArg (·.clusters.handle) again, congrArg (·.endpoints.handle) again,
    congrArg (·.routes.handle) again, congrArg GroupVersions.current again, versions, serializations⟩

/-- A group that is to receive what it received before gets the same handles under the same versions, and
no wire form is computed, whatever was built for other groups, given back or swept meanwhile. -/
theorem Sound.build_again (sound : session.Sound) {events : List BuilderEvent}
    (spared : ∀ event ∈ events, event.Spares group) {global global' : GlobalSnapshot}
    {faults faults' : List Fault}
    (same : session.builder.config.content group global' faults' =
      session.builder.config.content group global faults) (generation generation' : Nat) :
    let first := session.build group global faults generation
    let between := first.2.run events
    between.Repeats first.1 (between.build group global' faults' generation') := by
  intro first between
  have behind : first.2.Sound := sound.perform (.build group global faults generation)
  have remembered : between.builder.versions.byGroup.get? group = some first.1.remembered :=
    behind.remembers_run (sound.remembers_build group global faults generation) spared
  have wanted : between.builder.config.content group global' faults' = first.1.content := by
    rw [config_run, build_content]
    exact same
  exact (behind.run events).repeats remembered wanted generation'

end BuilderSession

end ServiceMesh
