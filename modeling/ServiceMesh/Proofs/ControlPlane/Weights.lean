import ServiceMesh.Proofs.ControlPlane.Following
import ServiceMesh.Proofs.Zone.Sharing
import ServiceMesh.Proofs.Zone.Weights

/-! The weights of endpoints. What a registry reports always has a weight of at least 1, and so has
what becomes of it. The documents of peers are not looked through: an instance that a peer tells of
with weight 0 is published as an endpoint of weight 0, and no other endpoint is. -/
namespace ServiceMesh

namespace ZoneSource

variable {source : ZoneSource} {excused others : String → Target → Prop} {config : SourceConfig}

/-- A registry has told no instance without weight, and a peer only excused ones. -/
def Weighed (excused : String → Target → Prop) : ZoneSource → Prop
  | .registry watcher => watcher.Weighed
  | .peer zone => zone.Weighed excused

theorem Weighed.mono (weighed : source.Weighed excused)
    (also : ∀ name target, excused name target → others name target) : source.Weighed others := by
  cases source with
  | registry watcher => exact weighed
  | peer zone => exact fun services told => (weighed services told).mono also

theorem Weighed.published (weighed : source.Weighed excused) :
    ∀ services, source.published.value = some services → services.Weighed excused := by
  intro services told
  cases source with
  | registry watcher =>
      have none := Watcher.Weighed.published weighed services told
      exact none.mono fun _ _ => False.elim
  | peer zone => exact weighed services told

theorem Weighed.poll (weighed : source.Weighed excused) {around : Surroundings} {now : Time}
    (tells : ∀ zone services, source = .peer zone →
      RemoteZone.Attempt.answer ⟨around.peer, now⟩ config.remote = .ok services →
      services.Weighed excused) :
    (source.poll config around now).source.Weighed excused := by
  cases source with
  | registry watcher => exact Watcher.Weighed.poll weighed config.watcher around.registry now
  | peer zone => exact RemoteZone.Weighed.poll weighed fun services => tells zone services rfl

def isPeer : ZoneSource → Bool
  | .registry _ => false
  | .peer _ => true

theorem poll_isPeer (source : ZoneSource) (config : SourceConfig) (around : Surroundings)
    (now : Time) : (source.poll config around now).source.isPeer = source.isPeer := by
  cases source <;> rfl

/-- A zone of which nothing is known yet: its name and locality, and whether a peer tells of it or a
registry. -/
structure Plan where
  zone : String
  locality : Locality
  isRemote : Bool

def Plan.begin (plan : Plan) : Feed × ZoneSource :=
  (.start plan.zone plan.locality, if plan.isRemote then .peer .start else .registry .start)

theorem Plan.begin_isPeer (plan : Plan) : plan.begin.2.isPeer = plan.isRemote := by
  unfold Plan.begin
  cases plan.isRemote <;> rfl

theorem Plan.weighed (plan : Plan) : plan.begin.2.Weighed excused := by
  unfold Plan.begin
  split
  · exact fun services told => by contradiction
  · exact Watcher.Weighed.start

end ZoneSource

namespace ControlPlane

open ZoneSource (Plan)

variable {plane : ControlPlane} {steps : List Step} {step : Step} {index : Nat} {name : String}
  {target : Target}

theorem after_config (plane : ControlPlane) (steps : List Step) :
    (plane.after steps).config = plane.config := by
  induction steps using List.reverseRecOn with
  | nil => rfl
  | append_singleton steps step ih =>
      rw [after_snoc, ← ih]
      cases step with
      | subscribe group => rfl
      | unsubscribe follower => rfl
      | faults changed => rfl
      | event event =>
          cases event with
          | aggregate => rfl
          | update now => rfl
          | handle now freshId request => rfl
          | poll index around now =>
              rcases (plane.after steps).perform_poll index around now with same | ⟨_, _, -, -, polled⟩
              · rw [take, same]
              · rw [take, polled]

/-- What a step does to sources and feeds: nothing that is news, or a poll of one source brings its
feed what the source publishes. -/
theorem take_sources (plane : ControlPlane) (step : Step) :
    let next := plane.take step
    next.sources = plane.sources ∧ Zones.SameNews next.zones.feeds plane.zones.feeds ∨
    ∃ index around now source feed, step = .event (.poll index around now) ∧
      plane.sources[index]? = some source ∧ plane.zones.feeds[index]? = some feed ∧
      let behind := (source.poll plane.config around now).source
      next.sources = plane.sources.set index behind ∧ next.zones.feeds =
        plane.zones.feeds.set index { feed with latest := behind.published } := by
  cases step with
  | subscribe group => exact .inl ⟨rfl, rfl⟩
  | unsubscribe follower => exact .inl ⟨rfl, rfl⟩
  | faults changed => exact .inl ⟨rfl, rfl⟩
  | event event =>
      cases event with
      | aggregate => exact .inl ⟨rfl, plane.zones.aggregate_sameNews⟩
      | update now => exact .inl ⟨rfl, rfl⟩
      | handle now freshId request => exact .inl ⟨rfl, rfl⟩
      | poll index around now =>
          rcases plane.perform_poll index around now with same | ⟨source, feed, known, fed, polled⟩
          · rw [take, same]
            exact .inl ⟨rfl, rfl⟩
          · rw [take, polled]
            exact .inr ⟨index, around, now, source, feed, rfl, known, fed, rfl, rfl⟩

/-- A peer that was asked for a zone told of an instance of a service at a place, with weight 0. -/
def ToldWeightless (plane : ControlPlane) (steps : List Step) (index : Nat) (name : String)
    (target : Target) : Prop :=
  ∃ front around now rest zone services service i,
    steps = front ++ .event (.poll index around now) :: rest ∧
    (plane.after front).sources[index]? = some (.peer zone) ∧
    RemoteZone.Attempt.answer ⟨around.peer, now⟩ plane.config.remote = .ok services ∧
    service ∈ services.toList ∧ service.name = name ∧
    i ∈ service.instances ∧ i.target = target ∧ i.weight = 0

theorem ToldWeightless.later (told : ToldWeightless plane steps index name target)
    (later : List Step) : ToldWeightless plane (steps ++ later) index name target := by
  obtain ⟨front, around, now, rest, zone, services, service, i, rfl, weightless⟩ := told
  exact ⟨front, around, now, rest ++ later, zone, services, service, i, by simp, weightless⟩

/-- The zones keep their names and the kinds of their sources, and no source and no feed has an
instance without weight that no peer told of. -/
structure Weighing (plane : ControlPlane) (steps : List Step) : Prop where
  sources : ∀ (index : Nat) (source : ZoneSource), (plane.after steps).sources[index]? = some source →
    (∃ first, plane.sources[index]? = some first ∧ first.isPeer = source.isPeer) ∧
      source.Weighed (ToldWeightless plane steps index)
  feeds : ∀ (index : Nat) (feed : Feed), (plane.after steps).zones.feeds[index]? = some feed →
    (∃ first, plane.zones.feeds[index]? = some first ∧ first.zone = feed.zone) ∧
      ∀ services, feed.latest.value = some services →
        services.Weighed (ToldWeightless plane steps index)

theorem Weighing.snoc (weighing : Weighing plane steps) (step : Step) :
    Weighing plane (steps ++ [step]) := by
  have still (index : Nat) (name : String) (target : Target)
      (told : ToldWeightless plane steps index name target) :
      ToldWeightless plane (steps ++ [step]) index name target := told.later [step]
  have source_still (index : Nat) (source : ZoneSource)
      (known : (plane.after steps).sources[index]? = some source) :
      (∃ first, plane.sources[index]? = some first ∧ first.isPeer = source.isPeer) ∧
        source.Weighed (ToldWeightless plane (steps ++ [step]) index) := by
    obtain ⟨kind, weighed⟩ := weighing.sources index source known
    exact ⟨kind, weighed.mono (still index)⟩
  have feed_still (index : Nat) (feed : Feed)
      (fed : (plane.after steps).zones.feeds[index]? = some feed) :
      (∃ first, plane.zones.feeds[index]? = some first ∧ first.zone = feed.zone) ∧
        ∀ services, feed.latest.value = some services →
          services.Weighed (ToldWeightless plane (steps ++ [step]) index) := by
    obtain ⟨named, weighed⟩ := weighing.feeds index feed fed
    exact ⟨named, fun services told => (weighed services told).mono (still index)⟩
  rcases (plane.after steps).take_sources step with
    ⟨sources, feeds⟩ | ⟨asked, around, now, source, feed, isPoll, known, fed, sources, feeds⟩
  · refine ⟨fun index source found => ?_, fun index feed found => ?_⟩
    · rw [after_snoc, sources] at found
      exact source_still index source found
    · -- An aggregation marks what it has seen, and changes nothing else.
      rw [after_snoc] at found
      have same := congrArg (·[index]?) feeds
      simp only [List.getElem?_map, found, Option.map_some] at same
      obtain ⟨old, known, seen⟩ := Option.map_eq_some_iff.mp same.symm
      obtain ⟨zone, -, latest, -, -⟩ := Feed.mk.inj seen
      have kept := feed_still index old known
      rwa [zone, latest] at kept
  · -- A poll brings up only what the peer answers to it.
    obtain ⟨kind, before⟩ := source_still asked source known
    have weighed : (source.poll (plane.after steps).config around now).source.Weighed
        (ToldWeightless plane (steps ++ [step]) asked) := by
      refine before.poll ?_
      rintro zone services rfl answered service member i listed weightless
      rw [after_config] at answered
      exact ⟨steps, around, now, [], zone, services, service, i, by rw [isPoll], known, answered,
        member, rfl, listed, rfl, weightless⟩
    refine ⟨fun index other found => ?_, fun index other found => ?_⟩
    · rw [after_snoc, sources, List.getElem?_set] at found
      split at found
      case isFalse => exact source_still index other found
      case isTrue here =>
        subst here
        split at found
        · obtain rfl := Option.some.inj found
          rw [ZoneSource.poll_isPeer]
          exact ⟨kind, weighed⟩
        · contradiction
    · rw [after_snoc, feeds, List.getElem?_set] at found
      split at found
      case isFalse => exact feed_still index other found
      case isTrue here =>
        subst here
        split at found
        · obtain rfl := Option.some.inj found
          exact ⟨(feed_still asked feed fed).1, weighed.published⟩
        · contradiction

variable {config : SourceConfig} {plans : List Plan} {pipeline : Pipeline} {builder : BuilderConfig}

/-- A control plane over zones of which nothing is known yet. -/
def fresh (config : SourceConfig) (plans : List Plan) (pipeline : Pipeline)
    (builder : BuilderConfig) : ControlPlane :=
  start config (plans.map Plan.begin) pipeline builder

theorem fresh_sources (config : SourceConfig) (plans : List Plan) (pipeline : Pipeline)
    (builder : BuilderConfig) :
    (fresh config plans pipeline builder).sources = plans.map fun plan => plan.begin.2 := by
  rw [fresh, start, List.map_map]
  rfl

theorem fresh_feeds (config : SourceConfig) (plans : List Plan) (pipeline : Pipeline)
    (builder : BuilderConfig) :
    (fresh config plans pipeline builder).zones.feeds =
      plans.map fun plan => .start plan.zone plan.locality := by
  simp only [fresh, start, Zones.start, List.map_map]
  rfl

theorem weighing (config : SourceConfig) (plans : List Plan) (pipeline : Pipeline)
    (builder : BuilderConfig) (steps : List Step) :
    Weighing (fresh config plans pipeline builder) steps := by
  induction steps using List.reverseRecOn with
  | append_singleton steps step ih => exact ih.snoc step
  | nil =>
      refine ⟨fun index source found => ⟨⟨source, found, rfl⟩, ?_⟩,
        fun index feed found => ⟨⟨feed, found, rfl⟩, ?_⟩⟩
      · rw [after, List.foldl_nil, fresh_sources, List.getElem?_map] at found
        obtain ⟨plan, -, rfl⟩ := Option.map_eq_some_iff.mp found
        exact plan.weighed
      · intro services told
        rw [after, List.foldl_nil, fresh_feeds, List.getElem?_map] at found
        obtain ⟨plan, -, rfl⟩ := Option.map_eq_some_iff.mp found
        contradiction

/-- Only of a zone that is not read from a registry does a peer tell. -/
theorem ToldWeightless.isRemote {plan : Plan} (planned : plans[index]? = some plan)
    (told : ToldWeightless (fresh config plans pipeline builder) steps index name target) :
    plan.isRemote = true := by
  obtain ⟨front, around, now, rest, zone, services, service, i, -, asked, -⟩ := told
  obtain ⟨⟨first, begun, kind⟩, -⟩ :=
    (weighing config plans pipeline builder front).sources index _ asked
  rw [fresh_sources, List.getElem?_map, planned] at begun
  obtain rfl := Option.some.inj begun
  exact plan.begin_isPeer.symm.trans kind

/-- A zone that was told has no instance without weight that no peer told of. -/
theorem Told.weighed {zone : ZoneState}
    (told : Told (fresh config plans pipeline builder) steps zone) :
    ∃ (index : Nat) (plan : Plan), plans[index]? = some plan ∧ plan.zone = zone.zone ∧
      zone.services.Keyed ∧
      zone.services.Weighed (ToldWeightless (fresh config plans pipeline builder) steps index) := by
  obtain ⟨front, ⟨rest, rfl⟩, member⟩ := told
  obtain ⟨feed, listed, state⟩ := List.mem_filterMap.mp member
  obtain ⟨raw, latest, rfl⟩ := Option.map_eq_some_iff.mp state
  obtain ⟨index, found⟩ := List.mem_iff_getElem?.mp listed
  obtain ⟨⟨first, begun, named⟩, weighed⟩ :=
    (weighing config plans pipeline builder front).feeds index feed found
  rw [fresh_feeds, List.getElem?_map] at begun
  obtain ⟨plan, planned, rfl⟩ := Option.map_eq_some_iff.mp begun
  refine ⟨index, plan, planned, named, Services.keyed_ofList _, ?_⟩
  exact ((weighed raw latest).mono fun name target told => told.later rest).applyTo _

/-- Whatever registries and peers tell, behind any pipeline and any steps each endpoint of a stored
snapshot has a weight of at least 1, unless the zone is read from a peer, and a peer that was asked
for it told of an instance of the service at that place with weight 0. -/
theorem weight_told (config : SourceConfig) (plans : List Plan) (pipeline : Pipeline)
    (builder : BuilderConfig) (steps : List Step) (group : ConsumerGroup) (snapshot : Snapshot)
    (stored : ((fresh config plans pipeline builder).after steps).updater.store.snapshot? group =
      some snapshot) :
    ∀ assignment ∈ snapshot.content.endpoints, ∀ locality ∈ assignment.localities,
      ∀ endpoint ∈ locality.endpoints, ∃ weight, endpoint.weight = some weight ∧
        (1 ≤ weight ∨ ∃ (index : Nat) (plan : Plan), plans[index]? = some plan ∧
          plan.zone = locality.zone ∧ plan.isRemote = true ∧
          ToldWeightless (fresh config plans pipeline builder) steps index assignment.cluster
            ⟨endpoint.address, endpoint.port⟩) := by
  intro assignment member locality listed endpoint offered
  have origin := ((stored_from stored).endpoints assignment member).2 locality listed
  obtain ⟨zone, service, told, found, rfl⟩ := origin.instances
  obtain ⟨i, known, rfl⟩ := List.mem_map.mp offered
  refine ⟨i.weight, rfl, ?_⟩
  by_cases weightless : i.weight = 0
  · obtain ⟨index, plan, planned, named, keyed, weighed⟩ := told.weighed
    have excused := weighed service (Services.mem_toList.mpr ⟨_, found⟩) i known weightless
    rw [keyed _ _ found] at excused
    exact .inr ⟨index, plan, planned, named, excused.isRemote planned, excused⟩
  · have filled : i.weight.toNat ≠ 0 := fun zero => weightless (UInt32.toNat.inj zero)
    exact .inl (UInt32.le_iff_toNat_le.mpr (Nat.one_le_iff_ne_zero.mpr filled))

/-- A registry reports an instance without a weight, for which 0 is configured. -/
theorem weight_told_registry :
    let web : ConsumerGroup := ⟨"web", .global, .all⟩
    let around : Surroundings := ⟨.twins, fun _ => ⟨none, .error (.status 500)⟩⟩
    let plane := fresh ⟨⟨.zero, .zero, .zero, ⟨∅⟩, ⟨"", "", 0⟩⟩, ⟨.zero, .zero, .zero⟩⟩
      [⟨"home", .local, false⟩] ⟨[]⟩ ⟨.zero, none, [], false⟩
    let steps := [.subscribe web, .event (.poll 0 around 0), .event .aggregate, .event (.update 0)]
    ∃ snapshot assignment locality, (plane.after steps).updater.store.snapshot? web = some snapshot ∧
      assignment ∈ snapshot.content.endpoints ∧ locality ∈ assignment.localities ∧
      locality.endpoints.length = 2 ∧
      ∀ endpoint ∈ locality.endpoints, ∃ weight, endpoint.weight = some weight ∧ 1 ≤ weight := by
  intro web around plane steps
  let reported (id : String) : Instance := ⟨id, ∅, "10.0.0.1", 80, true, true, false, 1⟩
  let mesh := MultiZone.ofList
    [⟨"home", .local, Services.ofList [⟨"web", SortedSet.ofList [reported "a", reported "b"]⟩]⟩]
  have published : (plane.after (steps.take 3)).zones.published.value = some mesh := by
    decide +kernel
  obtain ⟨snapshot, stored, content⟩ := first_update published (by decide +kernel) rfl
    (SnapshotStore.mem_groups.mpr (by decide +kernel) : web ∈ _) 0
  have endpoints : snapshot.content.endpoints =
      [⟨"web", [⟨"home", 0, [(reported "a").toEndpoint, (reported "b").toEndpoint]⟩]⟩] := by
    rw [content]
    decide +kernel
  have assigned := endpoints ▸ List.mem_singleton_self _
  refine ⟨snapshot, _, _, stored, assigned, List.mem_singleton_self _, rfl,
    fun endpoint offered => ?_⟩
  obtain ⟨weight, has, least | ⟨index, plan, planned, -, isRemote, -⟩⟩ :=
    weight_told _ _ _ _ steps web snapshot stored _ assigned _ (List.mem_singleton_self _) endpoint
      offered
  · exact ⟨weight, has, least⟩
  · -- The one zone is not read from a peer.
    obtain rfl := List.mem_singleton.mp (List.mem_of_getElem? planned)
    contradiction

/-- An answer of a peer: a document that tells of one instance, of weight 0. -/
def weightlessDocument : HttpAnswer :=
  ⟨200, none, Text.utf8 (Services.ofList
    [⟨"web", SortedSet.ofList [⟨"w-1", ∅, "10.0.0.1", 80, true, true, false, 0⟩]⟩]).toJson.render⟩

/-- The document is accepted, and the instance is published as an endpoint of weight 0. -/
theorem weight_zero_published :
    let api : ConsumerGroup := ⟨"api", .global, .services (SortedSet.ofList ["web"])⟩
    let answer := receive Services.decoder (some weightlessDocument)
    let around : Surroundings := ⟨.twins, fun _ => ⟨some 0, answer.map Prod.snd⟩⟩
    let plane := fresh ⟨⟨.zero, .zero, .zero, ⟨∅⟩, ⟨"", "", 1⟩⟩, ⟨.zero, .zero, .zero⟩⟩
      [⟨"away", .remote, true⟩] (.standard none) ⟨.zero, none, [], false⟩
    let steps := [.event (.poll 0 around 0), .event .aggregate, .subscribe api, .event (.update 0)]
    ∃ snapshot, (plane.after steps).updater.store.snapshot? api = some snapshot ∧
      snapshot.content.endpoints = [⟨"web", [⟨"away", 1,
        [⟨"10.0.0.1", 80, some 0, .healthy, SortedMap.ofList [("lb_regular", "true")], []⟩]⟩]⟩] := by
  intro api answer around plane steps
  let told := Services.ofList
    [⟨"web", SortedSet.ofList [⟨"w-1", ∅, "10.0.0.1", 80, true, true, false, 0⟩]⟩]
  have accepted : answer = .ok (none, told) := receive_render told
  let mesh := MultiZone.ofList [⟨"away", .remote, told⟩]
  have published : (plane.after (steps.take 3)).zones.published.value = some mesh := by
    dsimp only [plane, steps, around]
    rw [accepted]
    decide +kernel
  obtain ⟨snapshot, stored, content⟩ := first_update published (by decide +kernel) rfl
    (SnapshotStore.mem_groups.mpr (by decide +kernel) : api ∈ _) 0
  refine ⟨snapshot, stored, ?_⟩
  rw [content]
  decide +kernel

end ControlPlane

end ServiceMesh
