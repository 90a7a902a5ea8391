import Mathlib.Data.List.Induction
import ServiceMesh.Proofs.Services
import ServiceMesh.Proofs.Watched
import ServiceMesh.Zone.Aggregation

/-! What an aggregation makes of its feeds. Once each local feed has told something it publishes the
states of all feeds that have, and the services of the first local zone beside them; before that it
publishes nothing. -/
namespace ServiceMesh

namespace Feed

/-- The zone publishes its services. -/
def tell (feed : Feed) (services : Services) : Feed :=
  { feed with latest := feed.latest.set (some services) }

/-- The state of the zone behind a pipeline, once it has told any services. -/
def state? (pipeline : Pipeline) (feed : Feed) : Option ZoneState :=
  feed.latest.value.map fun services => ⟨feed.zone, feed.locality, pipeline.applyTo services⟩

end Feed

/-- The services of the first local zone. -/
def MultiZone.localServices? (mesh : MultiZone) : Option Services :=
  (mesh.zones.find? (·.locality == .local)).map ZoneState.services

namespace Zones

variable {pipeline : Pipeline} {feeds others : List Feed} {zones : Zones}

/-- Each local zone has told something. -/
def Ready (feeds : List Feed) : Prop :=
  ∀ feed ∈ feeds, feed.locality = .local → feed.latest.value.isSome = true

/-- The states of the zones that have told something. -/
def states (pipeline : Pipeline) (feeds : List Feed) : List ZoneState :=
  feeds.filterMap (Feed.state? pipeline)

/-- A list around one of its places. -/
theorem eq_around {index : Nat} {feed : Feed} (found : feeds[index]? = some feed) :
    feeds = feeds.take index ++ feed :: feeds.drop (index + 1) := by
  obtain ⟨bound, rfl⟩ := List.getElem?_eq_some_iff.mp found
  rw [← List.drop_eq_getElem_cons bound, List.take_append_drop]

/-- Lists of feeds that differ in nothing but in what was seen. -/
def SameNews (feeds others : List Feed) : Prop := feeds.map Feed.markSeen = others.map Feed.markSeen

theorem ready_markSeen : Ready (feeds.map Feed.markSeen) ↔ Ready feeds := List.forall_mem_map

theorem SameNews.ready_iff (same : SameNews feeds others) : Ready feeds ↔ Ready others := by
  rw [← ready_markSeen, same, ready_markSeen]

/-- A local feed that has told nothing is the last that is taken. -/
theorem takeFeeds_cons (pipeline : Pipeline) (feed : Feed) (rest : List Feed) :
    takeFeeds pipeline (feed :: rest) =
      if feed.locality = .local ∧ feed.latest.value = none then (feed.markSeen :: rest, none)
      else (feed.markSeen :: (takeFeeds pipeline rest).1,
        (takeFeeds pipeline rest).2.map ((feed.state? pipeline).toList ++ ·)) := by
  obtain ⟨zone, locality, ⟨value, revision⟩, seen, closed⟩ := feed
  cases value with
  | none =>
      cases locality with
      | «local» => rfl
      | remote => simp [takeFeeds, Feed.markSeen, Feed.state?]
  | some services => simp [takeFeeds, Feed.markSeen, Feed.state?]

theorem takeFeeds_sameNews (pipeline : Pipeline) (feeds : List Feed) :
    SameNews (takeFeeds pipeline feeds).1 feeds := by
  induction feeds with
  | nil => rfl
  | cons feed rest ih =>
      rw [takeFeeds_cons]
      split
      case isTrue => rfl
      case isFalse => exact congrArg (feed.markSeen :: ·) ih

theorem ready_cons {feed : Feed} {rest : List Feed} :
    Ready (feed :: rest) ↔ ¬ (feed.locality = .local ∧ feed.latest.value = none) ∧ Ready rest := by
  simp [Ready, Option.isSome_iff_ne_none]

theorem takeFeeds_of_ready (pipeline : Pipeline) (ready : Ready feeds) :
    (takeFeeds pipeline feeds).2 = some (states pipeline feeds) := by
  induction feeds with
  | nil => rfl
  | cons feed rest ih =>
      obtain ⟨told, ready⟩ := ready_cons.mp ready
      rw [takeFeeds_cons, if_neg told, ih ready, states, states, List.filterMap_cons]
      cases feed.state? pipeline <;> rfl

theorem takeFeeds_of_not_ready (pipeline : Pipeline) (unready : ¬ Ready feeds) :
    (takeFeeds pipeline feeds).2 = none := by
  induction feeds with
  | nil => exact absurd (fun _ member => absurd member List.not_mem_nil) unready
  | cons feed rest ih =>
      rw [takeFeeds_cons]
      split
      case isTrue => rfl
      case isFalse told =>
        rw [ih fun ready => unready (ready_cons.mpr ⟨told, ready⟩)]
        rfl

/-! ### Publications -/

theorem publish_published (zones : Zones) (mesh : MultiZone) :
    (zones.publish mesh).published = zones.published.offer (some mesh) := rfl

theorem publish_localServices (zones : Zones) (mesh : MultiZone) :
    (zones.publish mesh).localServices = match mesh.localServices? with
      | some services => zones.localServices.offer (some services)
      | none => zones.localServices := by
  unfold publish MultiZone.localServices?
  cases mesh.zones.find? (·.locality == .local) <;> rfl

theorem mem_ofList {list : List ZoneState} {zone : ZoneState} :
    zone ∈ (MultiZone.ofList list).zones ↔ zone ∈ list := List.mem_mergeSort

theorem localServices?_ofList_isSome {list : List ZoneState} :
    (MultiZone.ofList list).localServices?.isSome = true ↔ ∃ zone ∈ list, zone.locality = .local := by
  rw [MultiZone.localServices?, Option.isSome_map, List.find?_isSome]
  simp only [mem_ofList, beq_iff_eq]

def HasLocal (feeds : List Feed) : Prop := ∃ feed ∈ feeds, feed.locality = .local

/-- Publications fit together: the local services are those of the first local zone of the mesh, which
has one if a feed is local, and all zones file each service under its own name. -/
structure Consistent (zones : Zones) : Prop where
  localServices : zones.localServices.value =
    zones.published.value.bind MultiZone.localServices?
  hasLocal : ∀ mesh, zones.published.value = some mesh →
    (mesh.localServices?.isSome = true ↔ HasLocal zones.feeds)
  keyed : ∀ mesh, zones.published.value = some mesh → ∀ zone ∈ mesh.zones, zone.services.Keyed

theorem Consistent.publish (consistent : zones.Consistent) {list : List ZoneState}
    (hasLocal : (∃ zone ∈ list, zone.locality = .local) ↔ HasLocal zones.feeds)
    (keyed : ∀ zone ∈ list, zone.services.Keyed) :
    (zones.publish (MultiZone.ofList list)).Consistent := by
  have shown : (zones.publish (MultiZone.ofList list)).published.value =
      some (MultiZone.ofList list) := Watched.value_offer _ _
  have isLocal := localServices?_ofList_isSome.trans hasLocal
  refine ⟨?_, fun mesh published => ?_, fun mesh published => ?_⟩
  · rw [shown, publish_localServices, Option.bind_some]
    cases found : (MultiZone.ofList list).localServices? with
    | some services => exact Watched.value_offer _ _
    | none =>
        -- No feed is local, so there never was a local zone.
        rw [found] at isLocal
        dsimp only
        rw [consistent.localServices, Option.bind_eq_none_iff]
        intro mesh published
        rw [← Option.not_isSome_iff_eq_none, consistent.hasLocal mesh published, ← isLocal]
        simp
  · rw [shown] at published
    exact Option.some.inj published ▸ isLocal
  · rw [shown] at published
    obtain rfl := Option.some.inj published
    exact fun zone member => keyed zone (mem_ofList.mp member)

theorem keyed_states {zone : ZoneState} (member : zone ∈ states pipeline feeds) :
    zone.services.Keyed := by
  obtain ⟨feed, -, told⟩ := List.mem_filterMap.mp member
  obtain ⟨services, -, rfl⟩ := Option.map_eq_some_iff.mp told
  exact Services.keyed_ofList _

theorem local_states (pipeline : Pipeline) (ready : Ready feeds) :
    (∃ zone ∈ states pipeline feeds, zone.locality = .local) ↔ HasLocal feeds := by
  simp only [states, List.mem_filterMap, Feed.state?, Option.map_eq_some_iff]
  constructor
  · rintro ⟨_, ⟨feed, member, services, told, rfl⟩, isLocal⟩
    exact ⟨feed, member, isLocal⟩
  · rintro ⟨feed, member, isLocal⟩
    obtain ⟨services, told⟩ := Option.isSome_iff_exists.mp (ready feed member isLocal)
    exact ⟨_, ⟨feed, member, services, told, rfl⟩, isLocal⟩

/-! ### Aggregations -/

/-- What the feeds are behind an aggregation. -/
def taken (zones : Zones) : Zones :=
  { zones with feeds := (takeFeeds zones.pipeline zones.feeds).1 }

theorem taken_sameNews (zones : Zones) : SameNews zones.taken.feeds zones.feeds :=
  takeFeeds_sameNews _ _

theorem aggregate_of_ready (zones : Zones) (ready : Ready zones.feeds) :
    zones.aggregate = zones.taken.publish
      (MultiZone.ofList (states zones.pipeline zones.feeds)) := by
  have all : takeFeeds zones.pipeline zones.feeds =
      (zones.taken.feeds, some (states zones.pipeline zones.feeds)) :=
    Prod.ext rfl (takeFeeds_of_ready _ ready)
  rw [aggregate, all]
  rfl

theorem aggregate_of_not_ready (zones : Zones) (unready : ¬ Ready zones.feeds) :
    zones.aggregate = zones.taken := by
  have part : takeFeeds zones.pipeline zones.feeds = (zones.taken.feeds, none) :=
    Prod.ext rfl (takeFeeds_of_not_ready _ unready)
  rw [aggregate, part]
  rfl

theorem aggregate_pipeline (zones : Zones) : zones.aggregate.pipeline = zones.pipeline := by
  by_cases ready : Ready zones.feeds
  · rw [aggregate_of_ready zones ready]
    rfl
  · rw [aggregate_of_not_ready zones ready]
    rfl

theorem aggregate_sameNews (zones : Zones) : SameNews zones.aggregate.feeds zones.feeds := by
  by_cases ready : Ready zones.feeds
  · rw [aggregate_of_ready zones ready]
    exact zones.taken_sameNews
  · rw [aggregate_of_not_ready zones ready]
    exact zones.taken_sameNews

theorem SameNews.hasLocal_iff (same : SameNews feeds others) : HasLocal feeds ↔ HasLocal others := by
  have seen (feeds : List Feed) : HasLocal (feeds.map Feed.markSeen) ↔ HasLocal feeds := by
    simp [HasLocal, Feed.markSeen]
  rw [← seen, same, seen]

theorem Consistent.taken (consistent : zones.Consistent) : zones.taken.Consistent :=
  ⟨consistent.localServices, fun mesh published =>
    (consistent.hasLocal mesh published).trans zones.taken_sameNews.hasLocal_iff.symm,
    consistent.keyed⟩

theorem Consistent.aggregate (consistent : zones.Consistent) : zones.aggregate.Consistent := by
  by_cases ready : Ready zones.feeds
  · rw [aggregate_of_ready zones ready]
    refine consistent.taken.publish ?_ fun zone => keyed_states
    exact (local_states _ ready).trans zones.taken_sameNews.hasLocal_iff.symm
  · rw [aggregate_of_not_ready zones ready]
    exact consistent.taken

/-! ### Runs -/

/-- What can happen to zones: one of them publishes its services, or the mesh is put together. -/
inductive Event where
  | tell (index : Nat) (services : Services)
  | aggregate

/-- A zone publishes its services. -/
def tell (zones : Zones) (index : Nat) (services : Services) : Zones :=
  { zones with feeds := zones.feeds.modify index (·.tell services) }

def perform (zones : Zones) : Event → Zones
  | .tell index services => zones.tell index services
  | .aggregate => zones.aggregate

/-- Zones of which nothing is known yet. -/
def unknown (pipeline : Pipeline) (zones : List (String × Locality)) : Zones :=
  start (zones.map fun zone => Feed.start zone.1 zone.2) pipeline

def run (pipeline : Pipeline) (zones : List (String × Locality)) (events : List Event) : Zones :=
  events.foldl perform (unknown pipeline zones)

theorem run_snoc (pipeline : Pipeline) (zones : List (String × Locality)) (events : List Event)
    (event : Event) :
    run pipeline zones (events ++ [event]) = (run pipeline zones events).perform event := by
  rw [run, List.foldl_append]
  rfl

theorem mem_modify {feed : Feed} {index : Nat} {f : Feed → Feed}
    (member : feed ∈ feeds.modify index f) : feed ∈ feeds ∨ ∃ old ∈ feeds, feed = f old := by
  obtain ⟨place, found⟩ := List.mem_iff_getElem?.mp member
  rw [List.getElem?_modify] at found
  split at found
  · obtain ⟨old, known, rfl⟩ := Option.map_eq_some_iff.mp found
    exact .inr ⟨old, List.mem_of_getElem? known, rfl⟩
  · exact .inl (List.mem_of_getElem? (by simpa using found))

/-- What a change of a feed does not touch it does not touch in the list either. -/
theorem map_modify {α : Type} {g : Feed → α} {f : Feed → Feed} (same : ∀ feed, g (f feed) = g feed)
    (feeds : List Feed) (index : Nat) : (feeds.modify index f).map g = feeds.map g := by
  refine List.ext_getElem? fun place => ?_
  rw [List.getElem?_map, List.getElem?_map, List.getElem?_modify]
  cases feeds[place]? with
  | none => rfl
  | some feed => by_cases here : index = place <;> simp [here, same]

/-- A change that takes nothing back. -/
def Keeps (f : Feed → Feed) : Prop :=
  ∀ feed : Feed, (f feed).locality = feed.locality ∧
    (feed.latest.value.isSome = true → (f feed).latest.value.isSome = true)

theorem keeps_tell (services : Services) : Keeps (·.tell services) := fun _ => ⟨rfl, fun _ => rfl⟩

theorem hasLocal_modify {f : Feed → Feed} (keeps : Keeps f) (feeds : List Feed) (index : Nat) :
    HasLocal (feeds.modify index f) ↔ HasLocal feeds := by
  have told (feeds : List Feed) : HasLocal feeds ↔ .local ∈ feeds.map Feed.locality := by
    simp [HasLocal]
  rw [told, map_modify fun feed => (keeps feed).1, told]

theorem Ready.modify {f : Feed → Feed} (ready : Ready feeds) (keeps : Keeps f) (index : Nat) :
    Ready (feeds.modify index f) := by
  intro feed member isLocal
  rcases mem_modify member with known | ⟨old, known, rfl⟩
  · exact ready feed known isLocal
  · exact (keeps old).2 (ready old known ((keeps old).1 ▸ isLocal))

theorem Consistent.modify {f : Feed → Feed} (consistent : zones.Consistent) (keeps : Keeps f)
    (index : Nat) : ({ zones with feeds := zones.feeds.modify index f } : Zones).Consistent :=
  ⟨consistent.localServices, fun mesh published => (consistent.hasLocal mesh published).trans
    (hasLocal_modify keeps _ _).symm, consistent.keyed⟩

theorem consistent_unknown (pipeline : Pipeline) (zones : List (String × Locality)) :
    (unknown pipeline zones).Consistent :=
  ⟨rfl, fun _ published => by contradiction, fun _ published => by contradiction⟩

variable {known : List (String × Locality)} {events : List Event}

theorem run_consistent (pipeline : Pipeline) (known : List (String × Locality))
    (events : List Event) : (run pipeline known events).Consistent := by
  induction events using List.reverseRecOn with
  | nil => exact consistent_unknown pipeline known
  | append_singleton events event ih =>
      rw [run_snoc]
      cases event with
      | tell index services => exact ih.modify (keeps_tell services) index
      | aggregate => exact ih.aggregate

theorem run_pipeline (pipeline : Pipeline) (known : List (String × Locality))
    (events : List Event) : (run pipeline known events).pipeline = pipeline := by
  induction events using List.reverseRecOn with
  | nil => rfl
  | append_singleton events event ih =>
      rw [run_snoc]
      cases event with
      | tell => exact ih
      | aggregate => exact (aggregate_pipeline _).trans ih

/-- Zones that have told something have done so for good. -/
theorem Ready.later {earlier : List Event} (ready : Ready (run pipeline known earlier).feeds)
    (later : List Event) : Ready (run pipeline known (earlier ++ later)).feeds := by
  induction later using List.reverseRecOn with
  | nil => rwa [List.append_nil]
  | append_singleton later event ih =>
      rw [← List.append_assoc, run_snoc]
      cases event with
      | tell index services => exact ih.modify (keeps_tell services) index
      | aggregate => exact (aggregate_sameNews _).ready_iff.mpr ih

/-- As long as no aggregation finds all local zones nothing is published. -/
theorem run_unready (unready : ∀ earlier later, events = earlier ++ .aggregate :: later →
    ¬ Ready (run pipeline known earlier).feeds) :
    (run pipeline known events).published = .start none ∧
      (run pipeline known events).localServices = .start none := by
  induction events using List.reverseRecOn with
  | nil => exact ⟨rfl, rfl⟩
  | append_singleton events event ih =>
      have before := ih fun earlier later split => unready earlier (later ++ [event]) (by simp [split])
      rw [run_snoc]
      cases event with
      | tell => exact before
      | aggregate =>
          rw [perform, aggregate_of_not_ready _ (unready events [] rfl)]
          exact before

theorem perform_revision (zones : Zones) (event : Event) :
    let next := zones.perform event
    next.published.revision = zones.published.revision +
        (if next.published.value = zones.published.value then 0 else 1) ∧
      next.localServices.revision = zones.localServices.revision +
        (if next.localServices.value = zones.localServices.value then 0 else 1) := by
  have still : zones.published.revision = zones.published.revision +
        (if zones.published.value = zones.published.value then 0 else 1) ∧
      zones.localServices.revision = zones.localServices.revision +
        (if zones.localServices.value = zones.localServices.value then 0 else 1) := by
    simp
  cases event with
  | tell => exact still
  | aggregate =>
      dsimp only [perform]
      by_cases ready : Ready zones.feeds
      · rw [aggregate_of_ready zones ready, publish_published, publish_localServices,
          Watched.revision_offer, Watched.value_offer]
        refine ⟨rfl, ?_⟩
        split
        · rw [Watched.revision_offer, Watched.value_offer]
          rfl
        · exact still.2
      · rw [aggregate_of_not_ready zones ready]
        exact still

end Zones

end ServiceMesh
