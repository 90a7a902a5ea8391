import Mathlib.Logic.Relation
import ServiceMesh.Proofs.Zone.Aggregation

/-! The loop that puts the mesh together, in small steps. It takes one feed after the other, and
between any two of its steps the zones may publish their services. When it waits and no feed has
news, what it published last is made from the latest services of all zones. -/
namespace ServiceMesh.Zones

/-- The feed of a zone that will publish nothing more. -/
def close (feed : Feed) : Feed := { feed with closed := true }

/-- Where the loop stands: it waits for news, or it has taken some feeds and has the states of their
zones at hand. -/
inductive Stage where
  | waiting
  | reading (taken : Nat) (found : List ZoneState)
  | ended

structure World where
  zones : Zones
  stage : Stage

namespace World

/-- The loop begins with an aggregation. -/
def start (pipeline : Pipeline) (known : List (String × Locality)) : World :=
  ⟨unknown pipeline known, .reading 0 []⟩

def feeds (world : World) : List Feed := world.zones.feeds

/-- Changes the feed at a place. -/
def modify (world : World) (index : Nat) (f : Feed → Feed) : World :=
  { world with zones := { world.zones with feeds := world.zones.feeds.modify index f } }

/-- Takes a feed. A local one that has told nothing ends the aggregation. -/
def take (world : World) (taken : Nat) (found : List ZoneState) (feed : Feed) : World :=
  { world.modify taken Feed.markSeen with
    stage :=
      if feed.locality = .local ∧ feed.latest.value = none then .waiting
      else .reading (taken + 1) (found ++ (feed.state? world.zones.pipeline).toList) }

def publish (world : World) (found : List ZoneState) : World :=
  ⟨world.zones.publish (MultiZone.ofList found), .waiting⟩

end World

/-- What can happen next: a step of the loop, or of a zone, which publishes its services or ends. -/
inductive Step : World → World → Prop
  | hear {world : World} {index : Nat} {feed : Feed} : world.stage = .waiting →
      world.feeds[index]? = some feed → feed.hasNews = true →
      Step world { world.modify index Feed.markSeen with stage := .reading 0 [] }
  | stop {world : World} : world.stage = .waiting → Step world { world with stage := .ended }
  | take {world : World} {taken : Nat} {found : List ZoneState} {feed : Feed} :
      world.stage = .reading taken found → world.feeds[taken]? = some feed →
      Step world (world.take taken found feed)
  | publish {world : World} {found : List ZoneState} :
      world.stage = .reading world.feeds.length found → Step world (world.publish found)
  | tell {world : World} (index : Nat) (services : Services) :
      Step world (world.modify index (·.tell services))
  | close {world : World} (index : Nat) :
      Step world (world.modify index close)

/-- Any number of steps. -/
abbrev Steps : World → World → Prop := Relation.ReflTransGen Step

variable {pipeline : Pipeline} {known : List (String × Locality)} {world next : World}
  {feeds : List Feed}

/-! ### Steps that nobody interrupts -/

theorem modify_front (front rest : List Feed) (feed : Feed) (f : Feed → Feed) :
    (front ++ feed :: rest).modify front.length f = front ++ f feed :: rest := by
  induction front with
  | nil => rfl
  | cons head front ih => exact congrArg (head :: ·) ih

theorem take_steps (zones : Zones) (front back : List Feed) (found : List ZoneState) :
    Steps ⟨{ zones with feeds := front ++ back }, .reading front.length found⟩
      ⟨match (takeFeeds zones.pipeline back).2 with
        | none => { zones with feeds := front ++ (takeFeeds zones.pipeline back).1 }
        | some states => { zones with feeds := front ++ (takeFeeds zones.pipeline back).1 }.publish
            (MultiZone.ofList (found ++ states)), .waiting⟩ := by
  induction back generalizing front found with
  | nil =>
      simp only [takeFeeds, List.append_nil]
      exact .single (.publish rfl)
  | cons feed rest ih =>
      have step : Step ⟨{ zones with feeds := front ++ feed :: rest }, .reading front.length found⟩
          (World.take _ _ found feed) := .take rfl (by simp [World.feeds])
      simp only [World.take, World.modify, modify_front] at step
      rw [takeFeeds_cons]
      by_cases awaited : feed.locality = .local ∧ feed.latest.value = none
      · rw [if_pos awaited] at step ⊢
        exact .single step
      · rw [if_neg awaited] at step ⊢
        have later := ih (front ++ [feed.markSeen]) (found ++ (feed.state? zones.pipeline).toList)
        simp only [List.length_append, List.length_singleton, List.append_assoc,
          List.singleton_append] at later
        refine .head step ?_
        convert later using 2
        cases (takeFeeds zones.pipeline rest).2 <;> rfl

/-- An aggregation from beginning to end. -/
theorem aggregate_steps (zones : Zones) :
    Steps ⟨zones, .reading 0 []⟩ ⟨zones.aggregate, .waiting⟩ := by
  have steps := take_steps zones [] zones.feeds []
  unfold aggregate
  generalize takeFeeds zones.pipeline zones.feeds = taken at steps ⊢
  obtain ⟨feeds, _ | states⟩ := taken <;> exact steps

theorem hasNews_of_wakeup {zones : Zones} {index : Nat} (woken : zones.wakeup = some (.news index)) :
    ∃ feed, zones.feeds[index]? = some feed ∧ feed.hasNews = true := by
  unfold wakeup at woken
  split at woken
  · contradiction
  · split at woken
    case isFalse => cases woken
    case isTrue news =>
      cases woken
      cases found : zones.feeds[index]? with
      | none => simp [found] at news
      | some feed => exact ⟨feed, rfl, by simpa [found] using news⟩

/-- Whatever is done until there is no more news is done in steps. -/
theorem settle_steps (zones : Zones) : Steps ⟨zones, .waiting⟩ ⟨zones.settle.2, .waiting⟩ := by
  unfold settle
  generalize zones.feeds.length + 1 = fuel
  induction fuel generalizing zones with
  | zero => exact .refl
  | succ fuel ih =>
      unfold settleWithin
      split
      · exact .refl
      · exact .refl
      case h_3 index woken =>
        obtain ⟨feed, found, news⟩ := hasNews_of_wakeup woken
        exact (Relation.ReflTransGen.head (.hear rfl found news) (aggregate_steps _)).trans (ih _)

/-! ### What holds of all worlds -/

/-- No feed has news. -/
def Quiet (feeds : List Feed) : Prop := ∀ feed ∈ feeds, feed.hasNews = false

/-- What holds of the feeds and of all that is published, wherever the loop stands. -/
structure World.Steady (world : World) (pipeline : Pipeline) : Prop where
  pipeline_eq : world.zones.pipeline = pipeline
  consistent : world.zones.Consistent
  seen_le : ∀ feed ∈ world.feeds, feed.seen ≤ feed.latest.revision
  ready : world.zones.published.value ≠ none → Ready world.feeds

/-- What holds of a world where the loop stands at some place. -/
def World.Fits (world : World) : Stage → Prop
  | .waiting => Quiet world.feeds → Ready world.feeds →
      world.zones.published.value =
        some (MultiZone.ofList (states world.zones.pipeline world.feeds))
  | .reading taken found => Ready (world.feeds.take taken) ∧
      ((∃ zone ∈ found, zone.locality = .local) ↔ HasLocal (world.feeds.take taken)) ∧
      (∀ zone ∈ found, zone.services.Keyed) ∧
      (Quiet (world.feeds.take taken) →
        found = states world.zones.pipeline (world.feeds.take taken))
  | .ended => True

structure World.Sound (world : World) (pipeline : Pipeline) : Prop where
  steady : world.Steady pipeline
  fits : world.Fits world.stage

theorem keeps_markSeen : Keeps Feed.markSeen := fun _ => ⟨rfl, id⟩

theorem keeps_close : Keeps close := fun _ => ⟨rfl, id⟩

theorem World.Steady.modify {f : Feed → Feed} (steady : world.Steady pipeline) (keeps : Keeps f)
    (seen_le : ∀ feed, feed.seen ≤ feed.latest.revision → (f feed).seen ≤ (f feed).latest.revision)
    (index : Nat) : (world.modify index f).Steady pipeline := by
  refine ⟨steady.pipeline_eq, steady.consistent.modify keeps index, fun feed member => ?_,
    fun published => (steady.ready published).modify keeps index⟩
  rcases mem_modify member with known | ⟨old, known, rfl⟩
  · exact steady.seen_le feed known
  · exact seen_le old (steady.seen_le old known)

/-- The loop starts over. -/
theorem World.Steady.reading (steady : world.Steady pipeline) (stage : world.stage = .reading 0 []) :
    world.Sound pipeline := by
  refine ⟨steady, ?_⟩
  rw [stage]
  refine ⟨fun _ member => ?_, ?_, fun _ member => ?_, fun _ => rfl⟩
  · exact absurd member List.not_mem_nil
  · simp [HasLocal]
  · exact absurd member List.not_mem_nil

theorem sound_start (pipeline : Pipeline) (known : List (String × Locality)) :
    (World.start pipeline known).Sound pipeline := by
  refine World.Steady.reading ⟨rfl, consistent_unknown pipeline known, fun feed member => ?_,
    fun published => absurd rfl published⟩ rfl
  obtain ⟨zone, -, rfl⟩ := List.mem_map.mp member
  exact Nat.le_refl 0

/-- What a zone publishes is news, so that a list of feeds without news is as it was. -/
theorem modify_tell_of_quiet {index : Nat} {services : Services}
    (seen_le : ∀ feed ∈ feeds, feed.seen ≤ feed.latest.revision)
    (quiet : Quiet (feeds.modify index (·.tell services))) :
    feeds.modify index (·.tell services) = feeds := by
  refine List.ext_getElem? fun place => ?_
  cases known : feeds[place]? with
  | none => rw [List.getElem?_modify, known, Option.map_eq_map, Option.map_none]
  | some feed =>
      have found : (feeds.modify index (·.tell services))[place]? =
          some (if index = place then feed.tell services else feed) := by
        rw [List.getElem?_modify, known]
        rfl
      rw [found]
      split
      case isFalse => rfl
      case isTrue here =>
        rw [if_pos here] at found
        have news := quiet _ (List.mem_of_getElem? found)
        have seen := seen_le feed (List.mem_of_getElem? known)
        simp only [Feed.hasNews, Watched.isNewsSince, Feed.tell, Watched.set,
          bne_eq_false_iff_eq] at news
        omega

theorem World.Sound.tell (sound : world.Sound pipeline) (index : Nat) (services : Services) :
    (world.modify index (·.tell services)).Sound pipeline := by
  obtain ⟨steady, fits⟩ := sound
  refine ⟨steady.modify (keeps_tell services) (fun _ => Nat.le_succ_of_le) index, ?_⟩
  obtain ⟨zones, stage⟩ := world
  cases stage with
  | ended => trivial
  | waiting =>
      intro quiet ready
      have same : zones.feeds.modify index (·.tell services) = zones.feeds :=
        modify_tell_of_quiet steady.seen_le quiet
      simp only [World.modify, World.feeds, same] at quiet ready ⊢
      exact fits quiet ready
  | reading taken found =>
      obtain ⟨ready, isLocal, keyed, current⟩ := fits
      simp only [World.Fits, World.modify, World.feeds, List.take_modify] at ready isLocal current ⊢
      refine ⟨ready.modify (keeps_tell services) index,
        isLocal.trans (hasLocal_modify (keeps_tell services) _ _).symm, keyed, fun quiet => ?_⟩
      have same : (zones.feeds.take taken).modify index (·.tell services) = zones.feeds.take taken :=
        modify_tell_of_quiet (fun feed member => steady.seen_le feed (List.mem_of_mem_take member))
          quiet
      rw [same] at quiet ⊢
      exact current quiet

theorem quiet_close (feeds : List Feed) (index : Nat) :
    Quiet (feeds.modify index close) ↔ Quiet feeds := by
  have told (feeds : List Feed) : Quiet feeds ↔ true ∉ feeds.map Feed.hasNews := by
    simp [Quiet]
  have unread (feed : Feed) : (close feed).hasNews = feed.hasNews := rfl
  rw [told, map_modify unread, told]

theorem states_close (feeds : List Feed) (index : Nat) :
    states pipeline (feeds.modify index close) = states pipeline feeds := by
  have told (feeds : List Feed) :
      states pipeline feeds = (feeds.map (Feed.state? pipeline)).filterMap id := by
    rw [List.filterMap_map]
    rfl
  have unread (feed : Feed) : (close feed).state? pipeline = feed.state? pipeline := rfl
  rw [told, map_modify unread, told]

theorem ready_close (feeds : List Feed) (index : Nat) :
    Ready (feeds.modify index close) ↔ Ready feeds := by
  have told (feeds : List Feed) : Ready feeds ↔ ∀ kept ∈ feeds.map fun feed =>
      (feed.locality, feed.latest.value.isSome), kept.1 = .local → kept.2 = true := by
    rw [List.forall_mem_map]
    rfl
  have unread (feed : Feed) : ((close feed).locality, (close feed).latest.value.isSome) =
      (feed.locality, feed.latest.value.isSome) := rfl
  rw [told, map_modify unread, told]

theorem World.Sound.close (sound : world.Sound pipeline) (index : Nat) :
    (world.modify index close).Sound pipeline := by
  obtain ⟨steady, fits⟩ := sound
  refine ⟨steady.modify keeps_close (fun _ => id) index, ?_⟩
  obtain ⟨zones, stage⟩ := world
  cases stage with
  | ended => trivial
  | waiting =>
      simp only [World.Fits, World.modify, World.feeds, quiet_close, ready_close, states_close]
      exact fits
  | reading taken found =>
      simp only [World.Fits, World.modify, World.feeds, List.take_modify, quiet_close, ready_close,
        states_close, hasLocal_modify keeps_close]
      exact fits

theorem exists_split {index : Nat} {feed : Feed} (found : feeds[index]? = some feed) :
    ∃ front rest, feeds = front ++ feed :: rest ∧ index = front.length := by
  obtain ⟨bound, -⟩ := List.getElem?_eq_some_iff.mp found
  refine ⟨_, _, eq_around found, ?_⟩
  rw [List.length_take, Nat.min_eq_left bound.le]

theorem World.Steady.seen (steady : world.Steady pipeline) (index : Nat) :
    (world.modify index Feed.markSeen).Steady pipeline :=
  steady.modify keeps_markSeen (fun _ _ => Nat.le_refl _) index

/-- Where the loop stands is no matter of the feeds. -/
theorem World.Steady.at (steady : world.Steady pipeline) (stage : Stage) :
    { world with stage := stage }.Steady pipeline :=
  ⟨steady.pipeline_eq, steady.consistent, steady.seen_le, steady.ready⟩

theorem states_singleton (feed : Feed) :
    (feed.state? pipeline).toList = states pipeline [feed.markSeen] := by
  have same : feed.markSeen.state? pipeline = feed.state? pipeline := rfl
  rw [states, List.filterMap_cons, same]
  cases feed.state? pipeline <;> rfl

theorem hasLocal_append (front rest : List Feed) :
    HasLocal (front ++ rest) ↔ HasLocal front ∨ HasLocal rest := by
  simp only [HasLocal, List.mem_append, or_and_right, exists_or]

theorem World.Sound.take (sound : world.Sound pipeline) {taken : Nat} {found : List ZoneState}
    {feed : Feed} (stage : world.stage = .reading taken found)
    (next : world.feeds[taken]? = some feed) : (world.take taken found feed).Sound pipeline := by
  obtain ⟨steady, fits⟩ := sound
  obtain ⟨front, rest, split, rfl⟩ := exists_split next
  refine ⟨(steady.seen front.length).at _, ?_⟩
  rw [stage] at fits
  simp only [World.Fits, split, List.take_left'] at fits
  obtain ⟨ready, isLocal, keyed, current⟩ := fits
  have behind : (world.take front.length found feed).feeds = front ++ feed.markSeen :: rest := by
    rw [← modify_front, ← split]
    rfl
  by_cases awaited : feed.locality = .local ∧ feed.latest.value = none
  · have waits : (world.take front.length found feed).stage = .waiting := if_pos awaited
    rw [waits]
    intro _ ready
    rw [behind] at ready
    have told := ready feed.markSeen (by simp) awaited.1
    simp [Feed.markSeen, awaited.2] at told
  · have reads : (world.take front.length found feed).stage =
        .reading (front.length + 1) (found ++ (feed.state? world.zones.pipeline).toList) :=
      if_neg awaited
    have first : (front ++ feed.markSeen :: rest).take (front.length + 1) =
        front ++ [feed.markSeen] := by
      rw [List.append_cons, List.take_left' (by simp)]
    have own : Ready [feed.markSeen] :=
      ready_cons.mpr ⟨awaited, fun _ member => absurd member List.not_mem_nil⟩
    rw [reads, states_singleton]
    simp only [World.Fits, behind, first]
    refine ⟨?_, ?_, fun zone member => ?_, fun quiet => ?_⟩
    · exact List.forall_mem_append.mpr ⟨ready, own⟩
    · rw [hasLocal_append, ← isLocal, ← local_states world.zones.pipeline own]
      simp only [List.mem_append, or_and_right, exists_or]
    · rcases List.mem_append.mp member with known | new
      · exact keyed zone known
      · exact keyed_states new
    · rw [current fun other member => quiet other (List.mem_append_left _ member)]
      exact List.filterMap_append.symm

theorem World.Sound.publish (sound : world.Sound pipeline) {found : List ZoneState}
    (stage : world.stage = .reading world.feeds.length found) :
    (world.publish found).Sound pipeline := by
  obtain ⟨steady, fits⟩ := sound
  rw [stage] at fits
  simp only [World.Fits, List.take_length] at fits
  obtain ⟨ready, isLocal, keyed, current⟩ := fits
  refine ⟨⟨steady.pipeline_eq, steady.consistent.publish isLocal keyed, steady.seen_le,
    fun _ => ready⟩, fun quiet _ => ?_⟩
  have all : found = states (world.publish found).zones.pipeline (world.publish found).feeds :=
    current quiet
  rw [← all]
  exact Watched.value_offer _ _

theorem Step.sound (step : Step world next) (sound : world.Sound pipeline) :
    next.Sound pipeline := by
  cases step with
  | hear => exact ((sound.steady.seen _).at (.reading 0 [])).reading rfl
  | stop => exact ⟨sound.steady.at .ended, trivial⟩
  | take stage next => exact sound.take stage next
  | publish stage => exact sound.publish stage
  | tell index services => exact sound.tell index services
  | close index => exact sound.close index

theorem Steps.sound (steps : Steps (World.start pipeline known) world) : world.Sound pipeline := by
  induction steps with
  | refl => exact sound_start pipeline known
  | tail _ step ih => exact step.sound ih

/-! ### What is left when no news is left -/

def countNews (feeds : List Feed) : Nat := feeds.countP Feed.hasNews

theorem hasNews_markSeen (feed : Feed) : feed.markSeen.hasNews = false := by
  simp [Feed.hasNews, Feed.markSeen, Watched.isNewsSince]

theorem countNews_takeFeeds (pipeline : Pipeline) (feeds : List Feed) :
    countNews (takeFeeds pipeline feeds).1 ≤ countNews feeds := by
  induction feeds with
  | nil => exact Nat.le_refl _
  | cons feed rest ih =>
      unfold countNews at ih ⊢
      rw [takeFeeds_cons]
      split
      case isTrue =>
        rw [List.countP_cons, List.countP_cons, hasNews_markSeen]
        simp
      case isFalse =>
        rw [List.countP_cons, List.countP_cons, hasNews_markSeen]
        simp only [Bool.false_eq_true, if_false]
        omega

theorem countNews_aggregate (zones : Zones) :
    countNews zones.aggregate.feeds ≤ countNews zones.feeds := by
  have taken := countNews_takeFeeds zones.pipeline zones.feeds
  by_cases ready : Ready zones.feeds
  · rwa [aggregate_of_ready zones ready]
  · rwa [aggregate_of_not_ready zones ready]

theorem countNews_markSeen {index : Nat} {feed : Feed} (found : feeds[index]? = some feed)
    (news : feed.hasNews = true) : countNews (feeds.modify index Feed.markSeen) < countNews feeds := by
  obtain ⟨front, rest, rfl, rfl⟩ := exists_split found
  rw [modify_front]
  simp [countNews, List.countP_append, hasNews_markSeen, news]

theorem quiet_of_wakeup {zones : Zones} (idle : zones.wakeup = none) : Quiet zones.feeds := by
  unfold wakeup at idle
  split at idle
  case h_1 none =>
    intro feed member
    have still := List.findIdx?_eq_none_iff.mp none feed member
    exact (Bool.or_eq_false_iff.mp still).1
  case h_2 => split at idle <;> contradiction

/-- The fuel with which the loop settles lasts until no feed has news. -/
theorem settleWithin_quiet {fuel : Nat} {zones : Zones} (enough : countNews zones.feeds < fuel)
    (running : (settleWithin fuel zones).1 = true) : Quiet (settleWithin fuel zones).2.feeds := by
  induction fuel generalizing zones with
  | zero => exact absurd enough (Nat.not_lt_zero _)
  | succ fuel ih =>
      unfold settleWithin at running ⊢
      cases woken : zones.wakeup with
      | none => exact quiet_of_wakeup woken
      | some wakeup =>
          cases wakeup with
          | closed => simp [woken] at running
          | news index =>
              simp only [woken] at running ⊢
              refine ih (Nat.lt_of_le_of_lt (countNews_aggregate _) ?_) running
              obtain ⟨feed, found, news⟩ := hasNews_of_wakeup woken
              exact Nat.lt_of_lt_of_le (countNews_markSeen found news) (Nat.le_of_lt_succ enough)

theorem settle_quiet {zones : Zones} (running : zones.settle.1 = true) : Quiet zones.settle.2.feeds :=
  settleWithin_quiet (Nat.lt_succ_of_le List.countP_le_length) running

/-- Whatever the zones publish, and whenever the mesh is put together: nothing is published before
an aggregation finds that all local zones have told something, and from then on each one publishes the
latest services of all zones that have, behind the pipeline and each under its own name, and of the
first local zone beside them. Whoever follows either value hears of every difference, once, and of
nothing else. The same is published when the loop waits without news, though the zones may have
published at any time, and that is where it settles. -/
theorem publishes_latest (pipeline : Pipeline) (known : List (String × Locality)) :
    (∀ events,
      let zones := run pipeline known events
      ((∀ earlier later, events = earlier ++ .aggregate :: later →
          ¬ Ready (run pipeline known earlier).feeds) →
        zones.published = .start none ∧ zones.localServices = .start none) ∧
      (∀ earlier later, events = earlier ++ later → Ready (run pipeline known earlier).feeds →
        zones.aggregate.published.value =
          some (MultiZone.ofList (states pipeline zones.feeds))) ∧
      (∀ mesh, zones.published.value = some mesh → ∀ zone ∈ mesh.zones, ∀ name service,
        zone.services.get? name = some service → service.name = name) ∧
      zones.localServices.value = zones.published.value.bind MultiZone.localServices? ∧
      ∀ event,
        let next := zones.perform event
        next.published.revision = zones.published.revision +
          (if next.published.value = zones.published.value then 0 else 1) ∧
        next.localServices.revision = zones.localServices.revision +
          (if next.localServices.value = zones.localServices.value then 0 else 1)) ∧
    ∀ world, Steps (World.start pipeline known) world → world.stage = .waiting →
      (Quiet world.feeds → Ready world.feeds →
        world.zones.published.value =
            some (MultiZone.ofList (states pipeline world.feeds)) ∧
          world.zones.localServices.value =
            (MultiZone.ofList (states pipeline world.feeds)).localServices?) ∧
      Steps world ⟨world.zones.settle.2, .waiting⟩ ∧
      (world.zones.settle.1 = true → Quiet world.zones.settle.2.feeds) := by
  refine ⟨fun events => ⟨run_unready, ?_,
    (run_consistent pipeline known events).keyed, (run_consistent pipeline known events).localServices,
    perform_revision _⟩, fun world steps waits => ⟨fun quiet ready => ?_, ?_, settle_quiet⟩⟩
  · rintro earlier later rfl ready
    have published := aggregate_of_ready _ (ready.later later)
    rw [published, publish_published, Watched.value_offer, run_pipeline]
  · obtain ⟨steady, fits⟩ := steps.sound
    rw [waits] at fits
    have published := fits quiet ready
    rw [steady.pipeline_eq] at published
    refine ⟨published, ?_⟩
    rw [steady.consistent.localServices, published, Option.bind_some]
  · obtain ⟨zones, stage⟩ := world
    obtain rfl : stage = .waiting := waits
    exact settle_steps zones

end ServiceMesh.Zones
