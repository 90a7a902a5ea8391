import ServiceMesh.ControlPlane
import ServiceMesh.Proofs.Zone.Aggregation

/-! A control plane over many events. What it holds of its own zone always comes from the pipeline,
and what a zone told last stays until the zone is asked again. -/
namespace ServiceMesh

namespace Zones

variable {zones : Zones} {pipeline : Pipeline} {feeds : List Feed} {services : Services}

/-- The local services come out of the pipeline. -/
def Screened (zones : Zones) : Prop :=
  ∀ services, zones.localServices.value = some services →
    ∃ raw, services = zones.pipeline.applyTo raw

theorem exists_raw_of_mem_states {state : ZoneState} (member : state ∈ states pipeline feeds) :
    ∃ raw, state.services = pipeline.applyTo raw := by
  obtain ⟨feed, -, told⟩ := List.mem_filterMap.mp member
  obtain ⟨raw, -, rfl⟩ := Option.map_eq_some_iff.mp told
  exact ⟨raw, rfl⟩

theorem Screened.aggregate (screened : zones.Screened) : zones.aggregate.Screened := by
  intro services held
  rw [aggregate_pipeline]
  by_cases ready : Ready zones.feeds
  · rw [aggregate_of_ready zones ready, publish_localServices] at held
    split at held
    case h_1 services found =>
      rw [Watched.value_offer] at held
      obtain rfl := Option.some.inj held
      obtain ⟨state, first, rfl⟩ := Option.map_eq_some_iff.mp found
      exact exists_raw_of_mem_states (mem_ofList.mp (List.mem_of_find?_eq_some first))
    case h_2 => exact screened services held
  · rw [aggregate_of_not_ready zones ready] at held
    exact screened services held

end Zones

namespace ControlPlane

/-- What can happen to a control plane. -/
inductive Event where
  | poll (index : Nat) (around : Surroundings) (now : Time)
  | aggregate
  | update (now : Time)
  | handle (now : Time) (freshId : String) (request : Admin.Request)

/-- A zone is asked for its services. -/
def Event.Asks (index : Nat) : Event → Prop
  | .poll asked _ _ => asked = index
  | _ => False

def perform (plane : ControlPlane) : Event → ControlPlane
  | .poll index around now => ((plane.poll index around now).map Prod.snd).getD plane
  | .aggregate => plane.aggregate
  | .update now => plane.update now
  | .handle now freshId request => (plane.handle now freshId request).2

def run (plane : ControlPlane) (events : List Event) : ControlPlane := events.foldl perform plane

theorem run_snoc (plane : ControlPlane) (events : List Event) (event : Event) :
    plane.run (events ++ [event]) = (plane.run events).perform event := by
  rw [run, List.foldl_append]
  rfl

variable {plane : ControlPlane} {index : Nat}

/-- A control plane with the standard pipeline, some time after its start. -/
def Standard (denylist : Option Denylist) (plane : ControlPlane) : Prop :=
  ∃ config known builder past,
    plane = (start config known (.standard denylist) builder).run past

/-- A poll of a zone goes to its source, and brings its feed what the source publishes. -/
theorem poll_eq {source : ZoneSource} {feed : Feed} (known : plane.sources[index]? = some source)
    (fed : plane.zones.feeds[index]? = some feed) (around : Surroundings) (now : Time) :
    let pass := source.poll plane.config around now
    ∃ next, plane.poll index around now = some (pass, next) ∧ next.zones =
      { plane.zones with
        feeds := plane.zones.feeds.set index { feed with latest := pass.source.published } } := by
  simp only [poll, known, fed]
  exact ⟨_, rfl, rfl⟩

/-- What an event does to the zones: nothing, an aggregation, or a change of the feed that it asks
for. -/
theorem perform_zones (plane : ControlPlane) (event : Event) :
    let zones := (plane.perform event).zones
    zones = plane.zones ∨ zones = plane.zones.aggregate ∨
      ∃ asked feed, event.Asks asked ∧
        zones = { plane.zones with feeds := plane.zones.feeds.set asked feed } := by
  cases event with
  | aggregate => exact .inr (.inl rfl)
  | update => exact .inl rfl
  | handle => exact .inl rfl
  | poll asked around now =>
      dsimp only [perform]
      cases known : plane.sources[asked]? with
      | none => exact .inl (by simp [poll, known])
      | some source =>
          cases fed : plane.zones.feeds[asked]? with
          | none => exact .inl (by simp [poll, known, fed])
          | some feed =>
              obtain ⟨next, polled, zones⟩ := poll_eq known fed around now
              rw [polled]
              exact .inr (.inr ⟨asked, _, rfl, zones⟩)

theorem run_pipeline (plane : ControlPlane) (events : List Event) :
    (plane.run events).zones.pipeline = plane.zones.pipeline := by
  induction events using List.reverseRecOn with
  | nil => rfl
  | append_singleton events event ih =>
      rw [run_snoc, ← ih]
      rcases perform_zones (plane.run events) event with same | aggregated | ⟨_, _, -, changed⟩
      · rw [same]
      · rw [aggregated, Zones.aggregate_pipeline]
      · rw [changed]

theorem screened_run (screened : plane.zones.Screened) (events : List Event) :
    (plane.run events).zones.Screened := by
  induction events using List.reverseRecOn with
  | nil => exact screened
  | append_singleton events event ih =>
      rw [run_snoc]
      rcases perform_zones (plane.run events) event with same | aggregated | ⟨_, _, -, changed⟩
      · rw [same]
        exact ih
      · rw [aggregated]
        exact ih.aggregate
      · rw [changed]
        exact ih

theorem Standard.pipeline {denylist : Option Denylist} (ran : plane.Standard denylist) :
    plane.zones.pipeline = .standard denylist := by
  obtain ⟨config, known, builder, past, rfl⟩ := ran
  exact run_pipeline _ past

theorem Standard.screened {denylist : Option Denylist} (ran : plane.Standard denylist) :
    plane.zones.Screened := by
  obtain ⟨config, known, builder, past, rfl⟩ := ran
  exact screened_run (fun _ held => by contradiction) past

/-- What a zone told last stays until the zone is asked again. -/
theorem run_told (plane : ControlPlane) (events : List Event)
    (others : ∀ event ∈ events, ¬ event.Asks index) :
    (plane.run events).zones.feeds[index]?.map Feed.markSeen =
      plane.zones.feeds[index]?.map Feed.markSeen := by
  induction events using List.reverseRecOn with
  | nil => rfl
  | append_singleton events event ih =>
      have before := ih fun other member => others other (List.mem_append_left _ member)
      have otherwise := others event (by simp)
      rw [run_snoc, ← before]
      rcases perform_zones (plane.run events) event with
        same | aggregated | ⟨asked, feed, asks, changed⟩
      · rw [same]
      · have told := congrArg (·[index]?) (Zones.aggregate_sameNews (plane.run events).zones)
        simpa [aggregated, List.getElem?_map] using told
      · have apart : asked ≠ index := fun same => otherwise (same ▸ asks)
        rw [changed, List.getElem?_set_ne apart]

/-- What a poll brings to a feed stays there until the zone is asked again. -/
theorem poll_told {source : ZoneSource} {feed : Feed} (known : plane.sources[index]? = some source)
    (fed : plane.zones.feeds[index]? = some feed) (around : Surroundings) (now : Time) :
    let pass := source.poll plane.config around now
    ∃ next, plane.poll index around now = some (pass, next) ∧
      ∀ later, (∀ event ∈ later, ¬ event.Asks index) →
        (next.run later).zones.pipeline = plane.zones.pipeline ∧
        ∃ current, (next.run later).zones.feeds[index]? = some current ∧
          current.zone = feed.zone ∧ current.locality = feed.locality ∧
          current.latest = pass.source.published := by
  obtain ⟨next, polled, zones⟩ := poll_eq known fed around now
  refine ⟨next, polled, fun later others => ⟨?_, ?_⟩⟩
  · rw [run_pipeline, zones]
  · have told := next.run_told later others
    rw [zones, List.getElem?_set_self (List.getElem?_eq_some_iff.mp fed).1] at told
    obtain ⟨current, found, same⟩ := Option.map_eq_some_iff.mp told
    obtain ⟨zone, locality, latest, -, -⟩ := Feed.mk.inj same
    exact ⟨current, found, zone, locality, latest⟩

end ControlPlane

end ServiceMesh
