import ServiceMesh.Proofs.ControlPlane
import ServiceMesh.Proofs.Snapshot.Origin

/-! A control plane and those who follow its groups. Whatever happens, all that is stored goes back to
what zones told, each behind the pipeline. -/
namespace ServiceMesh

namespace Zones

/-- What an aggregation publishes anew are the states of all zones that have told something. -/
theorem aggregate_published (zones : Zones) :
    zones.aggregate.published = zones.published ∨
      zones.aggregate.published.value = some (MultiZone.ofList (states zones.pipeline zones.feeds)) := by
  by_cases ready : Ready zones.feeds
  · rw [aggregate_of_ready zones ready, publish_published]
    exact .inr (Watched.value_offer _ _)
  · rw [aggregate_of_not_ready zones ready]
    exact .inl rfl

end Zones

namespace ControlPlane

/-- What can happen to a control plane that is followed: an event, somebody who begins or ends to
follow a group, and any change of the faults or of their being within reach. -/
inductive Step where
  | event (event : Event)
  | subscribe (group : ConsumerGroup)
  | unsubscribe (follower : Follower)
  | faults (changed : FaultService)

def withStore (plane : ControlPlane) (store : SnapshotStore) : ControlPlane :=
  { plane with updater := { plane.updater with store := store } }

def take (plane : ControlPlane) : Step → ControlPlane
  | .event event => plane.perform event
  | .subscribe group => plane.withStore (plane.updater.store.subscribe group).2
  | .unsubscribe follower => plane.withStore (plane.updater.store.unsubscribe follower)
  | .faults changed => { plane with faults := changed }

/-- A control plane behind some steps. -/
def after (plane : ControlPlane) (steps : List Step) : ControlPlane := steps.foldl take plane

theorem after_snoc (plane : ControlPlane) (steps : List Step) (step : Step) :
    plane.after (steps ++ [step]) = (plane.after steps).take step := by
  rw [after, List.foldl_append]
  rfl

variable {plane : ControlPlane} {steps : List Step} {step : Step} {zone : ZoneState}

/-- A poll asks the source of a zone and brings the feed what the source publishes; of an unknown zone
nothing is asked. -/
theorem perform_poll (plane : ControlPlane) (index : Nat) (around : Surroundings) (now : Time) :
    let next := plane.perform (.poll index around now)
    next = plane ∨ ∃ source feed,
      plane.sources[index]? = some source ∧ plane.zones.feeds[index]? = some feed ∧
      let behind := (source.poll plane.config around now).source
      next = { plane with
        sources := plane.sources.set index behind
        zones := { plane.zones with
          feeds := plane.zones.feeds.set index { feed with latest := behind.published } }
        history := next.history } := by
  cases known : plane.sources[index]? with
  | none => exact .inl (by simp [perform, poll, known])
  | some source =>
      cases fed : plane.zones.feeds[index]? with
      | none => exact .inl (by simp [perform, poll, known, fed])
      | some feed =>
          refine .inr ⟨source, feed, rfl, rfl, ?_⟩
          simp only [perform, poll, known, fed]
          rfl

/-- A step is an update, or it leaves alone what is stored and what the next build goes by. -/
theorem take_updater (plane : ControlPlane) (step : Step) :
    (∃ now, (plane.take step).updater =
      (plane.updater.update plane.zones.published plane.faults now).1) ∨
    ∃ store, (∀ group, store.snapshot? group = plane.updater.store.snapshot? group) ∧
      (plane.take step).updater = { plane.updater with store := store } := by
  cases step with
  | faults changed => exact .inr ⟨_, fun _ => rfl, rfl⟩
  | subscribe group => exact .inr ⟨_, SnapshotStore.snapshot?_subscribe _ group, rfl⟩
  | unsubscribe follower => exact .inr ⟨_, SnapshotStore.snapshot?_unsubscribe _ follower, rfl⟩
  | event event =>
      cases event with
      | update now => exact .inl ⟨now, rfl⟩
      | aggregate => exact .inr ⟨_, fun _ => rfl, rfl⟩
      | handle now freshId request => exact .inr ⟨_, fun _ => rfl, rfl⟩
      | poll index around now =>
          refine .inr ⟨plane.updater.store, fun _ => rfl, ?_⟩
          rcases plane.perform_poll index around now with same | ⟨source, feed, -, -, polled⟩
          · rw [take, same]
          · rw [take, polled]

/-- What a step does to the zones: nothing, an aggregation, or a change of the feed that it asks for. -/
theorem take_zones (plane : ControlPlane) (step : Step) :
    let zones := (plane.take step).zones
    zones = plane.zones ∨ zones = plane.zones.aggregate ∨
      ∃ event asked feed, step = .event event ∧ event.Asks asked ∧
        zones = { plane.zones with feeds := plane.zones.feeds.set asked feed } := by
  cases step with
  | subscribe group => exact .inl rfl
  | unsubscribe follower => exact .inl rfl
  | faults changed => exact .inl rfl
  | event event =>
      rcases perform_zones plane event with same | aggregated | ⟨asked, feed, asks, changed⟩
      · exact .inl same
      · exact .inr (.inl aggregated)
      · exact .inr (.inr ⟨event, asked, feed, rfl, asks, changed⟩)

theorem after_pipeline (plane : ControlPlane) (steps : List Step) :
    (plane.after steps).zones.pipeline = plane.zones.pipeline := by
  induction steps using List.reverseRecOn with
  | nil => rfl
  | append_singleton steps step ih =>
      rw [after_snoc, ← ih]
      rcases take_zones (plane.after steps) step with same | aggregated | ⟨_, _, _, -, -, changed⟩
      · rw [same]
      · rw [aggregated, Zones.aggregate_pipeline]
      · rw [changed]

/-! ### Where resources come from -/

/-- A zone was as told, behind the pipeline, at some time on the way. -/
def Told (plane : ControlPlane) (steps : List Step) (zone : ZoneState) : Prop :=
  ∃ front, front <+: steps ∧
    zone ∈ Zones.states plane.zones.pipeline (plane.after front).zones.feeds

theorem Told.later (told : Told plane steps zone) (later : List Step) :
    Told plane (steps ++ later) zone := by
  obtain ⟨front, before, member⟩ := told
  exact ⟨front, before.trans (List.prefix_append steps later), member⟩

/-- The published mesh and all that is stored come from what zones told. -/
structure Traced (plane : ControlPlane) (steps : List Step) : Prop where
  coupled : (plane.after steps).updater.Coupled
  published : ∀ mesh, (plane.after steps).zones.published.value = some mesh →
    ∀ zone ∈ mesh.zones, Told plane steps zone
  stored : (plane.after steps).updater.From (Told plane steps)

theorem Traced.snoc (traced : Traced plane steps) (step : Step) :
    Traced plane (steps ++ [step]) := by
  obtain ⟨coupled, published, stored⟩ := traced
  have still (zone : ZoneState) (told : Told plane steps zone) : Told plane (steps ++ [step]) zone :=
    told.later [step]
  refine ⟨?_, fun mesh shown zone member => ?_, ?_⟩
  · rw [after_snoc]
    rcases take_updater (plane.after steps) step with ⟨now, updated⟩ | ⟨store, same, stays⟩
    · rw [updated]
      exact coupled.update _ _ now
    · rw [stays]
      exact coupled.withStore same
  · rw [after_snoc] at shown
    rcases take_zones (plane.after steps) step with same | aggregated | ⟨_, _, _, -, -, changed⟩
    · rw [same] at shown
      exact still zone (published mesh shown zone member)
    · rw [aggregated] at shown
      rcases Zones.aggregate_published (plane.after steps).zones with same | anew
      · rw [same] at shown
        exact still zone (published mesh shown zone member)
      · obtain rfl := Option.some.inj (anew.symm.trans shown)
        refine ⟨steps, List.prefix_append steps [step], ?_⟩
        rw [← after_pipeline plane steps]
        exact Zones.mem_ofList.mp member
    · rw [changed] at shown
      exact still zone (published mesh shown zone member)
  · rw [after_snoc]
    rcases take_updater (plane.after steps) step with ⟨now, updated⟩ | ⟨store, same, stays⟩
    · rw [updated]
      exact (stored.update coupled published _ now).mono still
    · rw [stays]
      refine Updater.From.mono ⟨stored.last, fun group snapshot found => ?_⟩ still
      exact stored.stored group snapshot ((same group).symm.trans found)

variable {config : SourceConfig} {known : List (Feed × ZoneSource)} {pipeline : Pipeline}
  {builder : BuilderConfig}

/-- Along every run of a control plane all goes back to what zones told. -/
theorem traced (config : SourceConfig) (known : List (Feed × ZoneSource)) (pipeline : Pipeline)
    (builder : BuilderConfig) (steps : List Step) :
    Traced (start config known pipeline builder) steps := by
  induction steps using List.reverseRecOn with
  | nil => exact ⟨.start builder, fun mesh shown => by contradiction, .start _ builder⟩
  | append_singleton steps step ih => exact ih.snoc step

/-- The content of each stored snapshot comes from what zones told. -/
theorem stored_from {group : ConsumerGroup} {snapshot : Snapshot}
    (stored : ((start config known pipeline builder).after steps).updater.store.snapshot? group =
      some snapshot) :
    snapshot.content.From (Told (start config known pipeline builder) steps) :=
  (traced config known pipeline builder steps).stored.stored group snapshot stored

/-- The first update that finds services gives a group that is followed what is made of them. -/
theorem first_update {mesh : MultiZone} {group : ConsumerGroup}
    (published : ((start config known pipeline builder).after steps).zones.published.value =
      some mesh)
    (busy : mesh.hasNoServices = false)
    (unbuilt : ((start config known pipeline builder).after steps).updater.last = none)
    (followed : group ∈
      ((start config known pipeline builder).after steps).updater.store.prune.groups)
    (now : Time) :
    let before := (start config known pipeline builder).after steps
    ∃ snapshot, ((start config known pipeline builder).after
        (steps ++ [.event (.update now)])).updater.store.snapshot? group = some snapshot ∧
      snapshot.content = before.updater.builder.config.content group
        (before.updater.builder.config.global mesh none)
        (before.updater.faultsFor before.faults now).1 := by
  intro before
  obtain ⟨coupled, -, -⟩ := traced config known pipeline builder steps
  rw [after_snoc]
  exact coupled.update_first unbuilt published busy followed before.faults now

end ControlPlane

end ServiceMesh
