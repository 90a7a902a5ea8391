import ServiceMesh.Proofs.Pipeline.Standard
import ServiceMesh.Proofs.Registry.Learning
import ServiceMesh.Proofs.Zone.Remote

/-! Where instances without weight come from. No registry and no pipeline brings one up; what a peer
tells is taken as it is. -/
namespace ServiceMesh

/-- The instances without weight are excused, each by the name of its service and its target. -/
def Services.Weighed (excused : String → Target → Prop) (services : Services) : Prop :=
  ∀ service ∈ services.toList, ∀ i ∈ service.instances, i.weight = 0 → excused service.name i.target

variable {excused others : String → Target → Prop} {services : Services} {service next : Service}

namespace Services.Weighed

theorem mono (weighed : services.Weighed excused)
    (also : ∀ name target, excused name target → others name target) : services.Weighed others :=
  fun service member i listed weightless => also _ _ (weighed service member i listed weightless)

theorem empty : (∅ : Services).Weighed excused :=
  fun _ member => absurd member List.not_mem_nil

/-- Services that are left of others. -/
theorem of_subset (weighed : services.Weighed excused) {rest : Services}
    (left : ∀ name service, rest.get? name = some service → services.get? name = some service) :
    rest.Weighed excused := by
  intro service member
  obtain ⟨name, found⟩ := mem_toList.mp member
  exact weighed service (mem_toList.mpr ⟨name, left name service found⟩)

theorem withoutEmpty (weighed : services.Weighed excused) : services.withoutEmpty.Weighed excused :=
  weighed.of_subset fun _ _ found => (get?_withoutEmpty.mp found).1

theorem insert (weighed : services.Weighed excused)
    (new : ∀ i ∈ service.instances, i.weight = 0 → excused service.name i.target) :
    (services.insert service).Weighed excused := by
  intro other member
  obtain ⟨name, found⟩ := mem_toList.mp member
  rw [get?_insert] at found
  split at found
  case isTrue =>
    obtain rfl := Option.some.inj found
    exact new
  case isFalse => exact weighed other (mem_toList.mpr ⟨name, found⟩)

end Services.Weighed

/-! ### Pipelines -/

theorem saturatingSum_eq_zero {weights : List UInt32} (sum : saturatingSum weights = 0) :
    ∀ weight ∈ weights, weight = 0 := by
  have total : weights.foldr (fun weight sum => weight.toNat + sum) 0 = 0 := by
    have capped := congrArg UInt32.toNat sum
    rw [saturatingSum, UInt32.toNat_ofNat', UInt32.size] at capped
    simp only [UInt32.toNat_zero] at capped
    omega
  clear sum
  induction weights with
  | nil => exact fun _ member => absurd member List.not_mem_nil
  | cons first rest ih =>
      obtain ⟨zero, others⟩ := Nat.add_eq_zero_iff.mp total
      intro weight member
      rcases List.mem_cons.mp member with rfl | member
      · exact UInt32.toNat.inj zero
      · exact ih others weight member

/-- Services of one name, of which the second has no instance without weight where the first has
none. -/
structure Service.Weighs (before after : Service) : Prop where
  name : after.name = before.name
  weightless : ∀ i ∈ after.instances, i.weight = 0 →
    ∃ j ∈ before.instances, j.weight = 0 ∧ j.target = i.target

namespace Service.Weighs

theorem refl (service : Service) : service.Weighs service :=
  ⟨rfl, fun i member weightless => ⟨i, member, weightless, rfl⟩⟩

theorem trans {last : Service} (first : service.Weighs next) (second : next.Weighs last) :
    service.Weighs last := by
  refine ⟨second.name.trans first.name, fun i member weightless => ?_⟩
  obtain ⟨j, known, zero, same⟩ := second.weightless i member weightless
  obtain ⟨k, listed, none, here⟩ := first.weightless j known zero
  exact ⟨k, listed, none, here.trans same⟩

theorem retain (service : Service) (keep : Instance → Bool) : service.Weighs (service.retain keep) :=
  ⟨rfl, fun i member weightless => ⟨i, (SortedSet.mem_filter.mp member).1, weightless, rfl⟩⟩

/-- A merged instance has no weight only if none of those that it stands for has. -/
theorem merge (service : Service) : service.Weighs service.merge := by
  refine ⟨service.name_merge, fun i member weightless => ?_⟩
  rcases service.merge_cases with ⟨-, same⟩ | groups
  · rw [same] at member
    exact ⟨i, member, weightless, rfl⟩
  · obtain ⟨target, group, known, rfl⟩ := groups i member
    obtain ⟨listed, filled⟩ := mem_groupByTarget.mp known
    obtain ⟨j, inGroup⟩ := List.exists_mem_of_ne_nil _ filled
    have there := inGroup
    rw [listed, List.mem_filter, decide_eq_true_iff] at there
    refine ⟨j, there.1, ?_, there.2.trans (Instance.target_mergeGroup known).symm⟩
    match group, inGroup, weightless with
    | [only], inGroup, weightless =>
        obtain rfl := List.mem_singleton.mp inGroup
        exact weightless
    | _ :: _ :: _, inGroup, weightless =>
        exact saturatingSum_eq_zero weightless j.weight (List.mem_map_of_mem inGroup)

theorem passOn {pipeline : Pipeline} (passed : pipeline.passOn service = some next) :
    service.Weighs next :=
  Pipeline.passOn_keeps (motive := service.Weighs)
    (fun between keep weighs => weighs.trans (.retain between keep))
    (fun between weighs => weighs.trans (.merge between)) (.refl service) passed

end Service.Weighs

theorem Services.Weighed.applyTo (weighed : services.Weighed excused) (pipeline : Pipeline) :
    (pipeline.applyTo services).Weighed excused := by
  intro service member i listed weightless
  have passed := mem_of_mem_ofList member
  rw [Pipeline.apply_eq, List.mem_filterMap] at passed
  obtain ⟨raw, known, passed⟩ := passed
  obtain ⟨name, traced⟩ := Service.Weighs.passOn passed
  obtain ⟨j, before, zero, same⟩ := traced i listed weightless
  rw [name, ← same]
  exact weighed raw known j before zero

/-! ### Registries -/

theorem one_max_ne_zero (weight : UInt32) : max 1 weight ≠ 0 := by
  intro zero
  dsimp only [Max.max] at zero
  split at zero
  case isTrue least =>
    rw [zero] at least
    contradiction
  case isFalse => contradiction

namespace Watcher

variable {watcher : Watcher} {mapping : InstanceMapping}

/-- What a watcher knows and what it has published has no instance without weight. -/
structure Weighed (watcher : Watcher) : Prop where
  services : watcher.services.Weighed fun _ _ => False
  published : ∀ services, watcher.published.value = some services →
    services.Weighed fun _ _ => False

theorem Weighed.start : Watcher.start.Weighed :=
  ⟨.empty, fun _ told => by contradiction⟩

theorem Weighed.learnInstances (weighed : watcher.Weighed) (mapping : InstanceMapping)
    (name : String) (answer : InstanceList) : (watcher.learnInstances mapping name answer).2.Weighed := by
  rw [learnInstances_eq]
  refine ⟨?_, weighed.published⟩
  dsimp only [learnServices]
  split
  case isTrue => exact weighed.services
  case isFalse =>
    rw [Services.change_eq]
    refine weighed.services.insert fun i member weightless => ?_
    obtain ⟨reported, -, rfl⟩ := List.mem_map.mp (SortedSet.mem_ofList.mp member)
    exact one_max_ne_zero _ weightless

theorem Weighed.learnAll (weighed : watcher.Weighed) (mapping : InstanceMapping)
    (answers : List (String × InstanceList)) (changed : Bool) :
    (Watcher.learnAll mapping answers watcher changed).2.Weighed := by
  induction answers generalizing watcher changed with
  | nil => exact weighed
  | cons answer rest ih => exact ih (weighed.learnInstances mapping answer.1 answer.2) _

theorem Weighed.learnCatalog (weighed : watcher.Weighed) (index : Option UInt64)
    (watched : SortedSet String) : (watcher.learnCatalog index watched).Weighed := by
  refine ⟨weighed.services.of_subset fun name service found => ?_, weighed.published⟩
  rw [learnCatalog_get?] at found
  split at found
  · exact found
  · contradiction

theorem Weighed.publish (weighed : watcher.Weighed) (changed : Bool) :
    (watcher.publish changed).Weighed := by
  unfold Watcher.publish
  split
  · refine ⟨weighed.services, fun services told => ?_⟩
    obtain rfl := Option.some.inj told
    exact weighed.services
  · exact weighed

theorem Weighed.poll (weighed : watcher.Weighed) (config : WatcherConfig) (registry : Registry)
    (now : Time) : (watcher.poll config registry now).watcher.Weighed := by
  obtain ⟨learned, -⟩ := watcher.round_eq config ⟨registry, now⟩
  have taught : ((watcher.hear config ⟨registry, now⟩).elim watcher (watcher.learn config)).Weighed := by
    cases watcher.hear config ⟨registry, now⟩ with
    | none => exact weighed
    | some heard => exact ((weighed.learnCatalog _ _).learnAll _ _ _).publish _
  rw [show watcher.poll config registry now = watcher.round config ⟨registry, now⟩ from rfl, learned]
  exact ⟨taught.services, taught.published⟩

end Watcher

/-! ### Peers -/

namespace RemoteZone

variable {zone : RemoteZone} {config : RemoteZoneConfig}

/-- What is published of a zone has no instance without weight but excused ones. -/
def Weighed (excused : String → Target → Prop) (zone : RemoteZone) : Prop :=
  ∀ services, zone.published.value = some services → services.Weighed excused

theorem Weighed.publish (zone : RemoteZone) (weighed : services.Weighed excused) :
    (zone.publish services).Weighed excused := by
  intro told shown
  rw [RemoteZone.publish, Watched.value_offer] at shown
  obtain rfl := Option.some.inj shown
  exact weighed

/-- A poll brings up no instance without weight that is not in the answer. -/
theorem Weighed.poll (weighed : zone.Weighed excused) {peer : Peer} {now : Time}
    (tells : ∀ services, Attempt.answer ⟨peer, now⟩ config = .ok services →
      services.Weighed excused) :
    (zone.poll config peer now).zone.Weighed excused := by
  cases answered : Attempt.answer ⟨peer, now⟩ config with
  | ok services =>
      rw [(poll_ok zone answered).2]
      exact .publish _ (tells services answered).withoutEmpty
  | error problem =>
      rw [(poll_error zone answered).2]
      split
      · exact .publish _ .empty
      · exact weighed

end RemoteZone

end ServiceMesh
