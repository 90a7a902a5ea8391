import ServiceMesh.Proofs.Pipeline.Standard

/-! A second pass through a pipeline has nothing to do, whatever the pipeline is made of. Each transform
brings about a property that depends on the name of a service and on the targets of its instances
alone, and these are what all other transforms leave alone or thin out. -/
namespace ServiceMesh

variable {raw service last : Service} {transform : Transform}

/-! ### What transforms bring about -/

/-- The property that a transform brings about in a service. -/
def Transform.Holds (transform : Transform) (service : Service) : Prop :=
  match transform with
  | .excludeServices denylist => denylist.excludes service.name = false
  | .emptyAddress => ∀ i ∈ service.instances, i.hasAddress = true
  | .invalidPort => ∀ i ∈ service.instances, i.hasValidPort = true
  | .ipAddress => ∀ i ∈ service.instances, i.hasIpAddress = true
  | .mergeInstances => service.Distinct

/-- A transform has nothing to do where its property holds. -/
theorem Transform.Holds.applyTo_eq_self (holds : transform.Holds service) :
    transform.applyTo service = some service := by
  cases transform with
  | excludeServices denylist =>
      have allowed : denylist.excludes service.name = false := holds
      simp [applyTo, allowed]
  | emptyAddress => exact congrArg some (Service.retain_eq_self holds)
  | invalidPort => exact congrArg some (Service.retain_eq_self holds)
  | ipAddress =>
      have all : service.instances.toList.all Instance.hasIpAddress = true :=
        List.all_eq_true.mpr holds
      rw [applyTo, if_pos all]
  | mergeInstances => exact congrArg some (Service.merge_of_distinct holds)

theorem Transform.holds_of_applyTo (passed : transform.applyTo raw = some service) :
    transform.Holds service := by
  cases transform with
  | excludeServices denylist =>
      simp only [applyTo, Option.ite_none_left_eq_some, Option.some.injEq] at passed
      obtain ⟨allowed, rfl⟩ := passed
      exact eq_false_of_ne_true allowed
  | emptyAddress =>
      obtain rfl := Option.some.inj passed
      intro i member
      exact (SortedSet.mem_filter.mp member).2
  | invalidPort =>
      obtain rfl := Option.some.inj passed
      intro i member
      exact (SortedSet.mem_filter.mp member).2
  | ipAddress =>
      simp only [applyTo, Option.ite_none_right_eq_some, Option.some.injEq] at passed
      obtain ⟨all, rfl⟩ := passed
      exact List.all_eq_true.mp all
  | mergeInstances =>
      obtain rfl := Option.some.inj passed
      exact raw.distinct_merge

/-! ### What transforms leave alone -/

/-- A service with the name of another and with no targets that the other lacks, each of them with a
single instance if this was so in the other. -/
structure Service.Thins (raw service : Service) : Prop where
  name : service.name = raw.name
  targets : ∀ i ∈ service.instances, ∃ j ∈ raw.instances, j.target = i.target
  distinct : raw.Distinct → service.Distinct

namespace Service.Thins

theorem refl (service : Service) : service.Thins service :=
  ⟨rfl, fun i member => ⟨i, member, rfl⟩, id⟩

theorem trans (first : raw.Thins service) (second : service.Thins last) : raw.Thins last := by
  refine ⟨second.name.trans first.name, fun i member => ?_, second.distinct ∘ first.distinct⟩
  obtain ⟨j, known, same⟩ := second.targets i member
  obtain ⟨k, listed, here⟩ := first.targets j known
  exact ⟨k, listed, here.trans same⟩

theorem retain (service : Service) (keep : Instance → Bool) : service.Thins (service.retain keep) := by
  have known (i : Instance) (member : i ∈ (service.retain keep).instances) : i ∈ service.instances :=
    (SortedSet.mem_filter.mp member).1
  refine ⟨rfl, fun i member => ⟨i, known i member, rfl⟩, fun distinct i one j two => ?_⟩
  exact distinct i (known i one) j (known j two)

theorem merge (service : Service) : service.Thins service.merge :=
  ⟨service.name_merge, fun _ member => exists_target_of_mem_merge member,
    fun _ => service.distinct_merge⟩

/-- A pipeline keeps the name of a service, and brings up no target. -/
theorem passOn {pipeline : Pipeline} (passed : pipeline.passOn raw = some service) :
    raw.Thins service :=
  Pipeline.passOn_keeps (motive := raw.Thins) (fun next keep thins => thins.trans (.retain next keep))
    (fun next thins => thins.trans (.merge next)) (.refl raw) passed

end Service.Thins

/-- What has been brought about is kept by all that thins a service out. -/
theorem Transform.Holds.thin (holds : transform.Holds raw) (thins : raw.Thins service) :
    transform.Holds service := by
  -- A filter on instances looks at their targets, and no target is new.
  have everywhere {p : Instance → Bool} (atTarget : ∀ i j, j.target = i.target → p j = true → p i = true)
      (all : ∀ i ∈ raw.instances, p i = true) : ∀ i ∈ service.instances, p i = true := by
    intro i member
    obtain ⟨j, known, same⟩ := thins.targets i member
    exact atTarget i j same (all j known)
  cases transform with
  | excludeServices denylist =>
      rw [Holds, thins.name]
      exact holds
  | emptyAddress =>
      refine everywhere (fun i j same => ?_) holds
      rw [Instance.hasAddress, Instance.hasAddress, (Target.mk.inj same).1]
      exact id
  | invalidPort =>
      refine everywhere (fun i j same => ?_) holds
      rw [Instance.hasValidPort, Instance.hasValidPort, (Target.mk.inj same).2]
      exact id
  | ipAddress =>
      refine everywhere (fun i j same => ?_) holds
      rw [Instance.hasIpAddress, Instance.hasIpAddress, (Target.mk.inj same).1]
      exact id
  | mergeInstances => exact thins.distinct holds

/-! ### Pipelines -/

namespace Pipeline

variable {pipeline : Pipeline}

/-- What one transform brings about outlasts the transforms behind it. -/
theorem holds_of_passOn (passed : pipeline.passOn raw = some service)
    (used : transform ∈ pipeline.transforms) : transform.Holds service := by
  obtain ⟨front, back, split⟩ := List.append_of_mem used
  rw [passOn, split, List.foldlM_append] at passed
  obtain ⟨before, -, passed⟩ := Option.bind_eq_some_iff.mp passed
  rw [List.foldlM_cons] at passed
  obtain ⟨next, here, behind⟩ := Option.bind_eq_some_iff.mp passed
  have rest : Pipeline.passOn ⟨back⟩ next = some service := behind
  exact (Transform.holds_of_applyTo here).thin (Service.Thins.passOn rest)

theorem passOn_again (passed : pipeline.passOn raw = some service) :
    pipeline.passOn service = some service :=
  passOn_eq_self fun _ used => (holds_of_passOn passed used).applyTo_eq_self

/-- Behind any pipeline the properties of all its transforms hold of all services that are left, so that
the same pipeline changes nothing any more. -/
theorem apply_idempotent (pipeline : Pipeline) (services : List Service) :
    pipeline.apply (pipeline.apply services) = pipeline.apply services ∧
      ∀ service ∈ pipeline.apply services, ∀ transform ∈ pipeline.transforms,
        transform.Holds service := by
  have origin (service : Service) (left : service ∈ pipeline.apply services) :
      ∃ raw ∈ services, pipeline.passOn raw = some service := by
    rwa [apply_eq, List.mem_filterMap] at left
  constructor
  · rw [apply_eq pipeline (pipeline.apply services)]
    have fixed : ∀ service ∈ pipeline.apply services, pipeline.passOn service = some service := by
      intro service left
      obtain ⟨raw, -, passed⟩ := origin service left
      exact passOn_again passed
    rw [List.filterMap_congr fixed, List.filterMap_some]
  · intro service left transform used
    obtain ⟨raw, -, passed⟩ := origin service left
    exact holds_of_passOn passed used

end Pipeline

end ServiceMesh
