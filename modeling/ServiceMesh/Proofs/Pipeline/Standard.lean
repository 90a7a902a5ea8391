import ServiceMesh.Proofs.Pipeline.Merge
import ServiceMesh.Proofs.Services
import ServiceMesh.Zone.Aggregation

/-! The standard pipeline has nothing to do where it has been before. -/
namespace ServiceMesh

variable {denylist : Option Denylist} {service : Service} {services : List Service}

/-! ### Chains of transforms -/

/-- What becomes of one service in a chain of transforms, none if it is dropped. -/
def Pipeline.passOn (pipeline : Pipeline) (service : Service) : Option Service :=
  pipeline.transforms.foldlM (fun service transform => transform.applyTo service) service

/-- A pipeline takes services one by one. -/
theorem Pipeline.apply_eq (pipeline : Pipeline) (services : List Service) :
    pipeline.apply services = services.filterMap pipeline.passOn := by
  obtain ⟨transforms⟩ := pipeline
  unfold apply passOn
  induction transforms generalizing services with
  | nil => exact List.filterMap_some.symm
  | cons transform transforms ih =>
      rw [List.foldl_cons, ih, Transform.apply, List.filterMap_filterMap]
      rfl

theorem Pipeline.passOn_eq_self {pipeline : Pipeline}
    (fixed : ∀ transform ∈ pipeline.transforms, transform.applyTo service = some service) :
    pipeline.passOn service = some service := by
  obtain ⟨transforms⟩ := pipeline
  unfold passOn
  induction transforms with
  | nil => rfl
  | cons transform transforms ih =>
      obtain ⟨first, others⟩ := List.forall_mem_cons.mp fixed
      rw [List.foldlM_cons, first]
      exact ih others

/-- A transform leaves a service as it is, keeps some of its instances, or merges them, unless it drops
the service. -/
theorem Transform.applyTo_cases {transform : Transform} {raw : Service}
    (passed : transform.applyTo raw = some service) :
    service = raw ∨ (∃ keep, service = raw.retain keep) ∨ service = raw.merge := by
  cases transform with
  | excludeServices denylist =>
      simp only [applyTo, Option.ite_none_left_eq_some, Option.some.injEq] at passed
      exact .inl passed.2.symm
  | emptyAddress => exact .inr (.inl ⟨_, (Option.some.inj passed).symm⟩)
  | invalidPort => exact .inr (.inl ⟨_, (Option.some.inj passed).symm⟩)
  | ipAddress =>
      simp only [applyTo, Option.ite_none_right_eq_some, Option.some.injEq] at passed
      exact .inl passed.2.symm
  | mergeInstances => exact .inr (.inr (Option.some.inj passed).symm)

/-- What stays true of a service when instances are left out or merged is true behind a pipeline. -/
theorem Pipeline.passOn_keeps {motive : Service → Prop}
    (retain : ∀ service keep, motive service → motive (service.retain keep))
    (merge : ∀ service, motive service → motive service.merge)
    {pipeline : Pipeline} {raw : Service} (begins : motive raw)
    (passed : pipeline.passOn raw = some service) : motive service := by
  obtain ⟨transforms⟩ := pipeline
  unfold passOn at passed
  induction transforms generalizing raw with
  | nil =>
      obtain rfl := Option.some.inj passed
      exact begins
  | cons transform transforms ih =>
      rw [List.foldlM_cons] at passed
      obtain ⟨next, first, rest⟩ := Option.bind_eq_some_iff.mp passed
      refine ih ?_ rest
      rcases Transform.applyTo_cases first with rfl | ⟨keep, rfl⟩ | rfl
      · exact begins
      · exact retain raw keep begins
      · exact merge raw begins

theorem Service.retain_eq_self {keep : Instance → Bool}
    (kept : ∀ i ∈ service.instances, keep i = true) : service.retain keep = service := by
  have all : service.instances.filter keep = service.instances :=
    SortedSet.ext (List.filter_eq_self.mpr kept)
  rw [Service.retain, all]

/-! ### What comes out of the standard pipeline -/

/-- An instance that can be reached. -/
structure Instance.Reachable (i : Instance) : Prop where
  hasAddress : i.hasAddress = true
  hasValidPort : i.hasValidPort = true
  hasIpAddress : i.hasIpAddress = true

/-- Whether an instance can be reached is a matter of its target. -/
theorem Instance.Reachable.of_target {i j : Instance} (reachable : i.Reachable)
    (same : i.target = j.target) : j.Reachable := by
  obtain ⟨address, port⟩ := Target.mk.inj same
  obtain ⟨hasAddress, hasValidPort, hasIpAddress⟩ := reachable
  constructor
  · rwa [Instance.hasAddress, ← address]
  · rwa [Instance.hasValidPort, ← port]
  · rwa [Instance.hasIpAddress, ← address]

/-- A service that the standard pipeline leaves as it is. -/
structure Service.Settled (denylist : Option Denylist) (service : Service) : Prop where
  allowed : ∀ patterns ∈ denylist, patterns.excludes service.name = false
  reachable : ∀ i ∈ service.instances, i.Reachable
  distinct : service.Distinct

theorem Service.Settled.passOn_standard (settled : service.Settled denylist) :
    (Pipeline.standard denylist).passOn service = some service := by
  obtain ⟨allowed, reachable, distinct⟩ := settled
  apply Pipeline.passOn_eq_self
  intro transform used
  rw [Pipeline.standard, List.mem_append, Option.mem_toList, Option.map_eq_some_iff] at used
  rcases used with ⟨patterns, given, rfl⟩ | used
  · simp [Transform.applyTo, allowed patterns given]
  · simp only [List.mem_cons, List.not_mem_nil, or_false] at used
    rcases used with rfl | rfl | rfl | rfl
    · exact congrArg some (retain_eq_self fun i known => (reachable i known).hasAddress)
    · exact congrArg some (retain_eq_self fun i known => (reachable i known).hasValidPort)
    · have all : service.instances.toList.all Instance.hasIpAddress = true :=
        List.all_eq_true.mpr fun i known => (reachable i known).hasIpAddress
      rw [Transform.applyTo, if_pos all]
    · exact congrArg some (merge_of_distinct distinct)

/-- The service with those of its instances that have an address and a port. -/
def Service.withPlaces (service : Service) : Service :=
  (service.retain Instance.hasAddress).retain Instance.hasValidPort

theorem Pipeline.passOn_standard (denylist : Option Denylist) (service : Service) :
    (Pipeline.standard denylist).passOn service =
      if denylist.any (·.excludes service.name) then none
      else if service.withPlaces.instances.toList.all Instance.hasIpAddress then
        some service.withPlaces.merge
      else none := by
  have behind : [Transform.emptyAddress, .invalidPort, .ipAddress, .mergeInstances].foldlM
      (fun service transform => transform.applyTo service) service =
        if service.withPlaces.instances.toList.all Instance.hasIpAddress then
          some service.withPlaces.merge
        else none := by
    simp only [List.foldlM_cons, List.foldlM_nil, Transform.applyTo, Option.bind_eq_bind,
      Option.bind_some]
    change Option.bind (if service.withPlaces.instances.toList.all Instance.hasIpAddress then
      some service.withPlaces else none) _ = _
    split <;> rfl
  rw [Pipeline.passOn, Pipeline.standard, List.foldlM_append]
  cases denylist with
  | none => exact behind
  | some patterns =>
      by_cases excluded : patterns.excludes service.name = true
      · simp [Transform.applyTo, excluded]
      · simpa [Transform.applyTo, excluded] using behind

/-- Nothing is left to be done for what comes out of the standard pipeline. -/
theorem Service.settled_of_passOn {raw : Service}
    (passed : (Pipeline.standard denylist).passOn raw = some service) :
    service.Settled denylist := by
  rw [Pipeline.passOn_standard] at passed
  split at passed
  case isTrue => contradiction
  case isFalse allowed =>
    split at passed
    case isFalse => contradiction
    case isTrue haveIpAddress =>
      obtain rfl := Option.some.inj passed
      refine ⟨?_, fun i member => ?_, distinct_merge _⟩
      · intro patterns given
        obtain rfl : denylist = some patterns := given
        rw [name_merge]
        exact Bool.eq_false_of_not_eq_true allowed
      · -- A merged instance is where one stood that passed the filters.
        obtain ⟨j, known, same⟩ := exists_target_of_mem_merge member
        obtain ⟨kept, hasValidPort⟩ := SortedSet.mem_filter.mp known
        obtain ⟨-, hasAddress⟩ := SortedSet.mem_filter.mp kept
        have hasIpAddress := List.all_eq_true.mp haveIpAddress j known
        exact Instance.Reachable.of_target ⟨hasAddress, hasValidPort, hasIpAddress⟩ same

/-- The services behind the standard pipeline are under their own names, and nothing is left to be
done for them. -/
theorem Pipeline.settled_of_get?_applyTo {raw : Services} {name : String}
    (found : ((Pipeline.standard denylist).applyTo raw).get? name = some service) :
    service.name = name ∧ service.Settled denylist := by
  refine ⟨Services.keyed_ofList _ name service found, ?_⟩
  have passed := Services.mem_of_mem_ofList (Services.mem_toList.mpr ⟨name, found⟩)
  rw [apply_eq, List.mem_filterMap] at passed
  obtain ⟨raw, -, passed⟩ := passed
  exact Service.settled_of_passOn passed

/-- Where the standard pipeline has been it changes nothing, even if services are left out since. -/
theorem Pipeline.applyTo_withoutEmpty (denylist : Option Denylist) (services : Services) :
    let behind := (Pipeline.standard denylist).applyTo services
    (Pipeline.standard denylist).applyTo behind.withoutEmpty = behind.withoutEmpty := by
  intro behind
  have keyed : behind.withoutEmpty.Keyed := (Services.keyed_ofList _).withoutEmpty
  have settled : ∀ service ∈ behind.withoutEmpty.toList,
      (Pipeline.standard denylist).passOn service = some service := by
    intro service member
    obtain ⟨name, found⟩ := Services.mem_toList.mp member
    exact (settled_of_get?_applyTo (Services.get?_withoutEmpty.mp found).1).2.passOn_standard
  rw [applyTo, apply_eq, List.filterMap_congr settled, List.filterMap_some, keyed.ofList_toList]

end ServiceMesh
