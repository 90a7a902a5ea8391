import ServiceMesh.Proofs.Pipeline.Merge

/-! Merging keeps what is there: the name, the targets, and at each target the ids, tags and marks of all
instances and their weight in total. Nothing is lost on the way through groups and back into a set, since
what is merged stays at its own target. -/
namespace ServiceMesh

variable {service : Service} {target : Target} {group : List Instance} {i only : Instance}

/-! ### Sums with a cap -/

/-- The sum of two weights, capped at the largest 32-bit number. -/
def addCapped (sum weight : UInt32) : UInt32 :=
  UInt32.ofNat (min (sum.toNat + weight.toNat) (UInt32.size - 1))

theorem toNat_addCapped (sum weight : UInt32) :
    (addCapped sum weight).toNat = min (sum.toNat + weight.toNat) (UInt32.size - 1) := by
  rw [addCapped, UInt32.toNat_ofNat', UInt32.size]
  omega

theorem toNat_saturatingSum (weights : List UInt32) :
    (saturatingSum weights).toNat =
      min (weights.foldr (fun weight sum => weight.toNat + sum) 0) (UInt32.size - 1) := by
  rw [saturatingSum, UInt32.toNat_ofNat', UInt32.size]
  omega

/-- A sum that has reached the cap stays there, so it can be capped at each step or at the end. -/
theorem toNat_foldl_addCapped (weights : List UInt32) (start : UInt32) :
    (weights.foldl addCapped start).toNat =
      min (start.toNat + weights.foldr (fun weight sum => weight.toNat + sum) 0)
        (UInt32.size - 1) := by
  induction weights generalizing start with
  | nil =>
      have below := start.toNat_lt_size
      rw [List.foldl_nil, List.foldr_nil, UInt32.size] at *
      omega
  | cons weight weights ih =>
      rw [List.foldl_cons, ih, toNat_addCapped, List.foldr_cons, UInt32.size]
      omega

theorem saturatingSum_eq_foldl (weights : List UInt32) :
    saturatingSum weights = weights.foldl addCapped 0 := by
  apply UInt32.toNat_inj.mp
  rw [toNat_saturatingSum, toNat_foldl_addCapped, UInt32.toNat_zero, Nat.zero_add]

/-! ### What stands at a target -/

def totalWeight (group : List Instance) : Nat :=
  group.foldr (fun i total => i.weight.toNat + total) 0

/-- One instance with the marks of several, that stands where they stood. -/
structure Instance.Unites (i : Instance) (target : Target) (group : List Instance) : Prop where
  id : i.id = String.intercalate "," (group.map Instance.id)
  tags : ∀ tag, tag ∈ i.tags ↔ ∃ j ∈ group, tag ∈ j.tags
  target : i.target = target
  healthy : i.healthy = true ↔ ∃ j ∈ group, j.healthy = true
  regular : i.regular = true ↔ ∃ j ∈ group, j.regular = true
  canary : i.canary = true ↔ ∃ j ∈ group, j.canary = true
  weight : i.weight.toNat = min (totalWeight group) (UInt32.size - 1)
  stepwise : i.weight = (group.map Instance.weight).foldl addCapped 0

theorem Instance.unites_merge (target : Target) (group : List Instance) :
    (Instance.merge target group).Unites target group where
  id := rfl
  tags tag := by
    change tag ∈ SortedSet.ofList (group.flatMap fun i => i.tags.toList) ↔ _
    rw [SortedSet.mem_ofList, List.mem_flatMap]
    rfl
  target := rfl
  healthy := List.any_eq_true
  regular := List.any_eq_true
  canary := List.any_eq_true
  weight := by
    change (saturatingSum (group.map Instance.weight)).toNat = _
    rw [toNat_saturatingSum, List.foldr_map]
    rfl
  stepwise := saturatingSum_eq_foldl _

namespace Service

/-- The instances at a target, in the order of the set. -/
def instancesAt (service : Service) (target : Target) : List Instance :=
  service.instances.toList.filter (·.target = target)

/-- The targets that have instances. -/
def targets (service : Service) : SortedSet Target :=
  SortedSet.ofList (service.instances.toList.map Instance.target)

theorem mem_instancesAt :
    i ∈ service.instancesAt target ↔ i ∈ service.instances ∧ i.target = target := by
  simp [Service.instancesAt]

theorem mem_targets : target ∈ service.targets ↔ service.instancesAt target ≠ [] := by
  rw [targets, SortedSet.mem_ofList, List.mem_map]
  constructor
  · rintro ⟨i, known, here⟩
    exact List.ne_nil_of_mem (mem_instancesAt.mpr ⟨known, here⟩)
  · intro nonempty
    obtain ⟨i, member⟩ := List.exists_mem_of_ne_nil _ nonempty
    exact ⟨i, mem_instancesAt.mp member⟩

/-- An instance that has its target to itself is what its group is merged into. -/
theorem Distinct.instancesAt_eq (distinct : service.Distinct) (known : i ∈ service.instances) :
    service.instancesAt i.target = [i] := by
  have nodup : (service.instancesAt i.target).Nodup := service.instances.nodup.filter _
  have single : ∀ j, j ∈ service.instancesAt i.target ↔ j ∈ [i] := by
    intro j
    rw [mem_instancesAt, List.mem_singleton]
    constructor
    · rintro ⟨alsoKnown, same⟩
      exact distinct j alsoKnown i known same
    · rintro rfl
      exact ⟨known, rfl⟩
  exact List.perm_singleton.mp ((List.perm_ext_iff_of_nodup nodup (List.nodup_singleton i)).mpr single)

/-- The groups of a service that are not merged are its instances one by one, so that merging them would
make no difference. -/
theorem merge_eq (service : Service) : service.merge = ⟨service.name, SortedSet.ofList
    ((groupByTarget service.instances.toList).entries.map fun group =>
      Instance.mergeGroup group.1 group.2)⟩ := by
  by_cases distinct : service.Distinct
  · rw [merge_of_distinct distinct]
    refine congrArg (Service.mk service.name) (SortedSet.ext_mem fun i => ?_)
    rw [SortedSet.mem_ofList, List.mem_map]
    constructor
    · intro known
      have group := distinct.instancesAt_eq known
      refine ⟨(i.target, service.instancesAt i.target), mem_groupByTarget.mpr ⟨rfl, ?_⟩, ?_⟩
      · rw [group]
        exact List.cons_ne_nil _ _
      · rw [group]
        rfl
    · rintro ⟨⟨target, group⟩, listed, rfl⟩
      obtain ⟨rfl, nonempty⟩ := mem_groupByTarget.mp listed
      obtain ⟨i, member⟩ := List.exists_mem_of_ne_nil _ nonempty
      obtain ⟨known, rfl⟩ := mem_instancesAt.mp member
      have group : service.instances.toList.filter (·.target = i.target) = [i] :=
        distinct.instancesAt_eq known
      rw [group]
      exact known
  · rw [Service.merge, if_neg (mt (groups_single_iff service).mp distinct)]

theorem mem_merge : i ∈ service.merge.instances ↔ ∃ target, service.instancesAt target ≠ [] ∧
    i = Instance.mergeGroup target (service.instancesAt target) := by
  rw [merge_eq, SortedSet.mem_ofList, List.mem_map]
  constructor
  · rintro ⟨⟨target, group⟩, listed, rfl⟩
    obtain ⟨rfl, nonempty⟩ := mem_groupByTarget.mp listed
    exact ⟨target, nonempty, rfl⟩
  · rintro ⟨target, nonempty, rfl⟩
    exact ⟨(target, service.instancesAt target), mem_groupByTarget.mpr ⟨rfl, nonempty⟩, rfl⟩

theorem instancesAt_merge_of_nil (none : service.instancesAt target = []) :
    service.merge.instancesAt target = [] := by
  refine List.eq_nil_iff_forall_not_mem.mpr fun i member => ?_
  obtain ⟨merged, rfl⟩ := mem_instancesAt.mp member
  obtain ⟨j, known, same⟩ := exists_target_of_mem_merge merged
  have here : j ∈ service.instancesAt i.target := mem_instancesAt.mpr ⟨known, same⟩
  rw [none] at here
  contradiction

/-- Where there were instances there is the one that they are merged into. -/
theorem instancesAt_merge (nonempty : service.instancesAt target ≠ []) :
    service.merge.instancesAt target = [Instance.mergeGroup target (service.instancesAt target)] := by
  have merged := mem_merge.mpr ⟨target, nonempty, rfl⟩
  have here : (Instance.mergeGroup target (service.instancesAt target)).target = target :=
    Instance.target_mergeGroup (mem_groupByTarget.mpr ⟨rfl, nonempty⟩)
  have group := service.distinct_merge.instancesAt_eq merged
  rwa [here] at group

theorem targets_merge (service : Service) : service.merge.targets = service.targets := by
  refine SortedSet.ext_mem fun target => ?_
  rw [mem_targets, mem_targets]
  constructor
  · exact mt instancesAt_merge_of_nil
  · intro nonempty
    rw [instancesAt_merge nonempty]
    exact List.cons_ne_nil _ _

theorem Distinct.size_eq (distinct : service.Distinct) :
    service.instances.size = service.targets.size := by
  have nodup : (service.instances.toList.map Instance.target).Nodup :=
    List.Nodup.map_on (fun i iKnown j jKnown => distinct i iKnown j jKnown) service.instances.nodup
  rw [targets, SortedSet.size_ofList nodup, List.length_map]
  rfl

theorem totalWeight_merge (service : Service) (target : Target) :
    totalWeight (service.merge.instancesAt target) =
      min (totalWeight (service.instancesAt target)) (UInt32.size - 1) := by
  rcases group : service.instancesAt target with _ | ⟨first, _ | ⟨second, others⟩⟩
  · rw [instancesAt_merge_of_nil group]
    exact (Nat.zero_min _).symm
  · rw [instancesAt_merge (by simp [group]), group]
    have below := first.weight.toNat_lt_size
    have alone : totalWeight [first] = first.weight.toNat := rfl
    rw [Instance.mergeGroup, alone]
    omega
  · rw [instancesAt_merge (by simp [group]), group]
    exact (Instance.unites_merge target (first :: second :: others)).weight

/-- Merging keeps the name and leaves exactly one instance at each target that had any, and none
elsewhere, so there are as many as targets. An instance alone at its target stays as it is; otherwise
the one that is left unites all that were there. The weight at a target is the same in total if it is
below the cap, and to leave a service alone that has nothing to merge is no different from merging. -/
theorem merge_conserves (service : Service) :
    service.merge.name = service.name ∧
    service.merge.targets = service.targets ∧
    service.merge.instances.size = service.targets.size ∧
    (∀ target, service.instancesAt target = [] → service.merge.instancesAt target = []) ∧
    (∀ target only, service.instancesAt target = [only] →
      service.merge.instancesAt target = [only]) ∧
    (∀ target, 1 < (service.instancesAt target).length →
      ∃ i, service.merge.instancesAt target = [i] ∧ i.Unites target (service.instancesAt target)) ∧
    (∀ target, totalWeight (service.merge.instancesAt target) =
      min (totalWeight (service.instancesAt target)) (UInt32.size - 1)) ∧
    service.merge = ⟨service.name, SortedSet.ofList
      ((groupByTarget service.instances.toList).entries.map fun group =>
        Instance.mergeGroup group.1 group.2)⟩ := by
  refine ⟨service.name_merge, service.targets_merge, ?_, fun _ => instancesAt_merge_of_nil, ?_, ?_,
    service.totalWeight_merge, service.merge_eq⟩
  · rw [service.distinct_merge.size_eq, targets_merge]
  · intro target only alone
    rw [instancesAt_merge (by simp [alone]), alone]
    rfl
  · intro target several
    rcases group : service.instancesAt target with _ | ⟨first, _ | ⟨second, others⟩⟩
    · simp [group] at several
    · simp [group] at several
    · refine ⟨Instance.merge target (first :: second :: others), ?_, Instance.unites_merge _ _⟩
      rw [instancesAt_merge (by simp [group]), group]
      rfl

end Service

end ServiceMesh
