import Mathlib.Data.List.Induction
import ServiceMesh.Pipeline.Merge
import ServiceMesh.Proofs.SortedMap
import ServiceMesh.Proofs.SortedSet

/-! Merging leaves one instance for each target that had any, and has nothing more to do then. -/
namespace ServiceMesh

variable {instances group : List Instance} {target : Target} {i j : Instance} {service : Service}

/-! ### Groups -/

theorem groupByTarget_snoc (instances : List Instance) (i : Instance) :
    groupByTarget (instances ++ [i]) = (groupByTarget instances).insert i.target
      (((groupByTarget instances).get? i.target).getD [] ++ [i]) := by
  rw [groupByTarget, List.foldl_append]
  rfl

theorem getD_groupByTarget (instances : List Instance) (target : Target) :
    ((groupByTarget instances).get? target).getD [] = instances.filter (·.target = target) := by
  induction instances using List.reverseRecOn with
  | nil => rfl
  | append_singleton instances i ih =>
      rw [groupByTarget_snoc, SortedMap.get?_insert, List.filter_append]
      by_cases here : i.target = target
      · simp [here, ih]
      · simp [here, ih]

theorem group_ne_nil (found : (groupByTarget instances).get? target = some group) : group ≠ [] := by
  induction instances using List.reverseRecOn with
  | nil => contradiction
  | append_singleton instances i ih =>
      rw [groupByTarget_snoc, SortedMap.get?_insert] at found
      split at found
      case isTrue =>
        cases found
        simp
      case isFalse => exact ih found

/-- The groups are those of the targets that have instances, with all of them in their order. -/
theorem mem_groupByTarget : (target, group) ∈ (groupByTarget instances).entries ↔
    group = instances.filter (·.target = target) ∧ group ≠ [] := by
  rw [← SortedMap.get?_eq_some_iff]
  have all := getD_groupByTarget instances target
  constructor
  · intro found
    rw [found] at all
    exact ⟨all, group_ne_nil found⟩
  · rintro ⟨rfl, nonempty⟩
    cases found : (groupByTarget instances).get? target with
    | none =>
        rw [found] at all
        exact absurd all.symm nonempty
    | some group =>
        rw [found] at all
        exact congrArg some all

/-! ### Merged services -/

/-- No two instances share a target. -/
def Service.Distinct (service : Service) : Prop :=
  ∀ i ∈ service.instances, ∀ j ∈ service.instances, i.target = j.target → i = j

/-- Each group is a single instance exactly if no two instances share a target. -/
theorem Service.groups_single_iff (service : Service) :
    (groupByTarget service.instances.toList).values.all (·.length == 1) = true ↔
      service.Distinct := by
  simp only [SortedMap.values, List.all_map, List.all_eq_true, Function.comp, beq_iff_eq,
    Prod.forall, mem_groupByTarget]
  constructor
  · intro single i iKnown j jKnown same
    have both : i ∈ service.instances.toList.filter (·.target = j.target) ∧
        j ∈ service.instances.toList.filter (·.target = j.target) := by
      simp [List.mem_filter, iKnown, jKnown, same]
    have one := single j.target _ ⟨rfl, List.ne_nil_of_mem both.1⟩
    obtain ⟨only, alone⟩ := List.length_eq_one_iff.mp one
    rw [alone, List.mem_singleton, List.mem_singleton] at both
    exact both.1.trans both.2.symm
  · rintro distinct target group ⟨rfl, nonempty⟩
    have nodup := service.instances.nodup.filter (·.target = target)
    have known : ∀ i ∈ service.instances.toList.filter (·.target = target),
        i ∈ service.instances ∧ i.target = target := by
      simp [List.mem_filter]
    rcases split : service.instances.toList.filter (·.target = target) with _ | ⟨i, _ | ⟨j, others⟩⟩
    · exact absurd split nonempty
    · rw [split, List.length_singleton]
    · -- Two instances of one group share its target, so they are the same one, listed twice.
      rw [split] at nodup known
      have iKnown := known i (by simp)
      have jKnown := known j (by simp)
      have same := distinct i iKnown.1 j jKnown.1 (iKnown.2.trans jKnown.2.symm)
      simp [same] at nodup

theorem Service.merge_of_distinct (distinct : service.Distinct) : service.merge = service := by
  rw [Service.merge, if_pos ((groups_single_iff service).mpr distinct)]

/-- What is merged stays where it was. -/
theorem Instance.target_mergeGroup (known : (target, group) ∈ (groupByTarget instances).entries) :
    (Instance.mergeGroup target group).target = target := by
  have here : ∀ i ∈ group, i.target = target := by
    obtain ⟨rfl, -⟩ := mem_groupByTarget.mp known
    simp [List.mem_filter]
  match group, here with
  | [], _ => rfl
  | [only], here => exact here only List.mem_cons_self
  | _ :: _ :: _, _ => rfl

/-- Merging changes nothing, or there is an instance for each group. -/
theorem Service.merge_cases (service : Service) :
    service.Distinct ∧ service.merge = service ∨
      ∀ i ∈ service.merge.instances, ∃ target group,
        (target, group) ∈ (groupByTarget service.instances.toList).entries ∧
          i = Instance.mergeGroup target group := by
  by_cases distinct : service.Distinct
  · exact .inl ⟨distinct, merge_of_distinct distinct⟩
  · refine .inr fun i member => ?_
    rw [Service.merge, if_neg (mt (groups_single_iff service).mp distinct), SortedSet.mem_ofList,
      List.mem_map] at member
    obtain ⟨⟨target, group⟩, known, rfl⟩ := member
    exact ⟨target, group, known, rfl⟩

/-- Merging brings up no new target. -/
theorem Service.exists_target_of_mem_merge (member : i ∈ service.merge.instances) :
    ∃ j ∈ service.instances, j.target = i.target := by
  rcases merge_cases service with ⟨-, same⟩ | groups
  · rw [same] at member
    exact ⟨i, member, rfl⟩
  · obtain ⟨target, group, known, rfl⟩ := groups i member
    obtain ⟨rfl, nonempty⟩ := mem_groupByTarget.mp known
    obtain ⟨j, inGroup⟩ := List.exists_mem_of_ne_nil _ nonempty
    obtain ⟨inService, here⟩ := List.mem_filter.mp inGroup
    refine ⟨j, inService, ?_⟩
    rw [Instance.target_mergeGroup known]
    exact of_decide_eq_true here

theorem Service.name_merge (service : Service) : service.merge.name = service.name := by
  dsimp only [Service.merge]
  split <;> rfl

theorem Service.distinct_merge (service : Service) : service.merge.Distinct := by
  rcases merge_cases service with ⟨distinct, same⟩ | groups
  · rwa [same]
  · intro i iKnown j jKnown same
    obtain ⟨target, group, known, rfl⟩ := groups i iKnown
    obtain ⟨other, others, alsoKnown, rfl⟩ := groups j jKnown
    rw [Instance.target_mergeGroup known, Instance.target_mergeGroup alsoKnown] at same
    subst other
    rw [SortedMap.eq_of_mem known alsoKnown]

end ServiceMesh
