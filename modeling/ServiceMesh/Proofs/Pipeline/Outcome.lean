import Mathlib.Data.List.TakeWhile
import ServiceMesh.Proofs.Pipeline.Standard

/-! What comes out of the standard pipeline, told without its stages. It looks at those instances of a
service alone that have an address and a port of TCP: the service is kept if they all have IP addresses,
and then it has them merged. -/
namespace ServiceMesh

/-- White space is all that a text consists of if nothing is left of it without the white space at
its ends. -/
theorem Text.trim_eq_nil_iff {text : List Char} :
    Text.trim text = [] ↔ ∀ c ∈ text, Text.isBlank c = true := by
  have halves : text.takeWhile isBlank ++ text.dropWhile isBlank = text :=
    List.takeWhile_append_dropWhile
  rw [trim, trimEnd, List.reverse_eq_nil_iff, List.dropWhile_eq_nil_iff, trimStart]
  constructor
  · intro behind c member
    rw [← halves, List.mem_append] at member
    rcases member with before | after
    · exact List.mem_takeWhile_imp before
    · exact behind c (List.mem_reverse.mpr after)
  · intro all c member
    rw [← halves] at all
    exact all c (List.mem_append_right _ (List.mem_reverse.mp member))

/-! ### Places -/

/-- An instance has a place if its address is not blank and its port is one of TCP. -/
structure Instance.Placed (i : Instance) : Prop where
  address : ∃ c ∈ i.address.toList, Text.isBlank c = false
  port : 1 ≤ i.port.toNat ∧ i.port.toNat ≤ 65535

theorem Instance.hasAddress_iff {i : Instance} :
    i.hasAddress = true ↔ ∃ c ∈ i.address.toList, Text.isBlank c = false := by
  rw [hasAddress, Bool.not_eq_true', ← Bool.not_eq_true, List.isEmpty_iff, Text.trim_eq_nil_iff]
  simp

theorem Instance.hasValidPort_iff {i : Instance} :
    i.hasValidPort = true ↔ 1 ≤ i.port.toNat ∧ i.port.toNat ≤ 65535 := by
  rw [hasValidPort, Bool.and_eq_true, decide_eq_true_iff, decide_eq_true_iff]
  exact Iff.rfl

theorem Instance.placed_iff {i : Instance} :
    i.Placed ↔ i.hasAddress = true ∧ i.hasValidPort = true := by
  rw [hasAddress_iff, hasValidPort_iff]
  constructor
  · rintro ⟨address, port⟩
    exact ⟨address, port⟩
  · rintro ⟨address, port⟩
    exact ⟨address, port⟩

instance : DecidablePred Instance.Placed := fun _ => decidable_of_iff _ Instance.placed_iff.symm

namespace Service

variable {denylist : Option Denylist} {service : Service}

theorem withPlaces_eq (service : Service) : service.withPlaces = service.retain (·.Placed) := by
  refine congrArg (Service.mk service.name) (SortedSet.ext_mem fun i => ?_)
  rw [retain, SortedSet.mem_filter, SortedSet.mem_filter, SortedSet.mem_filter, decide_eq_true_iff,
    Instance.placed_iff, and_assoc]

/-- A service is admitted if it is not excluded and each of its instances that has a place has an IP
address. -/
structure Admitted (denylist : Option Denylist) (service : Service) : Prop where
  allowed : ∀ patterns ∈ denylist, patterns.excludes service.name = false
  addressed : ∀ i ∈ service.instances, i.Placed → ∃ ip, IpAddress.parse? i.address = some ip

theorem admitted_iff : service.Admitted denylist ↔
    (denylist.any fun patterns => patterns.excludes service.name) = false ∧
      (service.retain (·.Placed)).instances.toList.all Instance.hasIpAddress = true := by
  have allowed : (denylist.any fun patterns => patterns.excludes service.name) = false ↔
      ∀ patterns ∈ denylist, patterns.excludes service.name = false := by
    cases denylist <;> simp
  have addressed : (service.retain (·.Placed)).instances.toList.all Instance.hasIpAddress = true ↔
      ∀ i ∈ service.instances, i.Placed → ∃ ip, IpAddress.parse? i.address = some ip := by
    simp [retain, Instance.hasIpAddress, Option.isSome_iff_exists]
  rw [allowed, addressed]
  constructor
  · rintro ⟨allowed, addressed⟩
    exact ⟨allowed, addressed⟩
  · rintro ⟨allowed, addressed⟩
    exact ⟨allowed, addressed⟩

instance : DecidablePred (Admitted denylist) := fun _ => decidable_of_iff _ admitted_iff.symm

/-- Whether a service is admitted is decided by its name and by the instances that have a place. -/
theorem admitted_congr {other : Service} (named : other.name = service.name)
    (placed : other.retain (·.Placed) = service.retain (·.Placed)) :
    other.Admitted denylist ↔ service.Admitted denylist := by
  rw [admitted_iff, admitted_iff, named, placed]

end Service

/-! ### The standard pipeline -/

namespace Pipeline

variable {denylist : Option Denylist}

theorem passOn_standard_eq (denylist : Option Denylist) (service : Service) :
    (standard denylist).passOn service =
      if service.Admitted denylist then some (service.retain (·.Placed)).merge else none := by
  rw [passOn_standard, Service.withPlaces_eq]
  by_cases admitted : service.Admitted denylist
  · obtain ⟨allowed, addressed⟩ := Service.admitted_iff.mp admitted
    rw [if_pos admitted, allowed, if_neg Bool.false_ne_true, if_pos addressed]
  · rw [if_neg admitted]
    split
    case isTrue => rfl
    case isFalse allowed =>
      rw [if_neg]
      intro addressed
      exact admitted (Service.admitted_iff.mpr ⟨eq_false_of_ne_true allowed, addressed⟩)

/-- The services that come out of the standard pipeline are the admitted ones in their order, each
with the merge of those of its instances that have a place. So no name comes up and none is moved,
what becomes of a service is the same without the other services, and an instance without a place
makes no difference, whatever it has for an address. -/
theorem apply_standard (denylist : Option Denylist) (services : List Service) :
    let pass := (standard denylist).apply
    pass services = (services.filter (·.Admitted denylist)).map
      (fun service => (service.retain (·.Placed)).merge) ∧
    ((pass services).map Service.name).Sublist (services.map Service.name) ∧
    pass services = services.flatMap (fun service => pass [service]) ∧
    ∀ service other : Service, other.name = service.name →
      (∀ i : Instance, i.Placed → (i ∈ other.instances ↔ i ∈ service.instances)) →
      pass [other] = pass [service] := by
  intro pass
  have outcome (services : List Service) : pass services =
      (services.filter (·.Admitted denylist)).map fun service => (service.retain (·.Placed)).merge := by
    rw [show pass services = _ from apply_eq _ _, ← List.filterMap_eq_map, List.filterMap_filter]
    refine List.filterMap_congr fun service _ => ?_
    rw [passOn_standard_eq]
    simp
  refine ⟨outcome services, ?_, ?_, fun service other named placed => ?_⟩
  · rw [outcome, List.map_map]
    have kept : Service.name ∘ (fun service => (service.retain (·.Placed)).merge) = Service.name :=
      funext fun service => Service.name_merge _
    rw [kept]
    exact List.filter_sublist.map _
  · rw [show pass services = _ from apply_eq _ _, List.filterMap_eq_flatMap_toList]
    refine congrArg (services.flatMap ·) (funext fun service => ?_)
    rw [show pass [service] = _ from apply_eq _ _]
    cases found : (standard denylist).passOn service <;> simp [found]
  · have same : other.retain (·.Placed) = service.retain (·.Placed) := by
      refine congrArg₂ Service.mk named (SortedSet.ext_mem fun i => ?_)
      rw [SortedSet.mem_filter, SortedSet.mem_filter, decide_eq_true_iff]
      exact and_congr_left (placed i)
    have admitted : other.Admitted denylist ↔ service.Admitted denylist :=
      Service.admitted_congr named same
    rw [outcome, outcome]
    by_cases known : service.Admitted denylist
    · simp [known, admitted.mpr known, same]
    · simp [known, mt admitted.mp known]

/-- A host name keeps a service out only where it has a place. -/
example :
    let lone (name address : String) (port : UInt32) : Service :=
      ⟨name, SortedSet.ofList [⟨name, ∅, address, port, true, true, false, 1⟩]⟩
    ((standard none).apply [lone "a" "a.org" 80, lone "b" "b.org" 0, lone "c" "10.0.0.1" 80]).map
      (fun service => (service.name, service.instances.toList.map Instance.address)) =
        [("b", []), ("c", ["10.0.0.1"])] := by
  decide +kernel

end Pipeline

end ServiceMesh
