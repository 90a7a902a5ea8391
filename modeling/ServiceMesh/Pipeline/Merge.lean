import ServiceMesh.Service.Basic

/-! Merging the instances of a service that listen at one address and port. -/
namespace ServiceMesh

structure Target where
  address : String
  port : UInt32
deriving DecidableEq

namespace Target

instance : Ord Target := ⟨compareLex (compareOn address) (compareOn port)⟩

instance : Std.TransOrd Target :=
  inferInstanceAs (Std.TransCmp (compareLex (compareOn address) (compareOn port)))

instance : Std.LawfulEqOrd Target where
  eq_of_compare {a b} equal := by
    have equal : compareLex (compareOn address) (compareOn port) a b = .eq := equal
    simp only [compareLex_eq_eq, compareOn, Std.LawfulEqOrd.compare_eq_iff_eq] at equal
    obtain ⟨address, port⟩ := equal
    cases a
    cases b
    simp_all

end Target

def Instance.target (i : Instance) : Target := ⟨i.address, i.port⟩

/-- The instances at each target, in their order. -/
def groupByTarget (instances : List Instance) : SortedMap Target (List Instance) :=
  instances.foldl
    (fun groups i => groups.insert i.target ((groups.get? i.target).getD [] ++ [i])) ∅

/-- The sum, capped at the largest 32-bit number. -/
def saturatingSum (weights : List UInt32) : UInt32 :=
  UInt32.ofNat (min (weights.foldr (fun weight sum => weight.toNat + sum) 0) (UInt32.size - 1))

/-- One instance in place of several that share a target. -/
def Instance.merge (target : Target) (group : List Instance) : Instance where
  id := String.intercalate "," (group.map Instance.id)
  tags := SortedSet.ofList (group.flatMap fun i => i.tags.toList)
  address := target.address
  port := target.port
  healthy := group.any Instance.healthy
  regular := group.any Instance.regular
  canary := group.any Instance.canary
  weight := saturatingSum (group.map Instance.weight)

/-- An instance that has its target to itself stays as it is. -/
def Instance.mergeGroup (target : Target) : List Instance → Instance
  | [only] => only
  | group => Instance.merge target group

/-- Leaves one instance for each target. -/
def Service.merge (service : Service) : Service :=
  let groups := groupByTarget service.instances.toList
  if groups.values.all (·.length == 1) then service
  else ⟨service.name, SortedSet.ofList
    (groups.entries.map fun group => Instance.mergeGroup group.1 group.2)⟩

end ServiceMesh
