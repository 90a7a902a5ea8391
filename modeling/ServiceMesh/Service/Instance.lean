import ServiceMesh.SortedSet

/-! One running instance of a service. -/
namespace ServiceMesh

structure Instance where
  id : String
  tags : SortedSet String
  address : String
  port : UInt32
  healthy : Bool
  regular : Bool
  canary : Bool
  weight : UInt32
deriving DecidableEq

namespace Instance

/-- Instances are ordered by their fields from first to last. -/
def order : Instance → Instance → Ordering :=
  compareLex (compareOn id) <| compareLex (compareOn tags) <| compareLex (compareOn address) <|
    compareLex (compareOn port) <| compareLex (compareOn healthy) <|
    compareLex (compareOn regular) <| compareLex (compareOn canary) (compareOn weight)

instance : Ord Instance := ⟨order⟩

instance : Std.TransOrd Instance :=
  inferInstanceAs (Std.TransCmp <|
    compareLex (compareOn id) <| compareLex (compareOn tags) <| compareLex (compareOn address) <|
    compareLex (compareOn port) <| compareLex (compareOn healthy) <|
    compareLex (compareOn regular) <| compareLex (compareOn canary) (compareOn weight))

instance : Std.LawfulEqOrd Instance where
  eq_of_compare {a b} equal := by
    have equal : order a b = .eq := equal
    simp only [order, compareLex_eq_eq, compareOn, Std.LawfulEqOrd.compare_eq_iff_eq] at equal
    obtain ⟨id, tags, address, port, healthy, regular, canary, weight⟩ := equal
    cases a
    cases b
    simp_all

end Instance

end ServiceMesh
