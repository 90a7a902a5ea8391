/-! Finite sets as strictly ascending lists, so equal sets are equal values. -/
namespace ServiceMesh

structure SortedSet (α : Type) [Ord α] where
  toList : List α
  sorted : toList.Pairwise fun a b => compare a b = .lt
deriving DecidableEq

namespace SortedSet

variable {α : Type} [Ord α]

instance : EmptyCollection (SortedSet α) := ⟨⟨[], .nil⟩⟩

instance : Inhabited (SortedSet α) := ⟨∅⟩

instance : Membership α (SortedSet α) := ⟨fun s a => a ∈ s.toList⟩

def size (s : SortedSet α) : Nat := s.toList.length

def isEmpty (s : SortedSet α) : Bool := s.toList.isEmpty

def contains (s : SortedSet α) (a : α) : Bool := s.toList.any fun b => compare a b == .eq

/-- Places an element before the first larger one; an element that is there stays as it is. -/
def place (a : α) : List α → List α
  | [] => [a]
  | b :: rest =>
      match compare a b with
      | .lt => a :: b :: rest
      | .eq => b :: rest
      | .gt => b :: place a rest

theorem mem_place {a x : α} {l : List α} (member : x ∈ place a l) : x = a ∨ x ∈ l := by
  induction l with
  | nil => exact .inl (List.mem_singleton.mp member)
  | cons b rest ih =>
      unfold place at member
      split at member
      · exact List.mem_cons.mp member
      · exact .inr member
      · rcases List.mem_cons.mp member with same | later
        · exact .inr (same ▸ List.mem_cons_self)
        · exact (ih later).imp id (List.mem_cons_of_mem _)

theorem sorted_place [Std.TransOrd α] (a : α) {l : List α}
    (sorted : l.Pairwise fun x y => compare x y = .lt) :
    (place a l).Pairwise fun x y => compare x y = .lt := by
  induction l with
  | nil => exact List.pairwise_singleton _ _
  | cons b rest ih =>
      obtain ⟨head, tail⟩ := List.pairwise_cons.mp sorted
      unfold place
      split
      case h_1 below =>
        refine List.pairwise_cons.mpr ⟨fun x member => ?_, sorted⟩
        rcases List.mem_cons.mp member with same | later
        · exact same ▸ below
        · exact Std.TransCmp.lt_trans below (head x later)
      case h_2 => exact sorted
      case h_3 above =>
        refine List.pairwise_cons.mpr ⟨fun x member => ?_, ih tail⟩
        rcases mem_place member with same | later
        · exact same ▸ Std.OrientedCmp.lt_of_gt above
        · exact head x later

def insert [Std.TransOrd α] (s : SortedSet α) (a : α) : SortedSet α :=
  ⟨place a s.toList, sorted_place a s.sorted⟩

def filter (p : α → Bool) (s : SortedSet α) : SortedSet α :=
  ⟨s.toList.filter p, s.sorted.filter _⟩

def erase (s : SortedSet α) (a : α) : SortedSet α := s.filter fun b => compare a b != .eq

def ofList [Std.TransOrd α] (l : List α) : SortedSet α :=
  l.foldl insert ∅

def union [Std.TransOrd α] (s t : SortedSet α) : SortedSet α :=
  t.toList.foldl insert s

/-- Sets are ordered as their ascending lists are. -/
instance : Ord (SortedSet α) := ⟨fun s t => compare s.toList t.toList⟩

instance [Std.TransOrd α] : Std.TransOrd (SortedSet α) :=
  inferInstanceAs (Std.TransCmp (compareOn fun s : SortedSet α => s.toList))

theorem ext {s t : SortedSet α} (same : s.toList = t.toList) : s = t := by
  cases s
  cases t
  cases same
  rfl

instance [Std.TransOrd α] [Std.LawfulEqOrd α] : Std.LawfulEqOrd (SortedSet α) where
  eq_of_compare equal := ext (Std.LawfulEqOrd.eq_of_compare equal)

end SortedSet

end ServiceMesh
