/-! Finite maps as lists of entries in strictly ascending key order, so equal maps are equal
values. -/
namespace ServiceMesh

structure SortedMap (κ ν : Type) [Ord κ] where
  entries : List (κ × ν)
  sorted : entries.Pairwise fun a b => compare a.1 b.1 = .lt
deriving DecidableEq

namespace SortedMap

variable {κ ν μ : Type} [Ord κ]

instance : EmptyCollection (SortedMap κ ν) := ⟨⟨[], .nil⟩⟩

instance : Inhabited (SortedMap κ ν) := ⟨∅⟩

instance [Hashable κ] [Hashable ν] : Hashable (SortedMap κ ν) := ⟨fun m => hash m.entries⟩

def keys (m : SortedMap κ ν) : List κ := m.entries.map (·.1)

def values (m : SortedMap κ ν) : List ν := m.entries.map (·.2)

def size (m : SortedMap κ ν) : Nat := m.entries.length

def isEmpty (m : SortedMap κ ν) : Bool := m.entries.isEmpty

def get? (m : SortedMap κ ν) (key : κ) : Option ν :=
  (m.entries.find? fun entry => compare key entry.1 == .eq).map (·.2)

def contains (m : SortedMap κ ν) (key : κ) : Bool := (m.get? key).isSome

/-- Places an entry before the first larger key; an entry of the same key is replaced. -/
def place (key : κ) (value : ν) : List (κ × ν) → List (κ × ν)
  | [] => [(key, value)]
  | entry :: rest =>
      match compare key entry.1 with
      | .lt => (key, value) :: entry :: rest
      | .eq => (key, value) :: rest
      | .gt => entry :: place key value rest

theorem mem_place {key : κ} {value : ν} {entries : List (κ × ν)} {e : κ × ν}
    (member : e ∈ place key value entries) : e = (key, value) ∨ e ∈ entries := by
  induction entries with
  | nil => exact .inl (List.mem_singleton.mp member)
  | cons entry rest ih =>
      unfold place at member
      split at member
      · exact (List.mem_cons.mp member)
      · exact (List.mem_cons.mp member).imp id (List.mem_cons_of_mem _)
      · rcases List.mem_cons.mp member with same | later
        · exact .inr (same ▸ List.mem_cons_self)
        · exact (ih later).imp id (List.mem_cons_of_mem _)

theorem sorted_place [Std.TransOrd κ] (key : κ) (value : ν) {entries : List (κ × ν)}
    (sorted : entries.Pairwise fun a b => compare a.1 b.1 = .lt) :
    (place key value entries).Pairwise fun a b => compare a.1 b.1 = .lt := by
  induction entries with
  | nil => exact List.pairwise_singleton _ _
  | cons entry rest ih =>
      obtain ⟨head, tail⟩ := List.pairwise_cons.mp sorted
      unfold place
      split
      case h_1 below =>
        refine List.pairwise_cons.mpr ⟨fun e member => ?_, sorted⟩
        rcases List.mem_cons.mp member with same | later
        · exact same ▸ below
        · exact Std.TransCmp.lt_trans below (head e later)
      case h_2 equal =>
        exact List.pairwise_cons.mpr
          ⟨fun e later => Std.TransCmp.lt_of_eq_of_lt equal (head e later), tail⟩
      case h_3 above =>
        refine List.pairwise_cons.mpr ⟨fun e member => ?_, ih tail⟩
        rcases mem_place member with same | later
        · exact same ▸ Std.OrientedCmp.lt_of_gt above
        · exact head e later

def insert [Std.TransOrd κ] (m : SortedMap κ ν) (key : κ) (value : ν) : SortedMap κ ν :=
  ⟨place key value m.entries, sorted_place key value m.sorted⟩

def filter (p : κ → ν → Bool) (m : SortedMap κ ν) : SortedMap κ ν :=
  ⟨m.entries.filter fun entry => p entry.1 entry.2, m.sorted.filter _⟩

def erase (m : SortedMap κ ν) (key : κ) : SortedMap κ ν :=
  m.filter fun k _ => compare key k != .eq

def map (f : κ → ν → μ) (m : SortedMap κ ν) : SortedMap κ μ :=
  ⟨m.entries.map fun entry => (entry.1, f entry.1 entry.2), by
    rw [List.pairwise_map]
    exact m.sorted⟩

/-- A later entry of a key replaces an earlier one. -/
def ofList [Std.TransOrd κ] (entries : List (κ × ν)) : SortedMap κ ν :=
  entries.foldl (fun m entry => m.insert entry.1 entry.2) ∅

/-- Applies `f` to the value at `key`, if there is one. -/
def modify (m : SortedMap κ ν) (key : κ) (f : ν → ν) : SortedMap κ ν :=
  m.map fun k v => if compare key k == .eq then f v else v

end SortedMap

end ServiceMesh
