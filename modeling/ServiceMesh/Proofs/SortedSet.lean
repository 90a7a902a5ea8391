import Mathlib.Data.List.Sort
import ServiceMesh.SortedSet

/-! A sorted set is determined by its members, and each operation says what it does to
membership. -/
namespace ServiceMesh.SortedSet

variable {α : Type} [Ord α]

@[simp]
theorem mem_toList {s : SortedSet α} {a : α} : a ∈ s.toList ↔ a ∈ s := Iff.rfl

@[simp]
theorem notMem_empty (a : α) : a ∉ (∅ : SortedSet α) := List.not_mem_nil

theorem isEmpty_iff {s : SortedSet α} : s.isEmpty = true ↔ s = ∅ := by
  unfold isEmpty
  rw [List.isEmpty_iff]
  exact ⟨fun none => ext none, fun same => congrArg toList same⟩

@[simp]
theorem mem_filter {s : SortedSet α} {p : α → Bool} {a : α} :
    a ∈ s.filter p ↔ a ∈ s ∧ p a = true := List.mem_filter

theorem nodup [Std.TransOrd α] (s : SortedSet α) : s.toList.Nodup :=
  s.sorted.imp fun {a b} below same => by
    subst b
    simp at below

theorem ext_mem [Std.TransOrd α] {s t : SortedSet α} (same : ∀ a, a ∈ s ↔ a ∈ t) : s = t := by
  have perm : s.toList.Perm t.toList :=
    (List.perm_ext_iff_of_nodup s.nodup t.nodup).mpr same
  have asymm : ∀ a b : α, a ∈ s.toList → b ∈ t.toList →
      compare a b = .lt → compare b a = .lt → a = b :=
    fun a b _ _ below above => absurd above (Std.OrientedCmp.not_lt_of_lt below)
  exact ext (perm.eq_of_pairwise asymm s.sorted t.sorted)

variable [Std.LawfulEqOrd α]

@[simp]
theorem contains_iff {s : SortedSet α} {a : α} : s.contains a = true ↔ a ∈ s := by
  simp [contains]

@[simp]
theorem mem_erase {s : SortedSet α} {a x : α} : x ∈ s.erase a ↔ x ∈ s ∧ x ≠ a := by
  simp [erase, ne_comm (a := x)]

theorem mem_foldl_erase {l : List α} {s : SortedSet α} {x : α} :
    x ∈ l.foldl erase s ↔ x ∈ s ∧ x ∉ l := by
  induction l generalizing s with
  | nil => simp
  | cons a rest ih =>
      simp only [List.foldl_cons, ih, mem_erase, List.mem_cons]
      tauto

theorem mem_place_iff {a x : α} {l : List α} : x ∈ place a l ↔ x = a ∨ x ∈ l := by
  refine ⟨mem_place, fun member => ?_⟩
  induction l with
  | nil => simpa [place] using member
  | cons b rest ih =>
      unfold place
      split
      case h_1 => simpa using member
      case h_2 equal =>
        have same : a = b := Std.LawfulEqOrd.eq_of_compare equal
        rcases member with rfl | member
        · exact same ▸ List.mem_cons_self
        · exact member
      case h_3 =>
        rcases member with rfl | member
        · exact List.mem_cons_of_mem _ (ih (.inl rfl))
        · rcases List.mem_cons.mp member with rfl | later
          · exact List.mem_cons_self
          · exact List.mem_cons_of_mem _ (ih (.inr later))

variable [Std.TransOrd α]

@[simp]
theorem mem_insert {s : SortedSet α} {a x : α} : x ∈ s.insert a ↔ x = a ∨ x ∈ s := mem_place_iff

theorem mem_foldl_insert {l : List α} {s : SortedSet α} {x : α} :
    x ∈ l.foldl insert s ↔ x ∈ l ∨ x ∈ s := by
  induction l generalizing s with
  | nil => simp
  | cons a rest ih =>
      simp only [List.foldl_cons, ih, mem_insert, List.mem_cons]
      tauto

@[simp]
theorem mem_ofList {l : List α} {x : α} : x ∈ ofList l ↔ x ∈ l := by
  simp [ofList, mem_foldl_insert]

theorem size_ofList {l : List α} (distinct : l.Nodup) : (ofList l).size = l.length := by
  have perm : (ofList l).toList.Perm l :=
    (List.perm_ext_iff_of_nodup (nodup _) distinct).mpr fun _ => mem_ofList
  exact perm.length_eq

/-- The order of a list has no part in its set. -/
theorem ofList_eq_of_perm {l l' : List α} (perm : l.Perm l') : ofList l = ofList l' := by
  apply ext_mem
  intro a
  rw [mem_ofList, mem_ofList]
  exact perm.mem_iff

/-- A set is told by its members. -/
theorem ofList_toList (s : SortedSet α) : ofList s.toList = s := ext_mem fun _ => mem_ofList

@[simp]
theorem mem_union {s t : SortedSet α} {x : α} : x ∈ s.union t ↔ x ∈ s ∨ x ∈ t := by
  simp [union, mem_foldl_insert, or_comm]

end ServiceMesh.SortedSet
