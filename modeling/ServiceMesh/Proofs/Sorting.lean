import Mathlib.Data.List.Sort

/-! Lists put in order by a comparison. -/
namespace ServiceMesh.Sorting

variable {α : Type} {cmp : α → α → Ordering} [Std.TransCmp cmp]

theorem isLE_total (a b : α) : ((cmp a b).isLE || (cmp b a).isLE) = true := by
  have swapped : cmp b a = (cmp a b).swap := Std.OrientedCmp.eq_swap
  rw [swapped]
  cases cmp a b <;> rfl

theorem pairwise_mergeSort (l : List α) :
    (l.mergeSort fun a b => (cmp a b).isLE).Pairwise fun a b => (cmp a b).isLE = true := by
  apply List.pairwise_mergeSort
  · intro a b c first second
    exact Std.TransCmp.isLE_trans first second
  · exact isLE_total

/-- Where the comparison tells all elements apart, the order in which they are given is lost. -/
theorem mergeSort_eq_of_perm {l l' : List α} (perm : l.Perm l')
    (told : ∀ a ∈ l, ∀ b ∈ l, cmp a b = .eq → a = b) :
    l.mergeSort (fun a b => (cmp a b).isLE) = l'.mergeSort fun a b => (cmp a b).isLE := by
  have rearranged : (l.mergeSort fun a b => (cmp a b).isLE).Perm
      (l'.mergeSort fun a b => (cmp a b).isLE) :=
    (List.mergeSort_perm l _).trans (perm.trans (List.mergeSort_perm l' _).symm)
  refine rearranged.eq_of_pairwise ?_ (pairwise_mergeSort l) (pairwise_mergeSort l')
  intro a b member other upTo downTo
  have listed : b ∈ l := perm.mem_iff.mpr (List.mem_mergeSort.mp other)
  exact told a (List.mem_mergeSort.mp member) b listed (Std.OrientedCmp.isLE_antisymm upTo downTo)

end ServiceMesh.Sorting
