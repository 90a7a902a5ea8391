import ServiceMesh.Watched

/-! An offer leaves the offered value, and counts as news exactly if that makes a difference. -/
namespace ServiceMesh.Watched

variable {α : Type} [DecidableEq α]

theorem value_offer (watched : Watched α) (value : α) : (watched.offer value).value = value := by
  unfold offer
  split
  case isTrue same => exact same
  case isFalse => rfl

theorem revision_offer (watched : Watched α) (value : α) :
    (watched.offer value).revision =
      watched.revision + if value = watched.value then 0 else 1 := by
  unfold offer
  split
  case isTrue same => rw [if_pos same.symm, Nat.add_zero]
  case isFalse differs => rw [if_neg (Ne.symm differs), set]

theorem isNewsSince_offer (watched : Watched α) (value : α) :
    (watched.offer value).isNewsSince watched.revision = true ↔ value ≠ watched.value := by
  rw [isNewsSince, revision_offer, bne_iff_ne]
  split
  case isTrue same => simp [same]
  case isFalse differs => simp [differs]

end ServiceMesh.Watched
