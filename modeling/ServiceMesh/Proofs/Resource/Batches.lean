import Mathlib.Data.Finset.Card
import ServiceMesh.Proofs.Resource.Interning

/-! A batch of collections that a cache serializes, one after the other, while all handles that it gives
out are kept and all that were held before stay held. What the batch costs depends on which
collections are in it, and not on their order. -/
namespace ServiceMesh.ResourceCache

variable {α : Type} [DecidableEq α] [Resource α]

/-- The collections that somebody holds. -/
def alive (cache : ResourceCache α) (held : Held) : Finset (List α) :=
  ((live held cache.slots).map (·.handle.resources)).toFinset

theorem Serves.mem_alive {cache : ResourceCache α} {handles : List (Handle α)}
    (serves : cache.Serves handles) {resources : List α} :
    resources ∈ cache.alive (handles.map Handle.id) ↔ resources ∈ handles.map Handle.resources := by
  rw [alive, List.mem_toFinset, List.mem_map, List.mem_map]
  constructor
  · rintro ⟨slot, member, rfl⟩
    obtain ⟨listed, held⟩ := mem_live.mp member
    exact ⟨slot.handle, serves.handle_mem listed held, rfl⟩
  · rintro ⟨handle, held, rfl⟩
    exact ⟨_, mem_live.mpr ⟨serves.wire?_eq held, List.mem_map_of_mem held⟩, rfl⟩

/-- The collections that are new among those of some handles. -/
def news (held taken : List (Handle α)) : Finset (List α) :=
  (taken.map Handle.resources).toFinset \ (held.map Handle.resources).toFinset

omit [Resource α] in
theorem news_cons (held taken : List (Handle α)) (handle : Handle α) :
    news held (handle :: taken) =
      if handle.resources ∈ (taken ++ held).map Handle.resources then news held taken
      else insert handle.resources (news held taken) := by
  rw [List.map_append]
  unfold news
  rw [List.map_cons, List.toFinset_cons]
  split
  case isTrue known =>
    rcases List.mem_append.mp known with before | always
    · rw [Finset.insert_eq_self.mpr (List.mem_toFinset.mpr before)]
    · rw [Finset.insert_sdiff_of_mem _ (List.mem_toFinset.mpr always)]
  case isFalse fresh =>
    have strange : handle.resources ∉ (held.map Handle.resources).toFinset := by
      rw [List.mem_toFinset]
      intro always
      exact fresh (List.mem_append_right _ always)
    rw [Finset.insert_sdiff_of_notMem _ strange]

/-- A cache behind a batch: `held` was held all the while, `taken` was given out and is held now. -/
structure Batch (before : ResourceCache α) (held : List (Handle α)) (cache : ResourceCache α)
    (taken : List (Handle α)) : Prop where
  serves : cache.Serves (taken ++ held)
  encoded : ∀ handle ∈ taken ++ held, (cache.wire? handle).isSome = true
  counted : cache.serializations = before.serializations + (news held taken).card

namespace Batch

variable {before cache : ResourceCache α} {held taken others handles : List (Handle α)}
  {resources : List α}

theorem start (serves : before.Serves held)
    (encoded : ∀ handle ∈ held, (before.wire? handle).isSome = true) : Batch before held before [] :=
  ⟨serves, encoded, by simp [news]⟩

/-- The order of what was taken makes no difference. -/
theorem congr (batch : Batch before held cache taken)
    (same : ∀ handle, handle ∈ others ↔ handle ∈ taken) : Batch before held cache others := by
  have whole (handle : Handle α) (member : handle ∈ others ++ held) : handle ∈ taken ++ held := by
    rw [List.mem_append] at member ⊢
    exact member.imp (same handle).mp id
  refine ⟨batch.serves.mono whole, fun handle member => batch.encoded handle (whole handle member), ?_⟩
  rw [batch.counted, news, news]
  congr 3
  ext collection
  simp only [List.mem_toFinset, List.mem_map, same]

/-- All collections that are known are encoded, so that one is encoded now exactly if it is new. -/
theorem encodes_iff (batch : Batch before held cache taken)
    (all : ∀ handle, handle ∈ handles ↔ handle ∈ taken ++ held) :
    cache.Encodes handles resources ↔ resources ∈ (taken ++ held).map Handle.resources := by
  rw [List.mem_map]
  constructor
  · rintro ⟨handle, member, same, -⟩
    exact ⟨handle, (all handle).mp member, same⟩
  · rintro ⟨handle, member, same⟩
    exact ⟨handle, (all handle).mpr member, same, batch.encoded handle member⟩

/-- One collection more is serialized, by someone who knows all handles that are held. -/
theorem serialize (batch : Batch before held cache taken)
    (all : ∀ handle, handle ∈ handles ↔ handle ∈ taken ++ held) (resources : List α) :
    Batch before held (cache.serialize (handles.map Handle.id) resources).2
      ((cache.serialize (handles.map Handle.id) resources).1 :: taken) := by
  have serving : cache.Serves handles := batch.serves.mono fun handle => (all handle).mp
  have own := serialize_resources cache (handles.map Handle.id) resources
  have served := serving.serialize resources
  have whole : (cache.serialize (handles.map Handle.id) resources).1 :: (taken ++ held) ⊆
      (cache.serialize (handles.map Handle.id) resources).1 :: handles :=
    List.cons_subset_cons _ fun handle => (all handle).mpr
  refine ⟨served.mono whole, fun handle member => ?_, ?_⟩
  · rcases List.mem_cons.mp (whole member) with rfl | known
    · rw [serving.wire?_serialize_own]
      rfl
    · by_cases same : handle.resources = resources
      · have shared := served.shared _ List.mem_cons_self _ (List.mem_cons_of_mem _ known)
          (own.trans same.symm)
        rw [← shared, serving.wire?_serialize_own]
        rfl
      · rw [serving.wire?_serialize known same]
        exact batch.encoded handle ((all handle).mp known)
  · rw [news_cons, own]
    rcases serving.serialize_cases resources with ⟨encodes, same⟩ | ⟨lacks, computed⟩
    · rw [if_pos ((batch.encodes_iff all).mp encodes), same, serializations_intern, batch.counted]
    · have fresh := mt (batch.encodes_iff all).mpr lacks
      have unlisted : resources ∉ news held taken := by
        rw [news, Finset.mem_sdiff, List.mem_toFinset]
        rintro ⟨listed, -⟩
        rw [List.map_append] at fresh
        exact fresh (List.mem_append_left _ listed)
      rw [if_neg fresh, computed, Finset.card_insert_of_notMem unlisted, batch.counted]
      rfl

end Batch

end ServiceMesh.ResourceCache
