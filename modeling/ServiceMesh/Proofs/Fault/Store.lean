import ServiceMesh.Fault.Store
import ServiceMesh.Proofs.SortedMap

/-! Faults filed under their ids. A deletion takes away the fault of one id and no other. -/
namespace ServiceMesh

namespace FaultStore

variable {store : FaultStore} {now : Time} {fault other : Fault} {id : String}

/-- Each fault is filed under its own id. -/
def Keyed (store : FaultStore) : Prop :=
  ∀ id entry, store.byId.get? id = some entry → entry.fault.id = id

theorem Keyed.start : (∅ : FaultStore).Keyed := fun _ _ found => by contradiction

theorem Keyed.save (keyed : store.Keyed) (now : Time) (fault : Fault) :
    (store.save now fault).Keyed := by
  intro id entry found
  rw [FaultStore.save, SortedMap.get?_insert] at found
  split at found
  case isTrue own =>
    obtain rfl := Option.some.inj found
    exact own
  case isFalse => exact keyed id entry found

theorem Keyed.filter (keyed : store.Keyed) (p : String → TimedFault → Bool) :
    Keyed ⟨store.byId.filter p⟩ := by
  intro id entry found
  rw [SortedMap.get?_filter] at found
  exact keyed id entry (Option.filter_eq_some_iff.mp found).1

theorem Keyed.delete (keyed : store.Keyed) (id : String) : (store.delete id).Keyed :=
  keyed.filter _

theorem Keyed.purge (keyed : store.Keyed) (now : Time) : (store.purge now).Keyed :=
  keyed.filter _

/-- Each listed fault is found under its id. -/
theorem Keyed.found_of_mem_live (keyed : store.Keyed) (member : fault ∈ store.live now) :
    ((store.purge now).byId.get? fault.id).map TimedFault.fault = some fault := by
  obtain ⟨entry, kept, rfl⟩ := List.mem_map.mp member
  obtain ⟨id, found⟩ := SortedMap.mem_values.mp kept
  rw [keyed.purge now id entry found, found, Option.map_some]

/-- No two listed faults have the same id. -/
theorem Keyed.eq_of_id (keyed : store.Keyed) (member : fault ∈ store.live now)
    (also : other ∈ store.live now) (same : fault.id = other.id) : fault = other := by
  have found := keyed.found_of_mem_live member
  rw [same, keyed.found_of_mem_live also] at found
  exact (Option.some.inj found).symm

theorem purge_delete (store : FaultStore) (id : String) (now : Time) :
    (store.delete id).purge now = (store.purge now).delete id := by
  refine congrArg FaultStore.mk (SortedMap.ext_get? fun key => ?_)
  simp only [purge, delete, SortedMap.erase, SortedMap.get?_filter, Option.filter_filter,
    Bool.and_comm]

/-- Without an id all faults are listed but the one of that id. -/
theorem Keyed.live_delete (keyed : store.Keyed) (id : String) (now : Time) :
    (store.delete id).live now = (store.live now).filter (·.id ≠ id) := by
  rw [live, live, purge_delete, SortedMap.values, SortedMap.values, List.map_map, List.map_map,
    List.filter_map]
  refine congrArg (List.map _) (List.filter_congr fun found member => ?_)
  obtain ⟨key, entry⟩ := found
  obtain rfl := keyed.purge now key entry (SortedMap.get?_eq_some_iff.mpr member)
  have apart : compare id entry.fault.id = .eq ↔ entry.fault.id = id :=
    Std.LawfulEqOrd.compare_eq_iff_eq.trans eq_comm
  exact Bool.eq_iff_iff.mpr (by simp [apart])

/-- A deletion takes away just one of the listed faults exactly if it names its id. -/
theorem Keyed.filter_id_eq_iff (keyed : store.Keyed) (member : fault ∈ store.live now) :
    (store.live now).filter (·.id ≠ id) = (store.live now).filter (· ≠ fault) ↔ id = fault.id := by
  constructor
  · intro same
    by_contra apart
    have left : fault ∈ (store.live now).filter (·.id ≠ id) :=
      List.mem_filter.mpr ⟨member, decide_eq_true (Ne.symm apart)⟩
    rw [same] at left
    exact of_decide_eq_true (List.mem_filter.mp left).2 rfl
  · rintro rfl
    refine List.filter_congr fun other also => decide_eq_decide.mpr (not_congr ?_)
    exact ⟨keyed.eq_of_id also member, fun same => same ▸ rfl⟩

end FaultStore

namespace FaultService

variable {service rest : FaultService} {now : Time} {listed : List Fault}

theorem list_eq_ok_iff : service.list now = .ok (listed, rest) ↔ service.outage = none ∧
    listed = service.store.live now ∧ rest = { service with store := service.store.purge now } := by
  unfold list
  cases service.outage with
  | none => simp [Prod.ext_iff, eq_comm]
  | some problem => simp

/-- What was listed is listed again. -/
theorem list_again (found : service.list now = .ok (listed, rest)) :
    rest.list now = .ok (listed, rest) := by
  obtain ⟨reachable, rfl, rfl⟩ := list_eq_ok_iff.mp found
  have again : (service.store.purge now).purge now = service.store.purge now := by
    refine congrArg FaultStore.mk (SortedMap.ext_get? fun id => ?_)
    simp only [FaultStore.purge, SortedMap.get?_filter, Option.filter_filter, Bool.and_self]
  refine list_eq_ok_iff.mpr ⟨reachable, ?_, ?_⟩
  · rw [FaultStore.live, FaultStore.live, again]
  · rw [again]

/-! ### What is filed under an id -/

variable {id : String} {entry : TimedFault}

theorem filed_of_list (found : service.list now = .ok (listed, rest))
    (filed : rest.store.byId.get? id = some entry) : service.store.byId.get? id = some entry := by
  obtain ⟨-, -, rfl⟩ := list_eq_ok_iff.mp found
  dsimp only at filed
  rw [FaultStore.purge, SortedMap.get?_filter] at filed
  exact (Option.filter_eq_some_iff.mp filed).1

theorem filed_of_submit {fault : Fault} (filed :
    ((service.submit now fault).toOption.getD service).store.byId.get? id = some entry) :
    service.outage = none ∧ fault.id = id ∧ entry = .submitted now fault ∨
      service.store.byId.get? id = some entry ∧ (service.outage = none → fault.id ≠ id) := by
  unfold submit at filed
  cases reach : service.outage with
  | some problem =>
      rw [reach] at filed
      exact .inr ⟨filed, fun reachable => by contradiction⟩
  | none =>
      rw [reach] at filed
      dsimp only [Except.toOption, Option.getD, FaultStore.save] at filed
      rw [SortedMap.get?_insert] at filed
      split at filed
      case isTrue own => exact .inl ⟨rfl, own, (Option.some.inj filed).symm⟩
      case isFalse apart => exact .inr ⟨filed, fun _ => apart⟩

theorem filed_of_delete {gone : String} (filed :
    ((service.delete gone).toOption.getD service).store.byId.get? id = some entry) :
    service.store.byId.get? id = some entry ∧ (service.outage = none → gone ≠ id) := by
  unfold delete at filed
  cases reach : service.outage with
  | some problem =>
      rw [reach] at filed
      exact ⟨filed, fun reachable => by contradiction⟩
  | none =>
      rw [reach] at filed
      dsimp only [Except.toOption, Option.getD, FaultStore.delete] at filed
      rw [SortedMap.get?_erase] at filed
      split at filed
      case isTrue => contradiction
      case isFalse apart => exact ⟨filed, fun _ => apart⟩

/-! ### Services within reach -/

/-- The store is within reach, and files each fault under its id. -/
structure Sound (service : FaultService) : Prop where
  reachable : service.outage = none
  keyed : service.store.Keyed

theorem Sound.start : start.Sound := ⟨rfl, .start⟩

theorem Sound.submit (sound : service.Sound) {fault : Fault}
    (submitted : service.submit now fault = .ok rest) : rest.Sound := by
  rw [FaultService.submit, sound.reachable] at submitted
  obtain rfl := Except.ok.inj submitted
  exact ⟨rfl, sound.keyed.save now fault⟩

theorem Sound.delete_eq (sound : service.Sound) (id : String) : service.delete id =
    .ok { service with store := service.store.delete id, revision := service.revision + 1 } := by
  rw [delete, sound.reachable]

theorem Sound.delete (sound : service.Sound) {id : String}
    (deleted : service.delete id = .ok rest) : rest.Sound := by
  obtain rfl := Except.ok.inj ((sound.delete_eq id).symm.trans deleted)
  exact ⟨sound.reachable, sound.keyed.delete id⟩

theorem Sound.list (sound : service.Sound) (found : service.list now = .ok (listed, rest)) :
    rest.Sound := by
  obtain ⟨reachable, -, rfl⟩ := list_eq_ok_iff.mp found
  exact ⟨reachable, sound.keyed.purge now⟩

theorem Sound.list_eq (sound : service.Sound) (now : Time) : service.list now =
    .ok (service.store.live now, { service with store := service.store.purge now }) :=
  list_eq_ok_iff.mpr ⟨sound.reachable, rfl, rfl⟩

end FaultService

end ServiceMesh
