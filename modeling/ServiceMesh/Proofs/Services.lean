import Mathlib.Data.List.Induction
import ServiceMesh.Proofs.SortedMap
import ServiceMesh.Service.Basic

/-! Services are told by what is found under each name, and filing them one after the other leaves
the last one of each name under that name. -/
namespace ServiceMesh.Services

theorem get?_insert (services : Services) (service : Service) (name : String) :
    (services.insert service).get? name =
      if service.name = name then some service else services.get? name :=
  SortedMap.get?_insert _ _ _ _

theorem ext_get? {services others : Services} (same : ∀ name, services.get? name = others.get? name) :
    services = others := by
  cases services
  cases others
  exact congrArg Services.mk (SortedMap.ext_get? same)

theorem insert_eq_self_iff {services : Services} {service : Service} :
    services.insert service = services ↔ services.get? service.name = some service := by
  constructor
  · intro same
    rw [← same, get?_insert, if_pos rfl]
  · intro known
    refine ext_get? fun name => ?_
    rw [get?_insert]
    split
    case isTrue own => exact own ▸ known.symm
    case isFalse => rfl

/-- Taking over a service makes a difference exactly if it makes other services of them. -/
theorem change_eq (services : Services) (service : Service) :
    services.change service =
      (decide (services.insert service ≠ services), services.insert service) := by
  unfold change
  split
  case isTrue known => simp [insert_eq_self_iff.mpr known]
  case isFalse unknown => simp [mt insert_eq_self_iff.mp unknown]

theorem mem_toList {services : Services} {service : Service} :
    service ∈ services.toList ↔ ∃ name, services.get? name = some service :=
  SortedMap.mem_values

/-- Each service is filed under its own name. -/
def Keyed (services : Services) : Prop :=
  ∀ name service, services.get? name = some service → service.name = name

theorem Keyed.mem_toList {services : Services} (keyed : services.Keyed) {service : Service} :
    service ∈ services.toList ↔ services.get? service.name = some service := by
  rw [Services.mem_toList]
  refine ⟨fun ⟨name, found⟩ => ?_, fun found => ⟨_, found⟩⟩
  rwa [keyed name service found]

theorem ofList_snoc (list : List Service) (service : Service) :
    ofList (list ++ [service]) = (ofList list).insert service := by
  rw [ofList, List.foldl_append]
  rfl

/-- Under a name is the last service of that name. -/
theorem get?_ofList (list : List Service) (name : String) :
    (ofList list).get? name = list.reverse.find? (·.name = name) := by
  induction list using List.reverseRecOn with
  | nil => rfl
  | append_singleton list last ih =>
      rw [ofList_snoc, get?_insert, List.reverse_append, List.reverse_singleton,
        List.singleton_append, List.find?_cons]
      by_cases own : last.name = name
      · simp [own]
      · simp [own, ih]

/-- Services with names of their own are all filed. -/
theorem get?_ofList_eq_some_iff {list : List Service}
    (distinct : (list.map Service.name).Nodup) {name : String} {service : Service} :
    (ofList list).get? name = some service ↔ service ∈ list ∧ service.name = name := by
  rw [get?_ofList]
  constructor
  · intro found
    refine ⟨List.mem_reverse.mp (List.mem_of_find?_eq_some found), ?_⟩
    simpa using List.find?_some found
  · rintro ⟨listed, rfl⟩
    cases found : list.reverse.find? (·.name = service.name) with
    | none =>
        have missed := List.find?_eq_none.mp found service (List.mem_reverse.mpr listed)
        simp at missed
    | some other =>
        have named : other.name = service.name := by simpa using List.find?_some found
        have also := List.mem_reverse.mp (List.mem_of_find?_eq_some found)
        rw [List.inj_on_of_nodup_map distinct also listed named]

theorem ofList_eq_of_perm {list other : List Service} (perm : list.Perm other)
    (distinct : (list.map Service.name).Nodup) : ofList list = ofList other := by
  have also : (other.map Service.name).Nodup := (perm.map Service.name).nodup_iff.mp distinct
  apply ext_get?
  intro name
  ext service
  rw [get?_ofList_eq_some_iff distinct, get?_ofList_eq_some_iff also, perm.mem_iff]

theorem keyed_ofList (list : List Service) : (ofList list).Keyed := by
  intro name service found
  rw [get?_ofList] at found
  simpa using List.find?_some found

theorem mem_of_mem_ofList {list : List Service} {service : Service}
    (member : service ∈ (ofList list).toList) : service ∈ list := by
  obtain ⟨name, found⟩ := mem_toList.mp member
  rw [get?_ofList] at found
  exact List.mem_reverse.mp (List.mem_of_find?_eq_some found)

/-- Services filed under their own names are told by their list. -/
theorem Keyed.ofList_toList {services : Services} (keyed : services.Keyed) :
    ofList services.toList = services := by
  refine ext_get? fun name => ?_
  rw [get?_ofList]
  cases found : services.toList.reverse.find? (·.name = name) with
  | some service =>
      obtain rfl : service.name = name := by simpa using List.find?_some found
      exact (keyed.mem_toList.mp (List.mem_reverse.mp (List.mem_of_find?_eq_some found))).symm
  | none =>
      rw [List.find?_eq_none] at found
      cases known : services.get? name with
      | none => rfl
      | some service =>
          have listed := List.mem_reverse.mpr (Services.mem_toList.mpr ⟨name, known⟩)
          exact absurd (found service listed) (by simp [keyed name service known])

theorem get?_withoutEmpty {services : Services} {name : String} {service : Service} :
    services.withoutEmpty.get? name = some service ↔
      services.get? name = some service ∧ service.isEmpty = false := by
  rw [withoutEmpty, get?, SortedMap.get?_filter, Option.filter_eq_some_iff, get?]
  simp

theorem Keyed.withoutEmpty {services : Services} (keyed : services.Keyed) :
    services.withoutEmpty.Keyed :=
  fun name service found => keyed name service (get?_withoutEmpty.mp found).1

end ServiceMesh.Services
