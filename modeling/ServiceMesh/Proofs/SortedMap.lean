import Mathlib.Data.List.Sort
import ServiceMesh.SortedMap

/-! A sorted map is determined by what is found under each key, and each operation says what it
does to that. -/
namespace ServiceMesh.SortedMap

variable {κ ν μ : Type} [Ord κ]

@[simp]
theorem get?_empty (key : κ) : (∅ : SortedMap κ ν).get? key = none := rfl

theorem nodup [Std.TransOrd κ] (m : SortedMap κ ν) : m.entries.Nodup :=
  m.sorted.imp fun {a b} below same => by
    subst b
    simp at below

theorem nodup_keys [Std.TransOrd κ] (m : SortedMap κ ν) : m.keys.Nodup := by
  rw [keys, List.Nodup, List.pairwise_map]
  exact m.sorted.imp fun below same => by simp [same] at below

variable [Std.LawfulEqOrd κ]

theorem mem_of_get? {m : SortedMap κ ν} {key : κ} {value : ν} (found : m.get? key = some value) :
    (key, value) ∈ m.entries := by
  obtain ⟨entry, hit, rfl⟩ := Option.map_eq_some_iff.mp found
  have same : key = entry.1 := by simpa using List.find?_some hit
  exact same ▸ List.mem_of_find?_eq_some hit

theorem get?_map (f : κ → ν → μ) (m : SortedMap κ ν) (key : κ) :
    (m.map f).get? key = (m.get? key).map (f key) := by
  obtain ⟨entries, _⟩ := m
  simp only [get?, map]
  induction entries with
  | nil => rfl
  | cons entry rest ih =>
      rw [List.map_cons, List.find?_cons, List.find?_cons]
      by_cases same : key = entry.1
      · subst same
        simp
      · have apart : (compare key entry.1 == .eq) = false := by simpa using same
        simp only [apart]
        exact ih (by simp_all)

theorem get?_modify [DecidableEq κ] (m : SortedMap κ ν) (key : κ) (f : ν → ν) (k : κ) :
    (m.modify key f).get? k = if key = k then (m.get? k).map f else m.get? k := by
  rw [modify, get?_map]
  by_cases same : key = k
  · simp [same]
  · simp [same]

/-- Two entries of one map that share a key are the same entry. -/
theorem eq_of_mem {m : SortedMap κ ν} {key : κ} {v w : ν} (first : (key, v) ∈ m.entries)
    (second : (key, w) ∈ m.entries) : v = w := by
  obtain ⟨entries, sorted⟩ := m
  simp only at first second
  induction entries with
  | nil => contradiction
  | cons entry rest ih =>
      obtain ⟨head, tail⟩ := List.pairwise_cons.mp sorted
      rcases List.mem_cons.mp first with rfl | inRest
      · rcases List.mem_cons.mp second with same | later
        · exact (Prod.mk.inj same).2.symm
        · simpa using head _ later
      · rcases List.mem_cons.mp second with rfl | later
        · simpa using head _ inRest
        · exact ih tail inRest later

theorem get?_eq_some_iff {m : SortedMap κ ν} {key : κ} {value : ν} :
    m.get? key = some value ↔ (key, value) ∈ m.entries := by
  refine ⟨mem_of_get?, fun member => ?_⟩
  cases found : m.get? key with
  | some other => exact congrArg some (eq_of_mem (mem_of_get? found) member)
  | none =>
      have missed := Option.map_eq_none_iff.mp found
      exact absurd (List.find?_eq_none.mp missed _ member) (by simp)

theorem mem_keys {m : SortedMap κ ν} {key : κ} : key ∈ m.keys ↔ (m.get? key).isSome = true := by
  rw [keys, List.mem_map, Option.isSome_iff_exists]
  constructor
  · rintro ⟨⟨_, value⟩, member, rfl⟩
    exact ⟨value, get?_eq_some_iff.mpr member⟩
  · rintro ⟨value, found⟩
    exact ⟨(key, value), mem_of_get? found, rfl⟩

theorem mem_values {m : SortedMap κ ν} {value : ν} :
    value ∈ m.values ↔ ∃ key, m.get? key = some value := by
  rw [values, List.mem_map]
  constructor
  · rintro ⟨⟨key, _⟩, member, rfl⟩
    exact ⟨key, get?_eq_some_iff.mpr member⟩
  · rintro ⟨key, found⟩
    exact ⟨(key, value), mem_of_get? found, rfl⟩

theorem get?_filter (p : κ → ν → Bool) (m : SortedMap κ ν) (key : κ) :
    (m.filter p).get? key = (m.get? key).filter (p key) := by
  ext value
  rw [Option.filter_eq_some_iff, get?_eq_some_iff, get?_eq_some_iff]
  exact List.mem_filter

theorem get?_erase [DecidableEq κ] (m : SortedMap κ ν) (key k : κ) :
    (m.erase key).get? k = if key = k then none else m.get? k := by
  rw [erase, get?_filter]
  split
  case isTrue same => simp [same]
  case isFalse other =>
    have kept : (compare key k != .eq) = true := by simpa using other
    cases m.get? k <;> simp [kept]

variable [Std.TransOrd κ]

theorem ext_get? {m n : SortedMap κ ν} (same : ∀ key, m.get? key = n.get? key) : m = n := by
  have members : ∀ e, e ∈ m.entries ↔ e ∈ n.entries := fun ⟨key, value⟩ => by
    rw [← get?_eq_some_iff, ← get?_eq_some_iff, same]
  have perm : m.entries.Perm n.entries :=
    (List.perm_ext_iff_of_nodup m.nodup n.nodup).mpr members
  have asymm : ∀ a b : κ × ν, a ∈ m.entries → b ∈ n.entries →
      compare a.1 b.1 = .lt → compare b.1 a.1 = .lt → a = b :=
    fun a b _ _ below above => absurd above (Std.OrientedCmp.not_lt_of_lt below)
  have entries := perm.eq_of_pairwise asymm m.sorted n.sorted
  cases m
  cases n
  cases entries
  rfl

theorem mem_place_iff {key : κ} {value : ν} {entries : List (κ × ν)} {e : κ × ν}
    (sorted : entries.Pairwise fun a b => compare a.1 b.1 = .lt) :
    e ∈ place key value entries ↔ e = (key, value) ∨ e ∈ entries ∧ e.1 ≠ key := by
  induction entries with
  | nil => simp [place]
  | cons entry rest ih =>
      obtain ⟨head, tail⟩ := List.pairwise_cons.mp sorted
      unfold place
      split
      case h_1 below =>
        have apart : ∀ e ∈ entry :: rest, e.1 ≠ key := by
          rintro e member rfl
          rcases List.mem_cons.mp member with rfl | later
          · simp at below
          · simpa using Std.TransCmp.lt_trans below (head e later)
        rw [List.mem_cons]
        exact or_congr_right ⟨fun member => ⟨member, apart e member⟩, And.left⟩
      case h_2 equal =>
        have same : key = entry.1 := Std.LawfulEqOrd.eq_of_compare equal
        have apart : ∀ e ∈ rest, e.1 ≠ key := by
          rintro e member rfl
          simpa [same] using head e member
        rw [List.mem_cons, List.mem_cons]
        refine or_congr_right ⟨fun member => ⟨.inr member, apart e member⟩, ?_⟩
        rintro ⟨rfl | member, other⟩
        · exact absurd same.symm other
        · exact member
      case h_3 above =>
        have apart : entry.1 ≠ key := by
          rintro rfl
          simp at above
        rw [List.mem_cons, ih tail, List.mem_cons]
        constructor
        · rintro (rfl | placed | ⟨member, other⟩)
          · exact .inr ⟨.inl rfl, apart⟩
          · exact .inl placed
          · exact .inr ⟨.inr member, other⟩
        · rintro (placed | ⟨rfl | member, other⟩)
          · exact .inr (.inl placed)
          · exact .inl rfl
          · exact .inr (.inr ⟨member, other⟩)

variable [DecidableEq κ]

theorem get?_insert (m : SortedMap κ ν) (key : κ) (value : ν) (k : κ) :
    (m.insert key value).get? k = if key = k then some value else m.get? k := by
  ext v
  rw [get?_eq_some_iff, insert, mem_place_iff m.sorted]
  split
  case isTrue same => simp [same, eq_comm]
  case isFalse other =>
    rw [get?_eq_some_iff]
    simp [Prod.ext_iff, Ne.symm other]

theorem values_insert_subset (m : SortedMap κ ν) (key : κ) (value : ν) :
    (m.insert key value).values ⊆ value :: m.values := by
  intro other listed
  obtain ⟨k, found⟩ := mem_values.mp listed
  rw [get?_insert] at found
  split at found
  case isTrue => exact List.mem_cons.mpr (.inl (Option.some.inj found).symm)
  case isFalse => exact List.mem_cons_of_mem _ (mem_values.mpr ⟨k, found⟩)

theorem insert_of_found {m : SortedMap κ ν} {key : κ} {value : ν}
    (found : m.get? key = some value) : m.insert key value = m := by
  refine ext_get? fun k => ?_
  rw [get?_insert]
  split
  case isTrue same => rw [← same, found]
  case isFalse => rfl

theorem modify_of_found {m : SortedMap κ ν} {key : κ} {value : ν}
    (found : m.get? key = some value) (f : ν → ν) : m.modify key f = m.insert key (f value) := by
  refine ext_get? fun k => ?_
  rw [get?_modify, get?_insert]
  split
  case isTrue same => rw [← same, found, Option.map_some]
  case isFalse => rfl

theorem modify_of_missing {m : SortedMap κ ν} {key : κ} (missing : m.get? key = none)
    (f : ν → ν) : m.modify key f = m := by
  refine ext_get? fun k => ?_
  rw [get?_modify]
  split
  case isTrue same => rw [← same, missing, Option.map_none]
  case isFalse => rfl

theorem get?_foldl_insert {entries : List (κ × ν)} (distinct : (entries.map Prod.fst).Nodup)
    (m : SortedMap κ ν) (key : κ) (value : ν) :
    (entries.foldl (fun m entry => m.insert entry.1 entry.2) m).get? key = some value ↔
      (key, value) ∈ entries ∨ key ∉ entries.map Prod.fst ∧ m.get? key = some value := by
  induction entries generalizing m with
  | nil => simp
  | cons entry rest ih =>
      obtain ⟨head, stored⟩ := entry
      obtain ⟨fresh, others⟩ := List.nodup_cons.mp distinct
      rw [List.foldl_cons, ih others, get?_insert]
      by_cases same : head = key
      · subst same
        have absent : (head, value) ∉ rest := fun member =>
          fresh (List.mem_map.mpr ⟨_, member, rfl⟩)
        simp [absent, fresh, eq_comm]
      · simp [same, Ne.symm same]

/-- In a map of entries with distinct keys each entry is found. -/
theorem get?_ofList {entries : List (κ × ν)} (distinct : (entries.map Prod.fst).Nodup) {key : κ}
    {value : ν} : (ofList entries).get? key = some value ↔ (key, value) ∈ entries := by
  rw [ofList, get?_foldl_insert distinct]
  simp

/-- A map is told by its entries. -/
theorem ofList_entries (m : SortedMap κ ν) : ofList m.entries = m := by
  refine ext_get? fun key => Option.ext fun value => ?_
  rw [get?_ofList m.nodup_keys, get?_eq_some_iff]

end ServiceMesh.SortedMap
