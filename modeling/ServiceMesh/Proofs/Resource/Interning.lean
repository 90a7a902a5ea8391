import Mathlib.Data.List.Dedup
import ServiceMesh.Proofs.SortedMap
import ServiceMesh.Resource.Cache

/-! What a cache guarantees to those who hold handles of it, whatever the hash of its collections:
each handle has its slot, equal collections have one handle, and a wire form is the one of its
collection. -/
namespace ServiceMesh.ResourceCache

variable {α : Type} {cache : ResourceCache α} {handles others : List (Handle α)}
  {resources : List α} {extra : List (Slot α)} {held : Held}

theorem mem_slots {slot : Slot α} : slot ∈ cache.slots ↔
    ∃ hash bucket, cache.buckets.get? hash = some bucket ∧ slot ∈ bucket := by
  simp only [slots, List.mem_flatten, SortedMap.mem_values]
  constructor
  · rintro ⟨bucket, ⟨hash, found⟩, member⟩
    exact ⟨hash, bucket, found, member⟩
  · rintro ⟨hash, bucket, found, member⟩
    exact ⟨bucket, ⟨hash, found⟩, member⟩

theorem mem_live {slots : List (Slot α)} {slot : Slot α} :
    slot ∈ live held slots ↔ slot ∈ slots ∧ slot.handle.id ∈ held := by
  rw [live, List.mem_filter, List.contains_iff_mem]

/-- Each slot lies where the hash of its collection puts it, under a number of its own, and its wire
form is that of its collection. -/
structure Orderly [Resource α] (cache : ResourceCache α) : Prop where
  placed : ∀ {hash bucket}, cache.buckets.get? hash = some bucket →
    ∀ slot ∈ bucket, cache.hashOf slot.handle.resources = hash
  numbered : ∀ {hash bucket}, cache.buckets.get? hash = some bucket →
    (bucket.map (·.handle.id)).Nodup
  unique : ∀ first ∈ cache.slots, ∀ second ∈ cache.slots,
    first.handle.id = second.handle.id → first = second
  issued : ∀ slot ∈ cache.slots, slot.handle.id < cache.issued
  encoded : ∀ slot ∈ cache.slots, ∀ wire, slot.wire = some wire →
    wire = slot.handle.resources.map WireResource.of

/-- The cache behind a sweep of the bucket of a collection, with some slots more in it. -/
def renew (cache : ResourceCache α) (held : Held) (resources : List α) (extra : List (Slot α)) :
    ResourceCache α :=
  { cache with
    buckets := cache.buckets.insert (cache.hashOf resources)
      (live held (cache.bucket resources) ++ extra)
    issued := cache.issued + extra.length }

/-- The slot of a collection that comes up. -/
def freshSlot (cache : ResourceCache α) (resources : List α) : Slot α :=
  ⟨⟨cache.issued, resources⟩, none⟩

section Orderly

variable [Resource α]

theorem Orderly.empty (hashOf : List α → UInt64) : (ResourceCache.empty hashOf).Orderly := by
  have bare (slot : Slot α) : slot ∉ (ResourceCache.empty hashOf).slots := List.not_mem_nil
  refine ⟨fun found => ?_, fun found => ?_, fun first member => absurd member (bare first),
    fun slot member => absurd member (bare slot), fun slot member => absurd member (bare slot)⟩
  · exact absurd found (by simp [ResourceCache.empty])
  · exact absurd found (by simp [ResourceCache.empty])

theorem Orderly.mem_bucket (orderly : cache.Orderly) {slot : Slot α} :
    slot ∈ cache.bucket resources ↔
      slot ∈ cache.slots ∧ cache.hashOf slot.handle.resources = cache.hashOf resources := by
  rw [bucket]
  constructor
  · intro member
    cases found : cache.buckets.get? (cache.hashOf resources) with
    | none =>
        rw [found] at member
        contradiction
    | some bucket =>
        rw [found] at member
        exact ⟨mem_slots.mpr ⟨_, bucket, found, member⟩, orderly.placed found slot member⟩
  · rintro ⟨member, same⟩
    obtain ⟨hash, bucket, found, inBucket⟩ := mem_slots.mp member
    rw [← same, orderly.placed found slot inBucket, found]
    exact inBucket

theorem Orderly.mem_renew (orderly : cache.Orderly) {slot : Slot α} :
    slot ∈ (cache.renew held resources extra).slots ↔ slot ∈ extra ∨
      slot ∈ cache.slots ∧ (cache.hashOf slot.handle.resources = cache.hashOf resources →
        slot.handle.id ∈ held) := by
  rw [mem_slots, renew]
  dsimp only
  constructor
  · rintro ⟨hash, bucket, found, member⟩
    rw [SortedMap.get?_insert] at found
    split at found
    case isTrue =>
      cases found
      rcases List.mem_append.mp member with swept | added
      · obtain ⟨inBucket, alive⟩ := mem_live.mp swept
        exact .inr ⟨(orderly.mem_bucket.mp inBucket).1, fun _ => alive⟩
      · exact .inl added
    case isFalse apart =>
      refine .inr ⟨mem_slots.mpr ⟨hash, bucket, found, member⟩, fun same => ?_⟩
      exact absurd (same.symm.trans (orderly.placed found slot member)) apart
  · rintro (added | ⟨member, alive⟩)
    · exact ⟨_, _, by rw [SortedMap.get?_insert, if_pos rfl], List.mem_append_right _ added⟩
    · by_cases same : cache.hashOf slot.handle.resources = cache.hashOf resources
      · refine ⟨_, _, by rw [SortedMap.get?_insert, if_pos rfl], List.mem_append_left _ ?_⟩
        exact mem_live.mpr ⟨orderly.mem_bucket.mpr ⟨member, same⟩, alive same⟩
      · obtain ⟨hash, bucket, found, inBucket⟩ := mem_slots.mp member
        have placed := orderly.placed found slot inBucket
        refine ⟨hash, bucket, ?_, inBucket⟩
        rw [SortedMap.get?_insert, if_neg fun here => same (placed.trans here.symm), found]

/-- Nothing, or the slot of a collection that comes up, may be put into a bucket. -/
theorem Orderly.renew (orderly : cache.Orderly) (held : Held) (resources : List α)
    (fresh : extra = [] ∨ extra = [cache.freshSlot resources]) :
    (cache.renew held resources extra).Orderly := by
  have isFresh (slot : Slot α) (member : slot ∈ extra) : slot = cache.freshSlot resources := by
    rcases fresh with rfl | rfl
    · contradiction
    · exact List.mem_singleton.mp member
  have older (slot : Slot α) (member : slot ∈ cache.slots) :
      slot.handle.id ≠ (cache.freshSlot resources).handle.id :=
    Nat.ne_of_lt (orderly.issued slot member)
  constructor
  · intro hash bucket found slot member
    rw [ResourceCache.renew, SortedMap.get?_insert] at found
    split at found
    case isTrue here =>
      cases found
      rw [← here]
      rcases List.mem_append.mp member with swept | added
      · exact (orderly.mem_bucket.mp (mem_live.mp swept).1).2
      · exact isFresh slot added ▸ rfl
    case isFalse => exact orderly.placed found slot member
  · intro hash bucket found
    rw [ResourceCache.renew, SortedMap.get?_insert] at found
    split at found
    case isTrue =>
      cases found
      have swept : ((live held (cache.bucket resources)).map (·.handle.id)).Nodup := by
        refine List.Nodup.sublist (List.filter_sublist.map _) ?_
        unfold ResourceCache.bucket
        cases known : cache.buckets.get? (cache.hashOf resources) with
        | none => exact List.nodup_nil
        | some bucket => exact orderly.numbered known
      rcases fresh with rfl | rfl
      · rwa [List.append_nil]
      · rw [List.map_append, List.nodup_append]
        refine ⟨swept, List.nodup_singleton _, ?_⟩
        rintro id known other added rfl
        obtain ⟨slot, member, rfl⟩ := List.mem_map.mp known
        exact older slot (orderly.mem_bucket.mp (mem_live.mp member).1).1
          (List.mem_singleton.mp added)
    case isFalse => exact orderly.numbered found
  · intro first one second two same
    rcases orderly.mem_renew.mp one with added | ⟨known, -⟩
    · rcases orderly.mem_renew.mp two with added' | ⟨known', -⟩
      · rw [isFresh first added, isFresh second added']
      · rw [isFresh first added] at same
        exact absurd same.symm (older second known')
    · rcases orderly.mem_renew.mp two with added' | ⟨known', -⟩
      · rw [isFresh second added'] at same
        exact absurd same (older first known)
      · exact orderly.unique first known second known' same
  · intro slot member
    rcases orderly.mem_renew.mp member with added | ⟨known, -⟩
    · have number : slot.handle.id = cache.issued := by
        rw [isFresh slot added]
        rfl
      have some : 0 < extra.length := List.length_pos_of_mem added
      show slot.handle.id < cache.issued + extra.length
      omega
    · exact Nat.lt_of_lt_of_le (orderly.issued slot known) (Nat.le_add_right _ _)
  · intro slot member wire known
    rcases orderly.mem_renew.mp member with added | ⟨old, -⟩
    · rw [isFresh slot added] at known
      contradiction
    · exact orderly.encoded slot old wire known

theorem Orderly.wire?_eq (orderly : cache.Orderly) {slot : Slot α} (member : slot ∈ cache.slots) :
    cache.wire? slot.handle = slot.wire := by
  unfold wire?
  cases found : cache.slots.find? fun other => other.handle.id == slot.handle.id with
  | none => exact absurd (List.find?_eq_none.mp found slot member) (by simp)
  | some other =>
      have same : other.handle.id = slot.handle.id := by simpa using List.find?_some found
      rw [orderly.unique other (List.mem_of_find?_eq_some found) slot member same]
      rfl

/-- No number is on two slots. -/
theorem Orderly.nodup_ids (orderly : cache.Orderly) :
    (cache.slots.map (·.handle.id)).Nodup := by
  have bucketed {entry : UInt64 × List (Slot α)} (member : entry ∈ cache.buckets.entries) :
      cache.buckets.get? entry.1 = some entry.2 := SortedMap.get?_eq_some_iff.mpr member
  rw [slots, SortedMap.values, List.map_flatten, List.map_map, List.nodup_flatten]
  constructor
  · intro ids member
    obtain ⟨entry, inMap, rfl⟩ := List.mem_map.mp member
    exact orderly.numbered (bucketed inMap)
  · rw [List.pairwise_map]
    refine cache.buckets.sorted.imp_of_mem fun {first second} one two below id mine yours => ?_
    obtain ⟨slot, inFirst, rfl⟩ := List.mem_map.mp mine
    obtain ⟨other, inSecond, same⟩ := List.mem_map.mp yours
    -- The slot with the number lies in one bucket, so the two buckets are one.
    have shared := orderly.unique other (mem_slots.mpr ⟨_, _, bucketed two, inSecond⟩) slot
      (mem_slots.mpr ⟨_, _, bucketed one, inFirst⟩) same
    have hashes := orderly.placed (bucketed two) other inSecond
    rw [shared, orderly.placed (bucketed one) slot inFirst] at hashes
    rw [hashes] at below
    simp at below

end Orderly

/-- A cache that is in order, and in which each of some handles has its slot and is the only one of
them with its collection. -/
structure Serves [Resource α] (cache : ResourceCache α) (handles : List (Handle α)) : Prop where
  orderly : cache.Orderly
  present : ∀ handle ∈ handles, ∃ slot ∈ cache.slots, slot.handle = handle
  shared : ∀ first ∈ handles, ∀ second ∈ handles, first.resources = second.resources →
    first = second

section Serves

variable [Resource α]

theorem Serves.empty (hashOf : List α → UInt64) : (ResourceCache.empty hashOf).Serves [] :=
  ⟨.empty hashOf, fun _ member => absurd member List.not_mem_nil,
    fun _ member => absurd member List.not_mem_nil⟩

/-- Handles can be given back. -/
theorem Serves.mono (serves : cache.Serves handles) (fewer : others ⊆ handles) :
    cache.Serves others :=
  ⟨serves.orderly, fun handle member => serves.present handle (fewer member),
    fun first one second two => serves.shared first (fewer one) second (fewer two)⟩

/-- The slots of held numbers are those of the handles. -/
theorem Serves.handle_mem (serves : cache.Serves handles) {slot : Slot α}
    (member : slot ∈ cache.slots) (alive : slot.handle.id ∈ handles.map Handle.id) :
    slot.handle ∈ handles := by
  obtain ⟨handle, held, same⟩ := List.mem_map.mp alive
  obtain ⟨own, listed, rfl⟩ := serves.present handle held
  exact serves.orderly.unique own listed slot member same ▸ held

theorem Serves.wire?_eq (serves : cache.Serves handles) {handle : Handle α}
    (held : handle ∈ handles) : ⟨handle, cache.wire? handle⟩ ∈ cache.slots := by
  obtain ⟨slot, listed, rfl⟩ := serves.present handle held
  rw [serves.orderly.wire?_eq listed]
  exact listed

theorem Serves.wire?_encoded (serves : cache.Serves handles) {handle : Handle α}
    (held : handle ∈ handles) {wire : List WireResource} (known : cache.wire? handle = some wire) :
    wire = handle.resources.map WireResource.of :=
  serves.orderly.encoded _ (serves.wire?_eq held) wire known

/-- Two handles are the same exactly if their collections are equal. -/
theorem Serves.id_eq_iff (serves : cache.Serves handles) {first second : Handle α}
    (one : first ∈ handles) (two : second ∈ handles) :
    first.id = second.id ↔ first.resources = second.resources := by
  constructor
  · intro same
    have whole := serves.orderly.unique _ (serves.wire?_eq one) _ (serves.wire?_eq two) same
    exact congrArg (fun slot : Slot α => slot.handle.resources) whole
  · intro same
    rw [serves.shared first one second two same]

/-- A sweep leaves the slots of held handles in their places. -/
theorem Serves.mem_renew (serves : cache.Serves handles) {handle : Handle α}
    (held : handle ∈ handles) (resources : List α) (extra : List (Slot α)) :
    ⟨handle, cache.wire? handle⟩ ∈
      (cache.renew (handles.map Handle.id) resources extra).slots :=
  serves.orderly.mem_renew.mpr
    (.inr ⟨serves.wire?_eq held, fun _ => List.mem_map_of_mem held⟩)

/-- There are as many live slots as distinct collections among the handles. -/
theorem Serves.liveEntries_eq [DecidableEq α] (serves : cache.Serves handles) :
    cache.liveEntries (handles.map Handle.id) = (handles.map Handle.resources).dedup.length := by
  have distinct : ((live (handles.map Handle.id) cache.slots).map (·.handle.resources)).Nodup := by
    have ids : ((live (handles.map Handle.id) cache.slots).map (·.handle.id)).Nodup :=
      serves.orderly.nodup_ids.sublist (List.filter_sublist.map _)
    rw [List.Nodup, List.pairwise_map] at ids ⊢
    refine ids.imp_of_mem fun {first second} one two apart same => apart ?_
    obtain ⟨inFirst, firstAlive⟩ := mem_live.mp one
    obtain ⟨inSecond, secondAlive⟩ := mem_live.mp two
    exact (serves.id_eq_iff (serves.handle_mem inFirst firstAlive)
      (serves.handle_mem inSecond secondAlive)).mpr same
  rw [liveEntries, ← List.length_map (·.handle.resources)]
  refine ((List.perm_ext_iff_of_nodup distinct (List.nodup_dedup _)).mpr fun resources => ?_).length_eq
  rw [List.mem_dedup, List.mem_map, List.mem_map]
  constructor
  · rintro ⟨slot, member, rfl⟩
    obtain ⟨inSlots, alive⟩ := mem_live.mp member
    exact ⟨slot.handle, serves.handle_mem inSlots alive, rfl⟩
  · rintro ⟨handle, held, rfl⟩
    exact ⟨_, mem_live.mpr ⟨serves.wire?_eq held, List.mem_map_of_mem held⟩, rfl⟩

end Serves

/-! ### Interning -/

section Interning

variable [DecidableEq α] [Resource α]

omit [Resource α] in
theorem intern_resources (cache : ResourceCache α) (held : Held) (resources : List α) :
    (cache.intern held resources).1.resources = resources := by
  unfold ResourceCache.intern
  dsimp only
  split
  case h_1 slot found => simpa using List.find?_some found
  case h_2 => rfl

omit [Resource α] in
theorem serializations_intern (cache : ResourceCache α) (held : Held) (resources : List α) :
    (cache.intern held resources).2.serializations = cache.serializations := by
  unfold ResourceCache.intern
  dsimp only
  split <;> rfl

/-- Interning finds the handle of an equal collection, or makes a new one. -/
theorem Serves.intern_cases (serves : cache.Serves handles) (resources : List α) :
    (∃ handle ∈ handles, handle.resources = resources ∧
      cache.intern (handles.map Handle.id) resources =
        (handle, cache.renew (handles.map Handle.id) resources [])) ∨
    ((∀ handle ∈ handles, handle.resources ≠ resources) ∧
      cache.intern (handles.map Handle.id) resources =
        ((cache.freshSlot resources).handle,
          cache.renew (handles.map Handle.id) resources [cache.freshSlot resources])) := by
  unfold intern renew
  dsimp only
  cases found : (live (handles.map Handle.id) (cache.bucket resources)).find?
      fun slot => slot.handle.resources == resources with
  | some slot =>
      obtain ⟨inBucket, alive⟩ := mem_live.mp (List.mem_of_find?_eq_some found)
      have same : slot.handle.resources = resources := by simpa using List.find?_some found
      refine .inl ⟨slot.handle, ?_, same, by rw [List.append_nil]; rfl⟩
      exact serves.handle_mem (serves.orderly.mem_bucket.mp inBucket).1 alive
  | none =>
      refine .inr ⟨fun handle held same => ?_, rfl⟩
      have listed : ⟨handle, cache.wire? handle⟩ ∈
          live (handles.map Handle.id) (cache.bucket resources) :=
        mem_live.mpr ⟨serves.orderly.mem_bucket.mpr ⟨serves.wire?_eq held, by rw [same]⟩,
          List.mem_map_of_mem held⟩
      exact absurd (List.find?_eq_none.mp found _ listed) (by simpa using same)

theorem Serves.intern (serves : cache.Serves handles) (resources : List α) :
    (cache.intern (handles.map Handle.id) resources).2.Serves
      ((cache.intern (handles.map Handle.id) resources).1 :: handles) := by
  rcases serves.intern_cases resources with ⟨handle, held, same, interned⟩ | ⟨unknown, interned⟩
  · rw [interned]
    have swept : (cache.renew (handles.map Handle.id) resources []).Serves handles :=
      ⟨serves.orderly.renew _ _ (.inl rfl),
        fun handle held => ⟨_, serves.mem_renew held resources [], rfl⟩, serves.shared⟩
    exact swept.mono (List.cons_subset.mpr ⟨held, List.Subset.refl _⟩)
  · rw [interned]
    have own (handle : Handle α) (held : handle ∈ handles) :
        handle.resources ≠ (cache.freshSlot resources).handle.resources := unknown handle held
    refine ⟨serves.orderly.renew _ _ (.inr rfl), fun handle member => ?_, ?_⟩
    · rcases List.mem_cons.mp member with rfl | held
      · exact ⟨_, serves.orderly.mem_renew.mpr (.inl List.mem_cons_self), rfl⟩
      · exact ⟨_, serves.mem_renew held resources _, rfl⟩
    · intro first one second two same
      rcases List.mem_cons.mp one with rfl | one
      · rcases List.mem_cons.mp two with rfl | two
        · rfl
        · exact absurd same.symm (own second two)
      · rcases List.mem_cons.mp two with rfl | two
        · exact absurd same (own first one)
        · exact serves.shared first one second two same

theorem Serves.wire?_intern (serves : cache.Serves handles) (resources : List α)
    {handle : Handle α} (held : handle ∈ handles) :
    (cache.intern (handles.map Handle.id) resources).2.wire? handle = cache.wire? handle := by
  have orderly := (serves.intern resources).orderly
  rcases serves.intern_cases resources with ⟨own, -, -, interned⟩ | ⟨-, interned⟩
  · rw [interned] at orderly ⊢
    exact orderly.wire?_eq (serves.mem_renew held resources _)
  · rw [interned] at orderly ⊢
    exact orderly.wire?_eq (serves.mem_renew held resources _)

/-- A collection that comes up has no wire form yet. -/
theorem Serves.wire?_intern_fresh (serves : cache.Serves handles) {resources : List α}
    (unknown : ∀ handle ∈ handles, handle.resources ≠ resources) :
    (cache.intern (handles.map Handle.id) resources).2.wire?
      (cache.intern (handles.map Handle.id) resources).1 = none := by
  have orderly := (serves.intern resources).orderly
  rcases serves.intern_cases resources with ⟨handle, held, same, -⟩ | ⟨-, interned⟩
  · exact absurd same (unknown handle held)
  · rw [interned] at orderly ⊢
    exact orderly.wire?_eq (serves.orderly.mem_renew.mpr (.inl List.mem_cons_self))

/-- The handle of a collection that somebody holds is the one that is held. -/
theorem Serves.intern_known (serves : cache.Serves handles) {handle : Handle α}
    (held : handle ∈ handles) :
    (cache.intern (handles.map Handle.id) handle.resources).1 = handle := by
  refine (serves.intern handle.resources).shared _ List.mem_cons_self _
    (List.mem_cons_of_mem _ held) ?_
  rw [intern_resources]

end Interning

/-! ### Wire forms -/

/-- What a note of a wire form makes of a slot. -/
def inscribe (handle : Handle α) (wire : List WireResource) (slot : Slot α) : Slot α :=
  if slot.handle.id = handle.id then { slot with wire := some wire } else slot

theorem inscribe_handle (handle : Handle α) (wire : List WireResource) (slot : Slot α) :
    (inscribe handle wire slot).handle = slot.handle := by
  unfold inscribe
  split <;> rfl

theorem mem_note {handle : Handle α} {wire : List WireResource} {slot : Slot α} :
    slot ∈ (cache.note handle wire).slots ↔
      ∃ before ∈ cache.slots, inscribe handle wire before = slot := by
  rw [mem_slots, note]
  simp only [SortedMap.get?_map, Option.map_eq_some_iff]
  constructor
  · rintro ⟨hash, bucket, ⟨before, found, rfl⟩, member⟩
    obtain ⟨old, inBucket, made⟩ := List.mem_map.mp member
    exact ⟨old, mem_slots.mpr ⟨hash, before, found, inBucket⟩, made⟩
  · rintro ⟨old, member, made⟩
    obtain ⟨hash, before, found, inBucket⟩ := mem_slots.mp member
    exact ⟨hash, _, ⟨before, found, rfl⟩, List.mem_map.mpr ⟨old, inBucket, made⟩⟩

section WireForms

variable [Resource α]

theorem Serves.note (serves : cache.Serves handles) {handle : Handle α}
    (held : handle ∈ handles) :
    (cache.note handle (handle.resources.map WireResource.of)).Serves handles := by
  obtain ⟨orderly, present, shared⟩ := serves
  have kept (bucket : List (Slot α)) (wire : List WireResource) :
      (bucket.map (inscribe handle wire)).map (·.handle.id) = bucket.map (·.handle.id) := by
    rw [List.map_map]
    exact List.map_congr_left fun slot _ => congrArg Handle.id (inscribe_handle handle wire slot)
  refine ⟨⟨?_, ?_, ?_, ?_, ?_⟩, fun other member => ?_, shared⟩
  · intro hash bucket found slot member
    rw [ResourceCache.note, SortedMap.get?_map] at found
    obtain ⟨before, known, rfl⟩ := Option.map_eq_some_iff.mp found
    obtain ⟨old, inBucket, rfl⟩ := List.mem_map.mp member
    have placed := orderly.placed known old inBucket
    rwa [← inscribe_handle handle (handle.resources.map WireResource.of) old] at placed
  · intro hash bucket found
    rw [ResourceCache.note, SortedMap.get?_map] at found
    obtain ⟨before, known, rfl⟩ := Option.map_eq_some_iff.mp found
    have numbered := orderly.numbered known
    rwa [← kept before (handle.resources.map WireResource.of)] at numbered
  · intro first one second two same
    obtain ⟨old, known, rfl⟩ := mem_note.mp one
    obtain ⟨other, known', rfl⟩ := mem_note.mp two
    rw [inscribe_handle, inscribe_handle] at same
    rw [orderly.unique old known other known' same]
  · intro slot member
    obtain ⟨old, known, rfl⟩ := mem_note.mp member
    rw [inscribe_handle]
    exact orderly.issued old known
  · intro slot member wire shows
    obtain ⟨old, known, rfl⟩ := mem_note.mp member
    rw [inscribe_handle]
    unfold inscribe at shows
    split at shows
    case isTrue same =>
      obtain ⟨own, listed, rfl⟩ := present handle held
      cases shows
      rw [orderly.unique old known own listed same]
    case isFalse => exact orderly.encoded old known wire shows
  · obtain ⟨slot, listed, rfl⟩ := present other member
    exact ⟨_, mem_note.mpr ⟨slot, listed, rfl⟩, inscribe_handle _ _ slot⟩

theorem Serves.wire?_note (serves : cache.Serves handles) {handle other : Handle α}
    (held : handle ∈ handles) (member : other ∈ handles) :
    (cache.note handle (handle.resources.map WireResource.of)).wire? other =
      if other.id = handle.id then some (handle.resources.map WireResource.of)
      else cache.wire? other := by
  have listed := mem_note.mpr ⟨_, serves.wire?_eq member,
    rfl (a := inscribe handle (handle.resources.map WireResource.of) ⟨other, cache.wire? other⟩)⟩
  have known := (serves.note held).orderly.wire?_eq listed
  rw [inscribe_handle] at known
  dsimp only at known
  rw [known, inscribe]
  split <;> rfl

/-- The count of computed wire forms is nobody's concern. -/
theorem Serves.recount (serves : cache.Serves handles) (serializations : Nat) :
    { cache with serializations := serializations }.Serves handles := by
  obtain ⟨⟨placed, numbered, unique, issued, encoded⟩, present, shared⟩ := serves
  exact ⟨⟨placed, numbered, unique, issued, encoded⟩, present, shared⟩

/-- One of some handles has the collection, and its wire form is known. -/
def Encodes (cache : ResourceCache α) (handles : List (Handle α)) (resources : List α) : Prop :=
  ∃ handle ∈ handles, handle.resources = resources ∧ (cache.wire? handle).isSome = true

variable [DecidableEq α]

theorem serialize_resources (cache : ResourceCache α) (held : Held) (resources : List α) :
    (cache.serialize held resources).1.resources = resources := by
  unfold ResourceCache.serialize
  dsimp only
  split
  · exact intern_resources cache held resources
  · exact intern_resources cache held resources

/-- Serializing interns, and computes the wire form unless it is known. -/
theorem Serves.serialize_cases (serves : cache.Serves handles) (resources : List α) :
    let interned := cache.intern (handles.map Handle.id) resources
    (cache.Encodes handles resources ∧
      cache.serialize (handles.map Handle.id) resources = interned) ∨
    (¬ cache.Encodes handles resources ∧
      cache.serialize (handles.map Handle.id) resources = (interned.1,
        { interned.2.note interned.1 (resources.map WireResource.of) with
          serializations := cache.serializations + 1 })) := by
  intro interned
  have encodes : cache.Encodes handles resources ↔
      (interned.2.wire? interned.1).isSome = true := by
    constructor
    · rintro ⟨handle, held, rfl, known⟩
      have same : interned.1 = handle := serves.intern_known held
      rwa [same, serves.wire?_intern _ held]
    · intro known
      by_cases listed : ∃ handle ∈ handles, handle.resources = resources
      · obtain ⟨handle, held, rfl⟩ := listed
        have same : interned.1 = handle := serves.intern_known held
        rw [same, serves.wire?_intern _ held] at known
        exact ⟨handle, held, rfl, known⟩
      · have fresh : interned.2.wire? interned.1 = none :=
          serves.wire?_intern_fresh fun handle held same => listed ⟨handle, held, same⟩
        rw [fresh] at known
        contradiction
  rw [encodes]
  unfold ResourceCache.serialize
  dsimp only [interned]
  rw [serializations_intern]
  split
  case h_1 wire known =>
    rw [known]
    exact .inl ⟨rfl, rfl⟩
  case h_2 unknown =>
    rw [unknown]
    exact .inr ⟨Bool.false_ne_true, rfl⟩

theorem Serves.serialize_fst (serves : cache.Serves handles) (resources : List α) :
    (cache.serialize (handles.map Handle.id) resources).1 =
      (cache.intern (handles.map Handle.id) resources).1 := by
  rcases serves.serialize_cases resources with ⟨-, same⟩ | ⟨-, computed⟩
  · rw [same]
  · rw [computed]

theorem Serves.serialize (serves : cache.Serves handles) (resources : List α) :
    (cache.serialize (handles.map Handle.id) resources).2.Serves
      ((cache.serialize (handles.map Handle.id) resources).1 :: handles) := by
  have interned := serves.intern resources
  rcases serves.serialize_cases resources with ⟨-, same⟩ | ⟨-, computed⟩
  · rw [same]
    exact interned
  · rw [computed]
    have own := intern_resources cache (handles.map Handle.id) resources
    have noted := interned.note List.mem_cons_self
    rw [own] at noted
    exact noted.recount _

/-- Behind a serialization the wire form is known. -/
theorem Serves.wire?_serialize_own (serves : cache.Serves handles) (resources : List α) :
    (cache.serialize (handles.map Handle.id) resources).2.wire?
      (cache.serialize (handles.map Handle.id) resources).1 =
        some (resources.map WireResource.of) := by
  have interned := serves.intern resources
  have own := intern_resources cache (handles.map Handle.id) resources
  rcases serves.serialize_cases resources with ⟨encodes, same⟩ | ⟨-, computed⟩
  · obtain ⟨handle, held, rfl, known⟩ := encodes
    obtain ⟨wire, shows⟩ := Option.isSome_iff_exists.mp known
    rw [same, serves.intern_known held, serves.wire?_intern _ held, shows,
      serves.wire?_encoded held shows]
  · rw [computed]
    have noted := interned.wire?_note List.mem_cons_self List.mem_cons_self
    rw [own, if_pos rfl] at noted
    exact noted

/-- A serialization has no part in the wire forms of other collections. -/
theorem Serves.wire?_serialize (serves : cache.Serves handles) {handle : Handle α}
    (held : handle ∈ handles) (apart : handle.resources ≠ resources) :
    (cache.serialize (handles.map Handle.id) resources).2.wire? handle = cache.wire? handle := by
  have interned := serves.intern resources
  have own := intern_resources cache (handles.map Handle.id) resources
  rcases serves.serialize_cases resources with ⟨-, same⟩ | ⟨-, computed⟩
  · rw [same, serves.wire?_intern _ held]
  · rw [computed]
    have noted := interned.wire?_note List.mem_cons_self (List.mem_cons_of_mem _ held)
    have other : handle.id ≠ (cache.intern (handles.map Handle.id) resources).1.id := by
      intro same
      exact apart (((interned.id_eq_iff (List.mem_cons_of_mem _ held) List.mem_cons_self).mp
        same).trans own)
    rw [own, if_neg other, serves.wire?_intern _ held] at noted
    exact noted

end WireForms

/-! ### Sweeping -/

theorem get?_purge (cache : ResourceCache α) (held : Held) (hash : UInt64) :
    (cache.purge held).buckets.get? hash =
      ((cache.buckets.get? hash).map (live held)).filter fun bucket => !bucket.isEmpty := by
  rw [purge, SortedMap.get?_filter, SortedMap.get?_map]

theorem mem_purge {slot : Slot α} :
    slot ∈ (cache.purge held).slots ↔ slot ∈ cache.slots ∧ slot.handle.id ∈ held := by
  simp only [mem_slots, get?_purge, Option.filter_eq_some_iff, Option.map_eq_some_iff]
  constructor
  · rintro ⟨hash, bucket, ⟨⟨before, found, rfl⟩, -⟩, member⟩
    obtain ⟨known, alive⟩ := mem_live.mp member
    exact ⟨⟨hash, before, found, known⟩, alive⟩
  · rintro ⟨⟨hash, bucket, found, member⟩, alive⟩
    have swept := mem_live.mpr ⟨member, alive⟩
    refine ⟨hash, _, ⟨⟨bucket, found, rfl⟩, ?_⟩, swept⟩
    simpa [List.isEmpty_iff] using List.ne_nil_of_mem swept

/-- Once nobody holds a handle a purge empties the table. -/
theorem purge_nil (cache : ResourceCache α) : (cache.purge []).buckets = ∅ := by
  refine SortedMap.ext_get? fun hash => ?_
  rw [get?_purge]
  cases cache.buckets.get? hash <;> simp [live]

section Purge

variable [Resource α]

theorem Orderly.purge (orderly : cache.Orderly) (held : Held) : (cache.purge held).Orderly := by
  have origin {hash : UInt64} {bucket : List (Slot α)}
      (found : (cache.purge held).buckets.get? hash = some bucket) :
      ∃ before, cache.buckets.get? hash = some before ∧ live held before = bucket := by
    rw [get?_purge] at found
    exact Option.map_eq_some_iff.mp (Option.filter_eq_some_iff.mp found).1
  constructor
  · intro hash bucket found slot member
    obtain ⟨before, known, rfl⟩ := origin found
    exact orderly.placed known slot (mem_live.mp member).1
  · intro hash bucket found
    obtain ⟨before, known, rfl⟩ := origin found
    exact (orderly.numbered known).sublist (List.filter_sublist.map _)
  · intro first one second two
    exact orderly.unique first (mem_purge.mp one).1 second (mem_purge.mp two).1
  · exact fun slot member => orderly.issued slot (mem_purge.mp member).1
  · exact fun slot member => orderly.encoded slot (mem_purge.mp member).1

theorem Serves.purge (serves : cache.Serves handles) :
    (cache.purge (handles.map Handle.id)).Serves handles := by
  refine ⟨serves.orderly.purge _, fun handle held => ?_, serves.shared⟩
  exact ⟨_, mem_purge.mpr ⟨serves.wire?_eq held, List.mem_map_of_mem held⟩, rfl⟩

theorem Serves.wire?_purge (serves : cache.Serves handles) {handle : Handle α}
    (held : handle ∈ handles) :
    (cache.purge (handles.map Handle.id)).wire? handle = cache.wire? handle :=
  (serves.orderly.purge _).wire?_eq
    (mem_purge.mpr ⟨serves.wire?_eq held, List.mem_map_of_mem held⟩)

end Purge

end ServiceMesh.ResourceCache
