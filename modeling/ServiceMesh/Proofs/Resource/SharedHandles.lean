import Mathlib.Data.List.Induction
import ServiceMesh.Proofs.Resource.Interning

/-! Sessions with one cache. Handles are taken, copied and given back in any order, and the table is
swept at any time: equal collections have one handle, and are encoded once while it is held. -/
namespace ServiceMesh

/-- What can happen in a session: a collection is interned or serialized, a handle is copied or given
back by its place, or the table is swept. -/
inductive CacheEvent (α : Type) where
  | intern (resources : List α)
  | serialize (resources : List α)
  | clone (n : Nat)
  | drop (n : Nat)
  | purge

namespace CacheSession

variable {α : Type}

theorem mem_openHandles {session : CacheSession α} {handle : Handle α} :
    handle ∈ session.openHandles ↔ some handle ∈ session.handles := by
  simp [openHandles]

theorem openHandles_take (cache : ResourceCache α) (handles : List (Option (Handle α)))
    (handle : Handle α) :
    (CacheSession.mk cache (handles ++ [some handle])).openHandles =
      (CacheSession.mk cache handles).openHandles ++ [handle] := by
  simp [openHandles]

theorem openHandles_clone (session : CacheSession α) (n : Nat) :
    (session.clone n).openHandles ⊆ session.openHandles := by
  intro handle member
  rw [mem_openHandles, clone, List.mem_append] at member
  rcases member with known | copied
  · exact mem_openHandles.mpr known
  · have found : (session.handles[n]?).join = some handle := (List.mem_singleton.mp copied).symm
    exact mem_openHandles.mpr (List.mem_of_getElem? (Option.join_eq_some_iff.mp found))

theorem openHandles_drop (session : CacheSession α) (n : Nat) :
    (session.drop n).openHandles ⊆ session.openHandles := by
  intro handle member
  rw [mem_openHandles, drop] at member
  rcases List.mem_or_eq_of_mem_set member with known | given
  · exact mem_openHandles.mpr known
  · contradiction

/-- Somebody holds a handle of a collection. -/
def IsAlive (session : CacheSession α) (resources : List α) : Prop :=
  ∃ handle ∈ session.openHandles, handle.resources = resources

variable [DecidableEq α] [Resource α]

def perform (session : CacheSession α) : CacheEvent α → CacheSession α
  | .intern resources => session.intern resources
  | .serialize resources => session.serialize resources
  | .clone n => session.clone n
  | .drop n => session.drop n
  | .purge => session.purge

/-- The session behind some events, with a cache of any hash. -/
def run (hashOf : List α → UInt64) (events : List (CacheEvent α)) : CacheSession α :=
  events.foldl perform (start hashOf)

theorem run_snoc (hashOf : List α → UInt64) (events : List (CacheEvent α)) (event : CacheEvent α) :
    run hashOf (events ++ [event]) = (run hashOf events).perform event := by
  rw [run, List.foldl_append]
  rfl

/-- The wire form of a collection was asked for, and from then on there was always a handle of it. -/
def EncodedSince (hashOf : List α → UInt64) (events : List (CacheEvent α)) (resources : List α) :
    Prop :=
  ∃ earlier later, events = earlier ++ .serialize resources :: later ∧ ∀ middle, middle <+: later →
    (run hashOf (earlier ++ .serialize resources :: middle)).IsAlive resources

/-- A handle is held whose collection this is and whose wire form is known. -/
def Encodes (session : CacheSession α) (resources : List α) : Prop :=
  session.cache.Encodes session.openHandles resources

/-- The cache serves all who hold handles. -/
def Sound (session : CacheSession α) : Prop := session.cache.Serves session.openHandles

variable {session : CacheSession α} {resources : List α} {event : CacheEvent α}
  {hashOf : List α → UInt64} {events : List (CacheEvent α)}

omit [DecidableEq α] in
theorem sound_start (hashOf : List α → UInt64) : (start hashOf).Sound :=
  ResourceCache.Serves.empty hashOf

theorem Sound.perform (sound : session.Sound) (event : CacheEvent α) :
    (session.perform event).Sound := by
  have taken {handle : Handle α} {cache : ResourceCache α}
      (serves : cache.Serves (handle :: session.openHandles)) :
      (CacheSession.mk cache (session.handles ++ [some handle])).Sound := by
    rw [Sound, openHandles_take]
    refine serves.mono fun other member => ?_
    rcases List.mem_append.mp member with held | own
    · exact List.mem_cons_of_mem _ held
    · exact List.mem_singleton.mp own ▸ List.mem_cons_self
  cases event with
  | intern resources => exact taken (ResourceCache.Serves.intern sound resources)
  | serialize resources => exact taken (ResourceCache.Serves.serialize sound resources)
  | clone n => exact ResourceCache.Serves.mono sound (openHandles_clone session n)
  | drop n => exact ResourceCache.Serves.mono sound (openHandles_drop session n)
  | purge => exact ResourceCache.Serves.purge sound

theorem run_sound (hashOf : List α → UInt64) (events : List (CacheEvent α)) :
    (run hashOf events).Sound := by
  induction events using List.reverseRecOn with
  | nil => exact sound_start hashOf
  | append_singleton events event ih =>
      rw [run_snoc]
      exact ih.perform event

/-! ### Wire forms -/

/-- A handle behind an event was held before it, or is the one that the cache has for the collection
that the event is about. -/
theorem Sound.mem_perform (sound : session.Sound) {handle : Handle α}
    (held : handle ∈ (session.perform event).openHandles) :
    handle ∈ session.openHandles ∨
      handle = (session.cache.intern session.held handle.resources).1 ∧
        (event = .intern handle.resources ∨ event = .serialize handle.resources) := by
  have serves : session.cache.Serves session.openHandles := sound
  cases event with
  | intern resources =>
      rw [CacheSession.perform, intern, openHandles_take, List.mem_append,
        List.mem_singleton] at held
      refine held.imp_right fun taken => ?_
      have own : handle.resources = resources :=
        taken ▸ ResourceCache.intern_resources session.cache session.held resources
      rw [own]
      exact ⟨taken, .inl rfl⟩
  | serialize resources =>
      rw [CacheSession.perform, serialize, openHandles_take, List.mem_append,
        List.mem_singleton] at held
      refine held.imp_right fun taken => ?_
      have own : handle.resources = resources :=
        taken ▸ ResourceCache.serialize_resources session.cache session.held resources
      rw [own]
      exact ⟨taken.trans (serves.serialize_fst resources), .inr rfl⟩
  | clone n => exact .inl (openHandles_clone session n held)
  | drop n => exact .inl (openHandles_drop session n held)
  | purge => exact .inl held

/-- A handle that is new stands for a collection that nobody held. -/
theorem Sound.mem_of_isAlive (sound : session.Sound) {handle : Handle α}
    (held : handle ∈ (session.perform event).openHandles)
    (alive : session.IsAlive handle.resources) : handle ∈ session.openHandles := by
  rcases sound.mem_perform held with known | ⟨taken, -⟩
  · exact known
  · obtain ⟨other, known, same⟩ := alive
    have found : (session.cache.intern session.held handle.resources).1 = other :=
      same ▸ ResourceCache.Serves.intern_known sound known
    exact (taken.trans found) ▸ known

/-- A serialization makes the wire form of its collection known, no event changes one, and a
collection that comes up has none. -/
theorem Sound.wire?_perform (sound : session.Sound) {handle : Handle α}
    (held : handle ∈ (session.perform event).openHandles) :
    (event = .serialize handle.resources → (session.perform event).cache.wire? handle =
      some (handle.resources.map WireResource.of)) ∧
    (event ≠ .serialize handle.resources → session.IsAlive handle.resources →
      (session.perform event).cache.wire? handle = session.cache.wire? handle) ∧
    (event ≠ .serialize handle.resources → ¬ session.IsAlive handle.resources →
      (session.perform event).cache.wire? handle = none) := by
  have serves : session.cache.Serves session.openHandles := sound
  have older := sound.mem_of_isAlive held
  have origin := sound.mem_perform held
  have new (missing : ¬ session.IsAlive handle.resources) : handle ∉ session.openHandles :=
    fun known => missing ⟨handle, known, rfl⟩
  cases event with
  | intern resources =>
      refine ⟨nofun, fun _ alive => serves.wire?_intern resources (older alive), fun _ missing => ?_⟩
      obtain ⟨taken, asked⟩ := origin.resolve_left (new missing)
      cases asked.resolve_right nofun
      have unknown : (session.cache.intern session.held handle.resources).2.wire?
          (session.cache.intern session.held handle.resources).1 = none :=
        serves.wire?_intern_fresh fun other known same => missing ⟨other, known, same⟩
      rw [← taken] at unknown
      exact unknown
  | serialize resources =>
      refine ⟨fun same => ?_, fun other alive => ?_, fun other missing => ?_⟩
      · cases same
        have known : (session.cache.serialize session.held handle.resources).1 = handle := by
          refine (serves.serialize_fst handle.resources).trans ?_
          rcases origin with known | ⟨taken, -⟩
          · exact serves.intern_known known
          · exact taken.symm
        have encoded : (session.cache.serialize session.held handle.resources).2.wire?
            (session.cache.serialize session.held handle.resources).1 = _ :=
          serves.wire?_serialize_own handle.resources
        rw [known] at encoded
        exact encoded
      · exact serves.wire?_serialize (older alive) fun same => other (congrArg _ same.symm)
      · obtain ⟨-, asked⟩ := origin.resolve_left (new missing)
        exact absurd (asked.resolve_left nofun) other
  | clone n =>
      exact ⟨nofun, fun _ _ => rfl,
        fun _ missing => absurd (openHandles_clone session n held) (new missing)⟩
  | drop n =>
      exact ⟨nofun, fun _ _ => rfl,
        fun _ missing => absurd (openHandles_drop session n held) (new missing)⟩
  | purge =>
      exact ⟨nofun, fun _ alive => serves.wire?_purge (older alive),
        fun _ missing => absurd held (new missing)⟩

/-- Only a wire form that is asked for and not known of a held collection is computed. -/
theorem Sound.serializations_perform (sound : session.Sound) (event : CacheEvent α) :
    ((∃ resources, event = .serialize resources ∧ ¬ session.Encodes resources) →
      (session.perform event).cache.serializations = session.cache.serializations + 1) ∧
    ((¬ ∃ resources, event = .serialize resources ∧ ¬ session.Encodes resources) →
      (session.perform event).cache.serializations = session.cache.serializations) := by
  cases event with
  | intern resources =>
      refine ⟨?_, fun _ => ResourceCache.serializations_intern session.cache session.held resources⟩
      rintro ⟨_, same, -⟩
      contradiction
  | serialize resources =>
      constructor
      · rintro ⟨_, same, missing⟩
        cases same
        rcases ResourceCache.Serves.serialize_cases sound resources with
          ⟨known, -⟩ | ⟨-, computed⟩
        · exact absurd known missing
        · exact congrArg (·.2.serializations) computed
      · intro asked
        rcases ResourceCache.Serves.serialize_cases sound resources with
          ⟨-, interned⟩ | ⟨missing, -⟩
        · exact (congrArg (·.2.serializations) interned).trans
            (ResourceCache.serializations_intern session.cache session.held resources)
        · exact absurd ⟨resources, rfl, missing⟩ asked
  | clone n => exact ⟨nofun, fun _ => rfl⟩
  | drop n => exact ⟨nofun, fun _ => rfl⟩
  | purge => exact ⟨nofun, fun _ => rfl⟩

theorem EncodedSince.isAlive (since : EncodedSince hashOf events resources) :
    (run hashOf events).IsAlive resources := by
  obtain ⟨earlier, later, rfl, alive⟩ := since
  exact alive later (List.prefix_refl later)

theorem encodedSince_snoc (alive : (run hashOf (events ++ [event])).IsAlive resources) :
    EncodedSince hashOf (events ++ [event]) resources ↔
      event = .serialize resources ∨ EncodedSince hashOf events resources := by
  constructor
  · rintro ⟨earlier, later, split, since⟩
    rcases List.eq_nil_or_concat later with rfl | ⟨init, last, rfl⟩
    · obtain ⟨-, same⟩ := List.append_inj' split rfl
      exact .inl (List.singleton_inj.mp same)
    · rw [List.concat_eq_append] at split since
      rw [← List.cons_append, ← List.append_assoc] at split
      obtain ⟨rfl, -⟩ := List.append_inj' split rfl
      refine .inr ⟨earlier, init, rfl, fun middle shorter => since middle ?_⟩
      exact shorter.trans (List.prefix_append init [last])
  · rintro (rfl | ⟨earlier, later, rfl, since⟩)
    · refine ⟨events, [], rfl, fun middle shorter => ?_⟩
      rw [List.prefix_nil.mp shorter]
      exact alive
    · refine ⟨earlier, later ++ [event], by simp, fun middle shorter => ?_⟩
      rcases List.prefix_concat_iff.mp shorter with rfl | before
      · simpa using alive
      · exact since middle before

/-- A wire form is known exactly since it was asked for, and as long as its collection is held. -/
theorem wire?_run {handle : Handle α} (held : handle ∈ (run hashOf events).openHandles) :
    (EncodedSince hashOf events handle.resources → (run hashOf events).cache.wire? handle =
      some (handle.resources.map WireResource.of)) ∧
    (¬ EncodedSince hashOf events handle.resources →
      (run hashOf events).cache.wire? handle = none) := by
  induction events using List.reverseRecOn generalizing handle with
  | nil => contradiction
  | append_singleton events event ih =>
      have sound := run_sound hashOf events
      have since := encodedSince_snoc ⟨handle, held, rfl⟩
      rw [run_snoc] at held ⊢
      obtain ⟨asked, kept, fresh⟩ := sound.wire?_perform held
      rw [since]
      by_cases own : event = .serialize handle.resources
      · exact ⟨fun _ => asked own, fun missing => absurd (.inl own) missing⟩
      · by_cases alive : (run hashOf events).IsAlive handle.resources
        · obtain ⟨encoded, missing⟩ := ih (sound.mem_of_isAlive held alive)
          rw [kept own alive]
          exact ⟨fun since => encoded (since.resolve_left own), fun never => missing (never ∘ .inr)⟩
        · rw [fresh own alive]
          exact ⟨fun since => absurd (since.resolve_left own).isAlive alive, fun _ => rfl⟩

/-- Behind any events, with any hash: two handles are the same exactly if their collections are
equal, and a handle that is taken is one of the collection it is taken for; the wire form of a held
collection is known exactly since it was asked for, is then the encoding of each resource in order,
and no event changes it; an event adds one computation if it asks for a wire form that is not known
of a held collection, and none otherwise; as many entries are alive as there are distinct
collections among the handles; and a sweep changes none of this, and empties the table once all
handles are given back. -/
theorem one_handle_one_encoding (hashOf : List α → UInt64) (events : List (CacheEvent α)) :
    let session := run hashOf events
    (∀ first ∈ session.openHandles, ∀ second ∈ session.openHandles,
      first.id = second.id ↔ first.resources = second.resources) ∧
    (∀ resources event, event = .intern resources ∨ event = .serialize resources →
      ∃ handle, (session.perform event).handles = session.handles ++ [some handle] ∧
        handle.resources = resources) ∧
    (∀ handle ∈ session.openHandles,
      (EncodedSince hashOf events handle.resources →
        session.cache.wire? handle = some (handle.resources.map WireResource.of)) ∧
      (¬ EncodedSince hashOf events handle.resources → session.cache.wire? handle = none)) ∧
    (∀ event, ∀ handle ∈ session.openHandles, handle ∈ (session.perform event).openHandles →
      ∀ wire, session.cache.wire? handle = some wire →
        (session.perform event).cache.wire? handle = some wire) ∧
    (∀ event,
      ((∃ resources, event = .serialize resources ∧ ¬ session.Encodes resources) →
        (session.perform event).cache.serializations = session.cache.serializations + 1) ∧
      ((¬ ∃ resources, event = .serialize resources ∧ ¬ session.Encodes resources) →
        (session.perform event).cache.serializations = session.cache.serializations)) ∧
    session.cache.liveEntries session.held =
      (session.openHandles.map Handle.resources).dedup.length ∧
    session.purge.handles = session.handles ∧
    (∀ handle ∈ session.openHandles,
      session.purge.cache.wire? handle = session.cache.wire? handle) ∧
    session.purge.cache.serializations = session.cache.serializations ∧
    session.purge.cache.liveEntries session.purge.held =
      session.cache.liveEntries session.held ∧
    (session.openHandles = [] → session.purge.cache.buckets = ∅) := by
  intro session
  have sound : session.Sound := run_sound hashOf events
  have serves : session.cache.Serves session.openHandles := sound
  have count : session.cache.liveEntries session.held = _ := serves.liveEntries_eq
  have swept : session.purge.cache.liveEntries session.purge.held = _ := serves.purge.liveEntries_eq
  refine ⟨fun first one second two => serves.id_eq_iff one two, ?_,
    fun handle held => wire?_run held, ?_, ?_, count, rfl,
    fun handle held => serves.wire?_purge held, rfl, swept.trans count.symm, fun none => ?_⟩
  · rintro resources event (rfl | rfl)
    · exact ⟨_, rfl, ResourceCache.intern_resources _ _ _⟩
    · exact ⟨_, rfl, ResourceCache.serialize_resources _ _ _⟩
  · intro event handle held stays wire known
    obtain ⟨asked, kept, -⟩ := sound.wire?_perform stays
    by_cases own : event = .serialize handle.resources
    · rw [asked own, serves.wire?_encoded held known]
    · rw [kept own ⟨handle, held, rfl⟩, known]
  · exact fun event => sound.serializations_perform event
  · have empty : session.held = [] := congrArg (List.map Handle.id) none
    rw [purge, empty]
    exact ResourceCache.purge_nil _

end CacheSession

end ServiceMesh
