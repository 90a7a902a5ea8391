import ServiceMesh.Resource.Encoding

/-! Interned collections of resources. Equal collections share one handle as long as somebody
holds it, so that their wire form is computed once. -/
namespace ServiceMesh

/-- A collection that a cache knows under a number. -/
structure Handle (α : Type) where
  id : Nat
  resources : List α
deriving DecidableEq

/-- What a cache keeps of a collection: its wire form once somebody asked for it. -/
structure Slot (α : Type) where
  handle : Handle α
  wire : Option (List WireResource)
deriving DecidableEq

/-- The numbers of the handles that somebody still holds. -/
abbrev Held := List Nat

/-- The slots lie in buckets by the hash of their collections. A slot whose handle nobody holds any
more is dead; it is swept out later. -/
structure ResourceCache (α : Type) where
  hashOf : List α → UInt64
  buckets : SortedMap UInt64 (List (Slot α))
  issued : Nat
  serializations : Nat

/-- One resource alone cannot be brought into its wire form. -/
structure SingleResource where
  typeUrl : String
deriving DecidableEq

def SingleResource.message (e : SingleResource) : String :=
  "serializing a single " ++ e.typeUrl ++ " resource is not supported; serialize a collection"

namespace ResourceCache

variable {α : Type}

def empty (hashOf : List α → UInt64) : ResourceCache α := ⟨hashOf, ∅, 0, 0⟩

def bucket (cache : ResourceCache α) (resources : List α) : List (Slot α) :=
  (cache.buckets.get? (cache.hashOf resources)).getD []

def slots (cache : ResourceCache α) : List (Slot α) := cache.buckets.values.flatten

/-- The slots that are not dead. -/
def live (held : Held) (slots : List (Slot α)) : List (Slot α) :=
  slots.filter fun slot => held.contains slot.handle.id

/-- The handle of a collection: the one that is held, or a new one. Sweeps the bucket. -/
def intern [DecidableEq α] (cache : ResourceCache α) (held : Held) (resources : List α) :
    Handle α × ResourceCache α :=
  let hash := cache.hashOf resources
  let bucket := live held (cache.bucket resources)
  match bucket.find? fun slot => slot.handle.resources == resources with
  | some slot => (slot.handle, { cache with buckets := cache.buckets.insert hash bucket })
  | none =>
      let handle := ⟨cache.issued, resources⟩
      (handle, { cache with
        buckets := cache.buckets.insert hash (bucket ++ [⟨handle, none⟩])
        issued := cache.issued + 1 })

/-- The wire form of a collection, if it was computed. -/
def wire? (cache : ResourceCache α) (handle : Handle α) : Option (List WireResource) :=
  (cache.slots.find? fun slot => slot.handle.id == handle.id).bind Slot.wire

/-- Notes the wire form of a collection. -/
def note (cache : ResourceCache α) (handle : Handle α) (wire : List WireResource) :
    ResourceCache α :=
  { cache with buckets := cache.buckets.map fun _ bucket => bucket.map fun slot =>
      if slot.handle.id = handle.id then { slot with wire := some wire } else slot }

/-- The handle of a collection whose wire form is known, computed now if need be. -/
def serialize [DecidableEq α] [Resource α] (cache : ResourceCache α) (held : Held)
    (resources : List α) : Handle α × ResourceCache α :=
  let (handle, cache) := cache.intern held resources
  match cache.wire? handle with
  | some _ => (handle, cache)
  | none =>
      (handle, { cache.note handle (resources.map WireResource.of) with
        serializations := cache.serializations + 1 })

/-- Only collections are brought into their wire form. -/
def serializeOne [Resource α] (_cache : ResourceCache α) (_resource : α) :
    Except SingleResource WireResource :=
  .error ⟨Resource.typeUrl α⟩

/-- Sweeps all buckets and drops the empty ones. -/
def purge (cache : ResourceCache α) (held : Held) : ResourceCache α :=
  { cache with buckets :=
      (cache.buckets.map fun _ bucket => live held bucket).filter fun _ bucket => !bucket.isEmpty }

def liveEntries (cache : ResourceCache α) (held : Held) : Nat := (live held cache.slots).length

end ResourceCache

/-- A cache with the handles that were taken from it, by the order of their taking; none where the
handle was given back. -/
structure CacheSession (α : Type) where
  cache : ResourceCache α
  handles : List (Option (Handle α))

namespace CacheSession

variable {α : Type}

def start (hashOf : List α → UInt64) : CacheSession α := ⟨.empty hashOf, []⟩

def openHandles (session : CacheSession α) : List (Handle α) := session.handles.filterMap id

def held (session : CacheSession α) : Held := session.openHandles.map Handle.id

def handle? (session : CacheSession α) (n : Nat) : Option (Handle α) := (session.handles[n]?).join

def intern [DecidableEq α] (session : CacheSession α) (resources : List α) : CacheSession α :=
  let (handle, cache) := session.cache.intern session.held resources
  ⟨cache, session.handles ++ [some handle]⟩

def serialize [DecidableEq α] [Resource α] (session : CacheSession α) (resources : List α) :
    CacheSession α :=
  let (handle, cache) := session.cache.serialize session.held resources
  ⟨cache, session.handles ++ [some handle]⟩

def clone (session : CacheSession α) (n : Nat) : CacheSession α :=
  { session with handles := session.handles ++ [session.handle? n] }

def drop (session : CacheSession α) (n : Nat) : CacheSession α :=
  { session with handles := session.handles.set n none }

def purge (session : CacheSession α) : CacheSession α :=
  { session with cache := session.cache.purge session.held }

end CacheSession

end ServiceMesh
