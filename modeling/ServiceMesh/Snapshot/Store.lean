import ServiceMesh.Snapshot.Basic
import ServiceMesh.Watched

/-! The latest snapshot of each group for those who follow it. -/
namespace ServiceMesh

/-- The snapshot of a group, none before the first one, and how many follow it. -/
structure GroupChannel where
  latest : Watched (Option Snapshot)
  followers : Nat
deriving DecidableEq

/-- Somebody who follows a group, with the revision seen last. -/
structure Follower where
  group : ConsumerGroup
  seen : Nat
deriving DecidableEq

/-- The snapshots of a group one by one. A fresh stream has not yet come up with the one that was
there when it began. -/
structure SnapshotStream where
  follower : Follower
  fresh : Bool
deriving DecidableEq

/-- `groupAdded` tells that a group came up since it was last asked. -/
structure SnapshotStore where
  channels : SortedMap ConsumerGroup GroupChannel
  groupAdded : Bool
deriving DecidableEq

/-- What became of a snapshot that was published. -/
inductive Publication where
  | applied
  | unchanged
  | stale
  | unsubscribed
deriving DecidableEq

def Publication.label : Publication → String
  | .applied => "applied"
  | .unchanged => "unchanged"
  | .stale => "stale"
  | .unsubscribed => "unsubscribed"

namespace SnapshotStore

def start : SnapshotStore := ⟨∅, false⟩

instance : Inhabited SnapshotStore := ⟨start⟩

def groups (store : SnapshotStore) : SortedSet ConsumerGroup := SortedSet.ofList store.channels.keys

def snapshot? (store : SnapshotStore) (group : ConsumerGroup) : Option Snapshot :=
  (store.channels.get? group).bind (·.latest.value)

def snapshots (store : SnapshotStore) : List Snapshot :=
  store.channels.values.filterMap (·.latest.value)

def holdings (store : SnapshotStore) : Holdings := .ofSnapshots store.snapshots

/-- Follows a group. What it has already is no news. -/
def subscribe (store : SnapshotStore) (group : ConsumerGroup) : Follower × SnapshotStore :=
  match store.channels.get? group with
  | some channel =>
      let channel := { channel with followers := channel.followers + 1 }
      (⟨group, channel.latest.revision⟩,
        { store with channels := store.channels.insert group channel })
  | none => (⟨group, 0⟩, ⟨store.channels.insert group ⟨.start none, 1⟩, true⟩)

/-- Ends the following of a group. -/
def unsubscribe (store : SnapshotStore) (follower : Follower) : SnapshotStore :=
  { store with channels := store.channels.modify follower.group fun channel =>
      { channel with followers := channel.followers - 1 } }

/-- Holds if there is news for a follower. -/
def hasNews (store : SnapshotStore) (follower : Follower) : Bool :=
  match store.channels.get? follower.group with
  | some channel => channel.latest.isNewsSince follower.seen
  | none => false

/-- The snapshot a follower sees, who then has seen it. -/
def look (store : SnapshotStore) (follower : Follower) : Option Snapshot × Follower :=
  match store.channels.get? follower.group with
  | some channel => (channel.latest.value, { follower with seen := channel.latest.revision })
  | none => (none, follower)

/-- Follows a group by a stream. -/
def watch (store : SnapshotStore) (group : ConsumerGroup) : SnapshotStream × SnapshotStore :=
  let (follower, store) := store.subscribe group
  (⟨follower, true⟩, store)

/-- The next snapshot of a stream, none as long as there is no other one. -/
def next (store : SnapshotStore) (stream : SnapshotStream) : Option Snapshot × SnapshotStream :=
  if stream.fresh || store.hasNews stream.follower then
    let (found, follower) := store.look stream.follower
    (found, ⟨follower, false⟩)
  else (none, stream)

/-- Publishes a snapshot. An older generation than the stored one is dropped; the same content is
stored under the old versions and is no news. -/
def publish (store : SnapshotStore) (snapshot : Snapshot) : Publication × SnapshotStore :=
  match store.channels.get? snapshot.group with
  | none => (.unsubscribed, store)
  | some channel =>
      let storing (latest : Watched (Option Snapshot)) : SnapshotStore :=
        { store with channels := store.channels.insert snapshot.group { channel with latest := latest } }
      match channel.latest.value with
      | none => (.applied, storing (channel.latest.set (some snapshot)))
      | some previous =>
          if snapshot.generation < previous.generation then (.stale, store)
          else if previous.sameContent snapshot then
            (.unchanged, storing { channel.latest with
              value := some { snapshot with versions := previous.versions } })
          else (.applied, storing (channel.latest.set (some snapshot)))

/-- Publishes snapshots one after the other. -/
def publishAll (store : SnapshotStore) (snapshots : List Snapshot) :
    List Publication × SnapshotStore :=
  snapshots.foldl (fun (outcomes, store) snapshot =>
    let (outcome, store) := store.publish snapshot
    (outcomes ++ [outcome], store)) ([], store)

/-- Drops the groups that nobody follows. -/
def prune (store : SnapshotStore) : SnapshotStore :=
  { store with channels := store.channels.filter fun _ channel => 0 < channel.followers }

end SnapshotStore

end ServiceMesh
