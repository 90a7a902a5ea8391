import ServiceMesh.Proofs.SortedMap
import ServiceMesh.Proofs.SortedSet
import ServiceMesh.Snapshot.Builder
import ServiceMesh.Snapshot.Store

/-! What each operation of a store does to the channel of one group. Publishing reaches the
channel of the snapshot's own group alone. -/
namespace ServiceMesh

/-- The resources of a snapshot, without their handles. -/
def Snapshot.content (snapshot : Snapshot) : SnapshotContent :=
  ⟨snapshot.clusters.resources, snapshot.endpoints.resources, snapshot.routes.resources⟩

theorem Snapshot.sameContent_iff {a b : Snapshot} :
    a.sameContent b = true ↔ a.content = b.content := by
  simp [Snapshot.sameContent, Snapshot.content, and_assoc]

namespace Watched

/-- What a snapshot that arrives makes of the latest one: an older one changes nothing, and one of
the same content goes under the old versions and is no news. -/
def receive (latest : Watched (Option Snapshot)) (snapshot : Snapshot) :
    Watched (Option Snapshot) :=
  match latest.value with
  | none => latest.set (some snapshot)
  | some previous =>
      if snapshot.generation < previous.generation then latest
      else if previous.sameContent snapshot then
        { latest with value := some { snapshot with versions := previous.versions } }
      else latest.set (some snapshot)

variable {latest : Watched (Option Snapshot)} {previous snapshot : Snapshot}

theorem receive_first (fresh : latest.value = none) :
    latest.receive snapshot = latest.set (some snapshot) := by
  simp only [receive, fresh]

theorem receive_stale (known : latest.value = some previous)
    (older : snapshot.generation < previous.generation) : latest.receive snapshot = latest := by
  simp only [receive, known, if_pos older]

theorem receive_same (known : latest.value = some previous)
    (newer : previous.generation ≤ snapshot.generation)
    (same : previous.content = snapshot.content) :
    latest.receive snapshot =
      { latest with value := some { snapshot with versions := previous.versions } } := by
  simp only [receive, known, if_neg (Nat.not_lt.mpr newer), Snapshot.sameContent_iff.mpr same,
    if_true]

theorem receive_other (known : latest.value = some previous)
    (newer : previous.generation ≤ snapshot.generation)
    (other : previous.content ≠ snapshot.content) :
    latest.receive snapshot = latest.set (some snapshot) := by
  simp only [receive, known, if_neg (Nat.not_lt.mpr newer), Snapshot.sameContent_iff,
    if_neg other]

end Watched

namespace SnapshotStore

def isRegistered (store : SnapshotStore) (group : ConsumerGroup) : Bool :=
  store.channels.contains group

variable {store : SnapshotStore} {group : ConsumerGroup}

theorem mem_groups : group ∈ store.groups ↔ store.isRegistered group = true := by
  rw [groups, SortedSet.mem_ofList, SortedMap.mem_keys]
  rfl

theorem isRegistered_iff :
    store.isRegistered group = true ↔ ∃ channel, store.channels.get? group = some channel :=
  Option.isSome_iff_exists

theorem snapshot?_of_channel {channel : GroupChannel}
    (found : store.channels.get? group = some channel) :
    store.snapshot? group = channel.latest.value := by
  rw [snapshot?, found, Option.bind_some]

/-- Publishing touches nothing but the channel of the snapshot's group. -/
theorem publish_channels (store : SnapshotStore) (snapshot : Snapshot) :
    (store.publish snapshot).2 = { store with
      channels := store.channels.modify snapshot.group fun channel =>
        { channel with latest := channel.latest.receive snapshot } } := by
  unfold publish
  split
  case h_1 missing => rw [SortedMap.modify_of_missing missing]
  case h_2 channel found =>
    rw [SortedMap.modify_of_found found]
    split
    case h_1 fresh => rw [Watched.receive_first fresh]
    case h_2 previous known =>
      split
      case isTrue older =>
        rw [Watched.receive_stale known older, SortedMap.insert_of_found found]
      case isFalse newer =>
        have newer := Nat.not_lt.mp newer
        split
        case isTrue same =>
          rw [Watched.receive_same known newer (Snapshot.sameContent_iff.mp same)]
        case isFalse other =>
          rw [Watched.receive_other known newer (mt Snapshot.sameContent_iff.mpr other)]

theorem get?_publish (store : SnapshotStore) (snapshot : Snapshot) (group : ConsumerGroup) :
    (store.publish snapshot).2.channels.get? group =
      if snapshot.group = group then (store.channels.get? group).map fun channel =>
        { channel with latest := channel.latest.receive snapshot }
      else store.channels.get? group := by
  rw [publish_channels, SortedMap.get?_modify]

/-- A snapshot that is dropped leaves no trace. -/
theorem publish_dropped {snapshot : Snapshot}
    (dropped : (store.publish snapshot).1 = .stale ∨ (store.publish snapshot).1 = .unsubscribed) :
    (store.publish snapshot).2 = store := by
  unfold publish at dropped ⊢
  split
  case h_1 => rfl
  case h_2 channel found =>
    simp only [found] at dropped ⊢
    split
    case h_1 fresh => simp [fresh] at dropped
    case h_2 previous known =>
      simp only [known] at dropped
      split
      case isTrue => rfl
      case isFalse newer =>
        rw [if_neg newer] at dropped
        split at dropped <;> simp at dropped

theorem get?_prune (store : SnapshotStore) (group : ConsumerGroup) :
    store.prune.channels.get? group =
      (store.channels.get? group).filter fun channel => 0 < channel.followers := by
  rw [prune, SortedMap.get?_filter]

theorem get?_unsubscribe (store : SnapshotStore) (follower : Follower) (group : ConsumerGroup) :
    (store.unsubscribe follower).channels.get? group =
      if follower.group = group then (store.channels.get? group).map fun channel =>
        { channel with followers := channel.followers - 1 }
      else store.channels.get? group := by
  rw [unsubscribe, SortedMap.get?_modify]

/-- The channel that a group has once somebody more follows it. -/
def followed : Option GroupChannel → GroupChannel
  | some channel => { channel with followers := channel.followers + 1 }
  | none => ⟨.start none, 1⟩

theorem get?_subscribe (store : SnapshotStore) (group other : ConsumerGroup) :
    (store.subscribe group).2.channels.get? other =
      if group = other then some (followed (store.channels.get? group))
      else store.channels.get? other := by
  unfold subscribe
  split <;> simp only [SortedMap.get?_insert, followed, *]

theorem isRegistered_subscribe (store : SnapshotStore) (group other : ConsumerGroup) :
    (store.subscribe group).2.isRegistered other = true ↔
      group = other ∨ store.isRegistered other = true := by
  rw [isRegistered_iff, isRegistered_iff, get?_subscribe]
  split
  case isTrue same => simp [same]
  case isFalse apart => simp [apart]

theorem groupAdded_subscribe (store : SnapshotStore) (group : ConsumerGroup) :
    (store.subscribe group).2.groupAdded = (store.groupAdded || !store.isRegistered group) := by
  unfold subscribe isRegistered SortedMap.contains
  cases store.channels.get? group <;> simp

theorem isRegistered_unsubscribe (store : SnapshotStore) (follower : Follower)
    (group : ConsumerGroup) :
    (store.unsubscribe follower).isRegistered group = store.isRegistered group := by
  rw [isRegistered, isRegistered, SortedMap.contains, SortedMap.contains, get?_unsubscribe]
  split
  · rw [Option.isSome_map]
  · rfl

/-- Following a group, for the first time or not, leaves all snapshots in their places. -/
theorem snapshot?_subscribe (store : SnapshotStore) (group other : ConsumerGroup) :
    (store.subscribe group).2.snapshot? other = store.snapshot? other := by
  rw [snapshot?, get?_subscribe, snapshot?]
  split
  case isFalse => rfl
  case isTrue same =>
    rw [same]
    cases store.channels.get? other <;> rfl

theorem snapshot?_unsubscribe (store : SnapshotStore) (follower : Follower)
    (group : ConsumerGroup) : (store.unsubscribe follower).snapshot? group = store.snapshot? group := by
  rw [snapshot?, get?_unsubscribe, snapshot?]
  split
  case isFalse => rfl
  case isTrue => cases store.channels.get? group <;> rfl

end SnapshotStore

end ServiceMesh
