import Mathlib.Data.List.Nodup
import ServiceMesh.Proofs.Snapshot.Store

/-! Runs of a store: groups are followed and left, pruned, and receive snapshots in any order.
While a group stays registered its snapshot is that of the newest generation delivered, and its
followers hear of it exactly when the content becomes another one. Hence the order of delivery does
not matter where generations differ. -/
namespace ServiceMesh

/-- What can happen to a store. -/
inductive StoreEvent where
  | subscribe (group : ConsumerGroup)
  | unsubscribe (follower : Follower)
  | prune
  | publish (snapshot : Snapshot)

/-- The snapshot that an event delivers to a group. -/
def StoreEvent.delivery? (group : ConsumerGroup) : StoreEvent → Option Snapshot
  | .publish snapshot => if snapshot.group = group then some snapshot else none
  | _ => none

/-- A snapshot that is not older than any delivered before it. -/
def Leads (earlier : List Snapshot) (snapshot : Snapshot) : Prop :=
  ∀ other ∈ earlier, other.generation ≤ snapshot.generation

instance (earlier : List Snapshot) (snapshot : Snapshot) : Decidable (Leads earlier snapshot) :=
  inferInstanceAs (Decidable (∀ other ∈ earlier, other.generation ≤ snapshot.generation))

/-- The last of some deliveries that was not older than any before it. -/
def IsLatest (deliveries : List Snapshot) (latest : Snapshot) : Prop :=
  ∃ earlier later, deliveries = earlier ++ latest :: later ∧ Leads earlier latest ∧
    ∀ between snapshot rest, later = between ++ snapshot :: rest →
      ¬ Leads (earlier ++ latest :: between) snapshot

/-- As `IsLatest`, said by bounds on the generations on both sides. -/
def Tops (deliveries : List Snapshot) (latest : Snapshot) : Prop :=
  ∃ earlier later, deliveries = earlier ++ latest :: later ∧ Leads earlier latest ∧
    ∀ other ∈ later, other.generation < latest.generation

namespace Tops

variable {deliveries : List Snapshot} {latest snapshot : Snapshot}

theorem isLatest (tops : Tops deliveries latest) : IsLatest deliveries latest := by
  obtain ⟨earlier, later, split, leads, below⟩ := tops
  refine ⟨earlier, later, split, leads, ?_⟩
  rintro between snapshot rest rfl ahead
  have lower := below snapshot (by simp)
  have higher := ahead latest (by simp)
  omega

theorem mem (tops : Tops deliveries latest) : latest ∈ deliveries := by
  obtain ⟨earlier, later, rfl, -, -⟩ := tops
  simp

theorem leads (tops : Tops deliveries latest) : Leads deliveries latest := by
  obtain ⟨earlier, later, rfl, leads, below⟩ := tops
  intro other member
  rcases List.mem_append.mp member with before | member
  · exact leads other before
  · rcases List.mem_cons.mp member with rfl | after
    · exact Nat.le_refl _
    · exact Nat.le_of_lt (below other after)

theorem singleton (snapshot : Snapshot) : Tops [snapshot] snapshot :=
  ⟨[], [], rfl, fun _ member => absurd member List.not_mem_nil,
    fun _ member => absurd member List.not_mem_nil⟩

theorem append_older (tops : Tops deliveries latest)
    (older : snapshot.generation < latest.generation) : Tops (deliveries ++ [snapshot]) latest := by
  obtain ⟨earlier, later, rfl, leads, below⟩ := tops
  refine ⟨earlier, later ++ [snapshot], by simp, leads, ?_⟩
  intro other member
  rcases List.mem_append.mp member with before | last
  · exact below other before
  · exact List.mem_singleton.mp last ▸ older

theorem append_newer (tops : Tops deliveries latest)
    (newer : latest.generation ≤ snapshot.generation) :
    Tops (deliveries ++ [snapshot]) snapshot := by
  refine ⟨deliveries, [], rfl, ?_, fun _ member => absurd member List.not_mem_nil⟩
  exact fun other member => Nat.le_trans (tops.leads other member) newer

end Tops

/-- A stored snapshot stands for the deliveries of its group: it has the generation and the content
of the latest one. -/
def Represents (stored : Option Snapshot) (deliveries : List Snapshot) : Prop :=
  match stored with
  | none => deliveries = []
  | some stored => ∃ latest, Tops deliveries latest ∧
      stored.generation = latest.generation ∧ stored.content = latest.content

namespace Represents

variable {stored : Option Snapshot} {deliveries : List Snapshot}

theorem of_mem {snapshot : Snapshot} (stands : Represents stored deliveries)
    (member : snapshot ∈ deliveries) : ∃ kept latest, stored = some kept ∧ Tops deliveries latest ∧
      kept.generation = latest.generation ∧ kept.content = latest.content := by
  cases stored with
  | none =>
      have empty : deliveries = [] := stands
      exact absurd member (empty ▸ List.not_mem_nil)
  | some kept =>
      obtain ⟨latest, tops, generation, content⟩ := stands
      exact ⟨kept, latest, rfl, tops, generation, content⟩

theorem eq_none (stands : Represents stored []) : stored = none := by
  cases stored with
  | none => rfl
  | some kept =>
      obtain ⟨latest, tops, -⟩ := stands
      exact absurd tops.mem List.not_mem_nil

theorem toList (stored : Option Snapshot) : Represents stored stored.toList := by
  cases stored with
  | none => rfl
  | some stored => exact ⟨stored, .singleton stored, rfl, rfl⟩

/-- Of deliveries with distinct generations the order leaves no trace. -/
theorem perm {other : Option Snapshot} {others : List Snapshot} (left : Represents other others)
    (right : Represents stored deliveries) (perm : others.Perm deliveries)
    (distinct : (deliveries.map Snapshot.generation).Nodup) :
    other.map Snapshot.generation = stored.map Snapshot.generation ∧
      other.map Snapshot.content = stored.map Snapshot.content := by
  cases others with
  | nil =>
      obtain rfl := List.nil_perm.mp perm
      rw [left.eq_none, right.eq_none]
      exact ⟨rfl, rfl⟩
  | cons snapshot rest =>
      obtain ⟨kept, top, rfl, tops, generation, content⟩ := left.of_mem List.mem_cons_self
      obtain ⟨kept', top', rfl, tops', generation', content'⟩ :=
        right.of_mem (perm.subset List.mem_cons_self)
      have same : top = top' := by
        refine List.inj_on_of_nodup_map distinct (perm.subset tops.mem) tops'.mem ?_
        exact Nat.le_antisymm (tops'.leads top (perm.subset tops.mem))
          (tops.leads top' (perm.symm.subset tops'.mem))
      subst same
      simp [generation, generation', content, content']

end Represents

namespace Watched

variable {latest : Watched (Option Snapshot)} {deliveries : List Snapshot}

theorem receive_represents (snapshot : Snapshot) (before : Represents latest.value deliveries) :
    Represents (latest.receive snapshot).value (deliveries ++ [snapshot]) := by
  cases known : latest.value with
  | none =>
      rw [known] at before
      rw [receive_first known, show deliveries = [] from before]
      exact ⟨snapshot, .singleton snapshot, rfl, rfl⟩
  | some previous =>
      rw [known] at before
      obtain ⟨top, tops, generation, content⟩ := before
      by_cases older : snapshot.generation < previous.generation
      · rw [receive_stale known older, known]
        exact ⟨top, tops.append_older (generation ▸ older), generation, content⟩
      · have newer := Nat.not_lt.mp older
        by_cases same : previous.content = snapshot.content
        · rw [receive_same known newer same]
          exact ⟨snapshot, tops.append_newer (generation ▸ newer), rfl, rfl⟩
        · rw [receive_other known newer same]
          exact ⟨snapshot, tops.append_newer (generation ▸ newer), rfl, rfl⟩

theorem foldl_receive_represents (snapshots : List Snapshot)
    (before : Represents latest.value deliveries) :
    Represents (snapshots.foldl receive latest).value (deliveries ++ snapshots) := by
  induction snapshots generalizing latest deliveries with
  | nil => simpa using before
  | cons snapshot rest ih =>
      rw [List.foldl_cons, List.append_cons]
      exact ih (receive_represents snapshot before)

/-- A snapshot is news exactly if its arrival makes the content another one. -/
theorem receive_revision (latest : Watched (Option Snapshot)) (snapshot : Snapshot) :
    (latest.receive snapshot).revision ≠ latest.revision ↔
      latest.value.map Snapshot.content ≠ (latest.receive snapshot).value.map Snapshot.content := by
  cases known : latest.value with
  | none => simp [receive_first known, set]
  | some previous =>
      by_cases older : snapshot.generation < previous.generation
      · simp [receive_stale known older, known]
      · have newer := Nat.not_lt.mp older
        by_cases same : previous.content = snapshot.content
        · rw [receive_same known newer same]
          simp only [ne_eq, not_true_eq_false, Option.map_some, Option.some.injEq, false_iff, not_not]
          exact same
        · rw [receive_other known newer same]
          simpa [set] using same

end Watched

namespace SnapshotStore

def handle (store : SnapshotStore) : StoreEvent → SnapshotStore
  | .subscribe group => (store.subscribe group).2
  | .unsubscribe follower => store.unsubscribe follower
  | .prune => store.prune
  | .publish snapshot => (store.publish snapshot).2

def run (store : SnapshotStore) (events : List StoreEvent) : SnapshotStore :=
  events.foldl handle store

/-- Holds if a group is registered before, between and after some events. -/
def StaysRegistered (group : ConsumerGroup) (store : SnapshotStore) : List StoreEvent → Prop
  | [] => store.isRegistered group = true
  | event :: rest => store.isRegistered group = true ∧ StaysRegistered group (store.handle event) rest

instance decidableStaysRegistered (group : ConsumerGroup) :
    ∀ store events, Decidable (StaysRegistered group store events)
  | store, [] => inferInstanceAs (Decidable (store.isRegistered group = true))
  | store, event :: rest =>
      have := decidableStaysRegistered group (store.handle event) rest
      inferInstanceAs (Decidable (_ ∧ _))

def generation? (store : SnapshotStore) (group : ConsumerGroup) : Option Nat :=
  (store.snapshot? group).map Snapshot.generation

def content? (store : SnapshotStore) (group : ConsumerGroup) : Option SnapshotContent :=
  (store.snapshot? group).map Snapshot.content

/-- The snapshot that a group has at first and those that some events deliver to it. -/
def deliveries (store : SnapshotStore) (group : ConsumerGroup) (events : List StoreEvent) :
    List Snapshot :=
  (store.snapshot? group).toList ++ events.filterMap (·.delivery? group)

variable {store : SnapshotStore} {group : ConsumerGroup}

theorem run_append (store : SnapshotStore) (first second : List StoreEvent) :
    store.run (first ++ second) = (store.run first).run second := List.foldl_append

theorem StaysRegistered.start {events : List StoreEvent}
    (stays : StaysRegistered group store events) : store.isRegistered group = true := by
  cases events with
  | nil => exact stays
  | cons => exact stays.1

theorem StaysRegistered.split {first second : List StoreEvent}
    (stays : StaysRegistered group store (first ++ second)) :
    StaysRegistered group store first ∧ StaysRegistered group (store.run first) second := by
  induction first generalizing store with
  | nil => exact ⟨stays.start, stays⟩
  | cons event rest ih =>
      obtain ⟨registered, later⟩ := stays
      obtain ⟨before, after⟩ := ih later
      exact ⟨⟨registered, before⟩, after⟩

/-- An event that leaves a group registered does to its latest snapshot what a delivery does, if it
is one, and nothing otherwise. -/
theorem handle_latest {before after : GroupChannel} (event : StoreEvent)
    (found : store.channels.get? group = some before)
    (kept : (store.handle event).channels.get? group = some after) :
    after.latest = (event.delivery? group).toList.foldl Watched.receive before.latest := by
  cases event with
  | subscribe other =>
      rw [handle, get?_subscribe] at kept
      split at kept
      case isTrue same =>
        rw [same, found] at kept
        exact (Option.some.inj kept) ▸ rfl
      case isFalse => exact (Option.some.inj (found.symm.trans kept)) ▸ rfl
  | unsubscribe follower =>
      rw [handle, get?_unsubscribe, found] at kept
      split at kept
      case isTrue => exact (Option.some.inj kept) ▸ rfl
      case isFalse => exact (Option.some.inj kept) ▸ rfl
  | prune =>
      rw [handle, get?_prune, found] at kept
      obtain ⟨same, -⟩ := Option.filter_eq_some_iff.mp kept
      exact (Option.some.inj same) ▸ rfl
  | publish snapshot =>
      rw [handle, get?_publish, found] at kept
      rw [StoreEvent.delivery?]
      split at kept
      case isTrue same =>
        rw [if_pos same]
        exact (Option.some.inj kept) ▸ rfl
      case isFalse other =>
        rw [if_neg other]
        exact (Option.some.inj kept) ▸ rfl

theorem run_latest {before after : GroupChannel} {events : List StoreEvent}
    (stays : StaysRegistered group store events)
    (found : store.channels.get? group = some before)
    (kept : (store.run events).channels.get? group = some after) :
    after.latest = (events.filterMap (·.delivery? group)).foldl Watched.receive before.latest := by
  induction events generalizing store before with
  | nil => exact (Option.some.inj (found.symm.trans kept)) ▸ rfl
  | cons event rest ih =>
      obtain ⟨channel, next⟩ := isRegistered_iff.mp stays.2.start
      rw [ih stays.2 next kept, handle_latest event found next]
      cases delivered : event.delivery? group <;> simp [delivered]

/-- The snapshot at the end of a run stands for the one at its start and all that came since. -/
theorem run_represents {events : List StoreEvent} (stays : StaysRegistered group store events) :
    Represents ((store.run events).snapshot? group) (store.deliveries group events) := by
  obtain ⟨before, found⟩ := isRegistered_iff.mp stays.start
  have whole : StaysRegistered group store (events ++ []) := by simpa using stays
  have ended := whole.split.2
  obtain ⟨after, kept⟩ := isRegistered_iff.mp ended
  rw [deliveries, snapshot?_of_channel found, snapshot?_of_channel kept,
    run_latest stays found kept]
  exact Watched.foldl_receive_represents _ (.toList _)

/-- A follower who has seen all there was hears of an event exactly if it delivers another content. -/
theorem handle_hasNews {event : StoreEvent} {follower : Follower}
    (registered : store.isRegistered follower.group = true)
    (kept : (store.handle event).isRegistered follower.group = true)
    (seen : store.hasNews follower = false) :
    (store.handle event).hasNews follower = true ↔
      (event.delivery? follower.group).isSome = true ∧
        store.content? follower.group ≠ (store.handle event).content? follower.group := by
  obtain ⟨before, found⟩ := isRegistered_iff.mp registered
  obtain ⟨after, next⟩ := isRegistered_iff.mp kept
  have latest := handle_latest event found next
  have current : before.latest.revision = follower.seen := by
    simpa [hasNews, found, Watched.isNewsSince] using seen
  have news : (store.handle event).hasNews follower = true ↔
      after.latest.revision ≠ before.latest.revision := by
    simp [hasNews, next, Watched.isNewsSince, current]
  rw [news, content?, content?, snapshot?_of_channel found, snapshot?_of_channel next, latest]
  cases delivered : event.delivery? follower.group with
  | none => simp
  | some snapshot => simpa using Watched.receive_revision before.latest snapshot

theorem run_generation_le {events : List StoreEvent} (stays : StaysRegistered group store events)
    {old : Snapshot} (had : store.snapshot? group = some old) :
    ∃ new, (store.run events).snapshot? group = some new ∧ old.generation ≤ new.generation := by
  have member : old ∈ store.deliveries group events := by simp [deliveries, had]
  obtain ⟨new, latest, ended, tops, generation, -⟩ := (run_represents stays).of_mem member
  exact ⟨new, ended, generation ▸ tops.leads old member⟩

/-- Over any run of a store, as long as a group stays registered: the generation of its snapshot
never falls; its snapshot has the generation and content of the latest delivery that was not older
than any before it; whoever follows it and has seen all there was hears of exactly the deliveries
that make the content another one; deliveries that are dropped change nothing; and every run of any
store that delivers the same snapshots, of distinct generations, ends with the same generation and
content, those of the newest snapshot. -/
theorem publication_order {events : List StoreEvent} (stays : StaysRegistered group store events) :
    (∀ first second, events = first ++ second → ∀ old, (store.run first).snapshot? group = some old →
      ∃ new, (store.run events).snapshot? group = some new ∧ old.generation ≤ new.generation) ∧
    (store.deliveries group events = [] → (store.run events).snapshot? group = none) ∧
    (store.deliveries group events ≠ [] → ∃ latest, IsLatest (store.deliveries group events) latest ∧
      (store.run events).generation? group = some latest.generation ∧
      (store.run events).content? group = some latest.content) ∧
    (∀ first event second, events = first ++ event :: second → ∀ follower : Follower,
      follower.group = group → (store.run first).hasNews follower = false →
      ((store.run (first ++ [event])).hasNews follower = true ↔
        (event.delivery? group).isSome = true ∧
          (store.run first).content? group ≠ (store.run (first ++ [event])).content? group)) ∧
    (∀ first snapshot second, events = first ++ .publish snapshot :: second →
      ((store.run first).publish snapshot).1 = .stale ∨
        ((store.run first).publish snapshot).1 = .unsubscribed →
      store.run (first ++ [.publish snapshot]) = store.run first) ∧
    (∀ (other : SnapshotStore) (others : List StoreEvent), StaysRegistered group other others →
      (other.deliveries group others).Perm (store.deliveries group events) →
      ((store.deliveries group events).map Snapshot.generation).Nodup →
      (other.run others).generation? group = (store.run events).generation? group ∧
        (other.run others).content? group = (store.run events).content? group ∧
        ∀ newest ∈ store.deliveries group events, Leads (store.deliveries group events) newest →
          (store.run events).generation? group = some newest.generation ∧
            (store.run events).content? group = some newest.content) := by
  have stands := run_represents stays
  refine ⟨?_, ?_, ?_, ?_, ?_, ?_⟩
  · rintro first second rfl old had
    rw [run_append]
    exact run_generation_le stays.split.2 had
  · intro none
    exact (none ▸ stands).eq_none
  · intro some
    obtain ⟨snapshot, member⟩ := List.exists_mem_of_ne_nil _ some
    obtain ⟨stored, latest, ended, tops, generation, content⟩ := stands.of_mem member
    refine ⟨latest, tops.isLatest, ?_, ?_⟩
    · simp [generation?, ended, generation]
    · simp [content?, ended, content]
  · rintro first event second rfl follower rfl seen
    obtain ⟨before, after⟩ := stays.split
    rw [run_append]
    exact handle_hasNews after.1 after.2.start seen
  · rintro first snapshot second - dropped
    rw [run_append]
    exact publish_dropped dropped
  · intro other others alsoStays perm distinct
    have same := (run_represents alsoStays).perm stands perm distinct
    refine ⟨same.1, same.2, fun newest member leads => ?_⟩
    obtain ⟨stored, latest, ended, tops, generation, content⟩ := stands.of_mem member
    have top : latest = newest := by
      refine List.inj_on_of_nodup_map distinct tops.mem member ?_
      exact Nat.le_antisymm (leads latest tops.mem) (tops.leads newest member)
    subst top
    simp [generation?, content?, ended, generation, content]

/-- A snapshot of generation 1 that comes after one of generation 2 is of no consequence. -/
theorem publication_order_late_delivery :
    let web : ConsumerGroup := ⟨"web", .global, .all⟩
    let newer : Snapshot := ⟨web, 2, ⟨"1", "2", "3"⟩, ⟨0, [⟨"a", 1000, false⟩]⟩, ⟨0, []⟩, ⟨0, []⟩⟩
    let older : Snapshot := ⟨web, 1, ⟨"4", "2", "3"⟩, ⟨1, []⟩, ⟨0, []⟩, ⟨0, []⟩⟩
    let store := (start.subscribe web).2
    let events := [StoreEvent.publish newer, .publish older]
    StaysRegistered web store events ∧ (store.run events).generation? web = some 2 ∧
      (store.run events).content? web = some newer.content := by
  intro web newer older store events
  have stays : StaysRegistered web store events := ⟨by decide, by decide, by decide⟩
  exact ⟨stays, (publication_order stays).2.2.2.2.2 store events stays (.refl _) (by decide)
    |>.2.2 newer (by decide) (by decide)⟩

end SnapshotStore

end ServiceMesh
