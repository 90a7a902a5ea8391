import ServiceMesh.Proofs.Snapshot.Build

/-! Publishing snapshots none of which is older than what is stored. Behind it each of their groups
holds the content that was built for it, under the versions that its builder shows. -/
namespace ServiceMesh

namespace Watched

/-- A snapshot that is not older is the latest one then, if under the versions of one of the same
content. -/
theorem receive_current {latest : Watched (Option Snapshot)} {snapshot : Snapshot}
    (newer : ∀ previous, latest.value = some previous →
      previous.generation ≤ snapshot.generation) :
    ∃ stored, (latest.receive snapshot).value = some stored ∧
      stored.content = snapshot.content ∧ stored.generation = snapshot.generation ∧
      (stored.versions = snapshot.versions ∨ ∃ previous, latest.value = some previous ∧
        previous.content = snapshot.content ∧ stored.versions = previous.versions) := by
  cases known : latest.value with
  | none =>
      rw [receive_first known]
      exact ⟨snapshot, rfl, rfl, rfl, .inl rfl⟩
  | some previous =>
      have newer := newer previous known
      by_cases same : previous.content = snapshot.content
      · rw [receive_same known newer same]
        exact ⟨_, rfl, rfl, rfl, .inr ⟨previous, rfl, same, rfl⟩⟩
      · rw [receive_other known newer same]
        exact ⟨snapshot, rfl, rfl, rfl, .inl rfl⟩

end Watched

namespace SnapshotStore

variable {store : SnapshotStore} {group : ConsumerGroup} {snapshot : Snapshot}

theorem isRegistered_publish (store : SnapshotStore) (snapshot : Snapshot)
    (group : ConsumerGroup) :
    (store.publish snapshot).2.isRegistered group = store.isRegistered group := by
  rw [isRegistered, isRegistered, SortedMap.contains, SortedMap.contains, get?_publish]
  split
  · rw [Option.isSome_map]
  · rfl

theorem groupAdded_publish (store : SnapshotStore) (snapshot : Snapshot) :
    (store.publish snapshot).2.groupAdded = store.groupAdded := by
  rw [publish_channels]

theorem isRegistered_of_snapshot? (stored : store.snapshot? group = some snapshot) :
    store.isRegistered group = true := by
  obtain ⟨channel, found, -⟩ := Option.bind_eq_some_iff.mp stored
  exact isRegistered_iff.mpr ⟨channel, found⟩

theorem snapshot?_publish_other (store : SnapshotStore) (apart : snapshot.group ≠ group) :
    (store.publish snapshot).2.snapshot? group = store.snapshot? group := by
  rw [snapshot?, snapshot?, get?_publish, if_neg apart]

/-- No stored snapshot is of a later generation. -/
def Dated (store : SnapshotStore) (generation : Nat) : Prop :=
  ∀ group stored, store.snapshot? group = some stored → stored.generation ≤ generation

theorem snapshot?_publish_own (dated : store.Dated snapshot.generation)
    (registered : store.isRegistered snapshot.group = true) :
    ∃ stored, (store.publish snapshot).2.snapshot? snapshot.group = some stored ∧
      stored.content = snapshot.content ∧ stored.generation = snapshot.generation ∧
      (stored.versions = snapshot.versions ∨ ∃ previous,
        store.snapshot? snapshot.group = some previous ∧
        previous.content = snapshot.content ∧ stored.versions = previous.versions) := by
  obtain ⟨channel, found⟩ := isRegistered_iff.mp registered
  have before := snapshot?_of_channel found
  have after : (store.publish snapshot).2.snapshot? snapshot.group =
      (channel.latest.receive snapshot).value := by
    rw [snapshot?, get?_publish, if_pos rfl, found]
    rfl
  rw [before, after]
  exact Watched.receive_current fun previous known => dated _ _ (before.trans known)

theorem Dated.publish (dated : store.Dated snapshot.generation) :
    (store.publish snapshot).2.Dated snapshot.generation := by
  intro group stored found
  by_cases same : snapshot.group = group
  · subst same
    have registered := isRegistered_of_snapshot? found
    rw [isRegistered_publish] at registered
    obtain ⟨own, holds, -, generation, -⟩ := snapshot?_publish_own dated registered
    rw [found] at holds
    cases holds
    exact generation.le
  · rw [snapshot?_publish_other store same] at found
    exact dated group stored found

/-- A group holds the content that is wanted for it. -/
def Holds (store : SnapshotStore) (target : ConsumerGroup → SnapshotContent)
    (group : ConsumerGroup) : Prop :=
  ∃ stored, store.snapshot? group = some stored ∧ stored.content = target group

variable {target : ConsumerGroup → SnapshotContent}

theorem holds_publish (dated : store.Dated snapshot.generation)
    (registered : store.isRegistered snapshot.group = true)
    (right : snapshot.content = target snapshot.group) :
    (store.publish snapshot).2.Holds target snapshot.group := by
  obtain ⟨stored, found, content, -⟩ := snapshot?_publish_own dated registered
  exact ⟨stored, found, content.trans right⟩

/-- Publishing wanted content takes none away. -/
theorem Holds.publish (holds : store.Holds target group) (dated : store.Dated snapshot.generation)
    (right : snapshot.content = target snapshot.group) :
    (store.publish snapshot).2.Holds target group := by
  obtain ⟨stored, found, content⟩ := holds
  by_cases same : snapshot.group = group
  · subst same
    exact holds_publish dated (isRegistered_of_snapshot? found) right
  · exact ⟨stored, (snapshot?_publish_other store same).trans found, content⟩

/-- Wherever the wanted content is stored, it is stored under the versions that are shown for it. -/
def InStep (store : SnapshotStore) (target : ConsumerGroup → SnapshotContent)
    (versions : SnapshotVersions) : Prop :=
  ∀ group stored, store.snapshot? group = some stored → stored.content = target group →
    versions.shown? group = some (stored.versions, target group)

theorem InStep.publish {versions : SnapshotVersions} (inStep : store.InStep target versions)
    (dated : store.Dated snapshot.generation) (right : snapshot.content = target snapshot.group)
    (shown : versions.shown? snapshot.group = some (snapshot.versions, target snapshot.group)) :
    (store.publish snapshot).2.InStep target versions := by
  intro group stored found content
  by_cases same : snapshot.group = group
  · subst same
    have registered := isRegistered_of_snapshot? found
    rw [isRegistered_publish] at registered
    obtain ⟨own, holds, -, -, versioned⟩ := snapshot?_publish_own dated registered
    rw [found] at holds
    cases holds
    rcases versioned with versioned | ⟨previous, before, kept, versioned⟩
    · rw [versioned, shown]
    · rw [versioned]
      exact inStep _ previous before (kept.trans right)
  · rw [snapshot?_publish_other store same] at found
    exact inStep group stored found content

theorem publishAll_cons (store : SnapshotStore) (snapshot : Snapshot) (rest : List Snapshot) :
    store.publishAll (snapshot :: rest) =
      ((store.publish snapshot).1 :: ((store.publish snapshot).2.publishAll rest).1,
        ((store.publish snapshot).2.publishAll rest).2) := by
  have collects (snapshots : List Snapshot) (store : SnapshotStore) (outcomes : List Publication) :
      snapshots.foldl (fun done snapshot =>
        (done.1 ++ [(done.2.publish snapshot).1], (done.2.publish snapshot).2)) (outcomes, store) =
      (outcomes ++ (store.publishAll snapshots).1, (store.publishAll snapshots).2) := by
    induction snapshots generalizing store outcomes with
    | nil => simp [publishAll]
    | cons snapshot rest ih =>
        have own : store.publishAll (snapshot :: rest) = _ :=
          ih (store.publish snapshot).2 [(store.publish snapshot).1]
        rw [List.foldl_cons, ih, own, List.append_assoc]
  exact collects rest (store.publish snapshot).2 [(store.publish snapshot).1]

/-- Behind the publishing of wanted content every registered group that it was for holds it, and no
other group has lost it. -/
theorem publishAll_holds {snapshots : List Snapshot} {generation : Nat}
    {versions : SnapshotVersions} (dated : store.Dated generation)
    (inStep : store.InStep target versions)
    (news : ∀ snapshot ∈ snapshots, snapshot.generation = generation ∧
      snapshot.content = target snapshot.group ∧
      versions.shown? snapshot.group = some (snapshot.versions, target snapshot.group)) :
    let after := (store.publishAll snapshots).2
    after.Dated generation ∧ after.InStep target versions ∧
      (∀ group, after.isRegistered group = store.isRegistered group) ∧
      ∀ group, store.isRegistered group = true →
        (group ∈ snapshots.map Snapshot.group ∨ store.Holds target group) →
        after.Holds target group := by
  induction snapshots generalizing store with
  | nil =>
      refine ⟨dated, inStep, fun _ => rfl, fun group _ reason => ?_⟩
      rcases reason with none | holds
      · contradiction
      · exact holds
  | cons snapshot rest ih =>
      rw [publishAll_cons]
      obtain ⟨generated, right, shown⟩ := news snapshot List.mem_cons_self
      subst generated
      obtain ⟨laterDated, laterInStep, registered, holds⟩ := ih dated.publish
        (inStep.publish dated right shown) fun later member => news later (List.mem_cons_of_mem _ member)
      refine ⟨laterDated, laterInStep, fun group => ?_, fun group known reason => ?_⟩
      · rw [← isRegistered_publish store snapshot group]
        exact registered group
      · refine holds group (by rw [isRegistered_publish, known]) ?_
        rw [List.map_cons, List.mem_cons] at reason
        rcases reason with (own | later) | before
        · subst own
          exact .inr (holds_publish dated known right)
        · exact .inl later
        · exact .inr (before.publish dated right)

/-! ### Snapshots that are stored as they are -/

/-- A snapshot that comes too late is dropped. -/
theorem snapshot?_publish_late {previous : Snapshot}
    (stored : store.snapshot? snapshot.group = some previous)
    (older : snapshot.generation < previous.generation) :
    (store.publish snapshot).2.snapshot? snapshot.group = some previous := by
  obtain ⟨channel, found, known⟩ := Option.bind_eq_some_iff.mp stored
  rw [snapshot?, get?_publish, if_pos rfl, found]
  exact (congrArg Watched.value (Watched.receive_stale known older)).trans known

/-- A snapshot that is not older, and has the versions of what is stored if it has its content, is
stored as it is. -/
theorem snapshot?_publish_fresh
    (newer : ∀ previous, store.snapshot? snapshot.group = some previous →
      previous.generation ≤ snapshot.generation)
    (registered : store.isRegistered snapshot.group = true)
    (versioned : ∀ previous, store.snapshot? snapshot.group = some previous →
      previous.content = snapshot.content → previous.versions = snapshot.versions) :
    (store.publish snapshot).2.snapshot? snapshot.group = some snapshot := by
  obtain ⟨channel, found⟩ := isRegistered_iff.mp registered
  have before := snapshot?_of_channel found
  have after : (store.publish snapshot).2.snapshot? snapshot.group =
      (channel.latest.receive snapshot).value := by
    rw [snapshot?, get?_publish, if_pos rfl, found]
    rfl
  rw [after]
  cases known : channel.latest.value with
  | none => rw [Watched.receive_first known]; rfl
  | some previous =>
      have newer := newer previous (before.trans known)
      by_cases same : previous.content = snapshot.content
      · rw [Watched.receive_same known newer same, versioned previous (before.trans known) same]
      · rw [Watched.receive_other known newer same]
        rfl

/-- Behind the publishing of snapshots of distinct groups each of them is stored as it is, and no
other group has got one. -/
theorem publishAll_fresh {snapshots : List Snapshot} {generation : Nat}
    (distinct : (snapshots.map Snapshot.group).Nodup) (dated : store.Dated generation)
    (news : ∀ snapshot ∈ snapshots, snapshot.generation = generation ∧
      store.isRegistered snapshot.group = true ∧
      ∀ previous, store.snapshot? snapshot.group = some previous →
        previous.content = snapshot.content → previous.versions = snapshot.versions) :
    let after := (store.publishAll snapshots).2
    (∀ snapshot ∈ snapshots, after.snapshot? snapshot.group = some snapshot) ∧
      (∀ group, group ∉ snapshots.map Snapshot.group →
        after.snapshot? group = store.snapshot? group) ∧
      (∀ group, after.isRegistered group = store.isRegistered group) ∧
      after.Dated generation := by
  induction snapshots generalizing store with
  | nil =>
      exact ⟨fun snapshot member => absurd member List.not_mem_nil, fun _ _ => rfl, fun _ => rfl,
        dated⟩
  | cons snapshot rest ih =>
      obtain ⟨apart, distinct⟩ := List.nodup_cons.mp distinct
      obtain ⟨generated, registered, versioned⟩ := news snapshot List.mem_cons_self
      subst generated
      have other (later : Snapshot) (member : later ∈ rest) : snapshot.group ≠ later.group :=
        fun same => apart (same ▸ List.mem_map_of_mem member)
      obtain ⟨stored, alone, kept, behind⟩ := ih distinct dated.publish fun later member => by
        obtain ⟨dated, known, versioned⟩ := news later (List.mem_cons_of_mem _ member)
        rw [isRegistered_publish, snapshot?_publish_other store (other later member)]
        exact ⟨dated, known, versioned⟩
      rw [publishAll_cons]
      refine ⟨fun own member => ?_, fun group fresh => ?_, fun group => ?_, behind⟩
      · rcases List.mem_cons.mp member with rfl | later
        · rw [alone _ apart]
          exact snapshot?_publish_fresh (dated _) registered versioned
        · exact stored own later
      · rw [List.map_cons, List.mem_cons, not_or] at fresh
        rw [alone group fresh.2]
        exact snapshot?_publish_other store (Ne.symm fresh.1)
      · rw [kept, isRegistered_publish]

/-- What becomes of a snapshot for a registered group that is not older than what is stored. -/
def outcome (store : SnapshotStore) (group : ConsumerGroup) (content : SnapshotContent) :
    Publication :=
  if (store.snapshot? group).map Snapshot.content = some content then .unchanged else .applied

theorem publish_outcome (dated : store.Dated snapshot.generation)
    (registered : store.isRegistered snapshot.group = true) :
    (store.publish snapshot).1 = store.outcome snapshot.group snapshot.content := by
  obtain ⟨channel, found⟩ := isRegistered_iff.mp registered
  have before := snapshot?_of_channel found
  unfold publish outcome
  simp only [found, before]
  cases known : channel.latest.value with
  | none => rfl
  | some previous =>
      have newer := Nat.not_lt.mpr (dated _ _ (before.trans known))
      simp only [if_neg newer, Option.map_some, Option.some.injEq, ← Snapshot.sameContent_iff]
      split <;> rfl

theorem publishAll_outcomes {snapshots : List Snapshot} {generation : Nat}
    (distinct : (snapshots.map Snapshot.group).Nodup) (dated : store.Dated generation)
    (news : ∀ snapshot ∈ snapshots, snapshot.generation = generation ∧
      store.isRegistered snapshot.group = true) :
    (store.publishAll snapshots).1 =
      snapshots.map fun snapshot => store.outcome snapshot.group snapshot.content := by
  induction snapshots generalizing store with
  | nil => rfl
  | cons snapshot rest ih =>
      obtain ⟨apart, distinct⟩ := List.nodup_cons.mp distinct
      obtain ⟨generated, registered⟩ := news snapshot List.mem_cons_self
      subst generated
      rw [publishAll_cons, List.map_cons, publish_outcome dated registered, ih distinct dated.publish]
      · refine congrArg _ (List.map_congr_left fun later member => ?_)
        have other : snapshot.group ≠ later.group := fun same =>
          apart (same ▸ List.mem_map_of_mem member)
        rw [outcome, outcome, snapshot?_publish_other store other]
      · intro later member
        rw [isRegistered_publish]
        exact news later (List.mem_cons_of_mem _ member)

end SnapshotStore

end ServiceMesh
