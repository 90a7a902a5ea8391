import ServiceMesh.Proofs.Snapshot.Publishing

/-! Leaving out the building and the publishing of snapshots that bring nothing new. Whoever looks at
groups, contents, versions and news cannot tell the difference. -/
namespace ServiceMesh

/-- What can be seen of a snapshot. -/
def Snapshot.shown (snapshot : Snapshot) : Versions × SnapshotContent :=
  (snapshot.versions, snapshot.content)

/-- What can be seen of the channel of a group. -/
def GroupChannel.shown (channel : GroupChannel) :
    Option (Versions × SnapshotContent) × Nat × Nat :=
  (channel.latest.value.map Snapshot.shown, channel.latest.revision, channel.followers)

/-- Two values are shown alike, and as often anew. -/
def Watched.Alike (first second : Watched (Option Snapshot)) : Prop :=
  first.value.map Snapshot.shown = second.value.map Snapshot.shown ∧
    first.revision = second.revision

theorem Watched.Alike.receive {first second : Watched (Option Snapshot)}
    (alike : first.Alike second) {mine yours : Snapshot} (same : mine.shown = yours.shown)
    (newer : ∀ previous, first.value = some previous → previous.generation ≤ mine.generation)
    (later : ∀ previous, second.value = some previous → previous.generation ≤ yours.generation) :
    (first.receive mine).Alike (second.receive yours) := by
  obtain ⟨values, revisions⟩ := alike
  have contents : mine.content = yours.content := congrArg Prod.snd same
  cases known : first.value with
  | none =>
      rw [known] at values
      have unknown : second.value = none := Option.map_eq_none_iff.mp values.symm
      rw [receive_first known, receive_first unknown]
      exact ⟨congrArg some same, congrArg (· + 1) revisions⟩
  | some previous =>
      rw [known] at values
      obtain ⟨before, known', shown⟩ := Option.map_eq_some_iff.mp values.symm
      have content : before.content = previous.content := congrArg Prod.snd shown
      have versions : before.versions = previous.versions := congrArg Prod.fst shown
      by_cases kept : previous.content = mine.content
      · rw [receive_same known (newer _ known) kept,
          receive_same known' (later _ known') (by rw [content, kept, contents])]
        refine ⟨?_, revisions⟩
        exact congrArg some (Prod.ext versions.symm contents)
      · rw [receive_other known (newer _ known) kept,
          receive_other known' (later _ known') (by rwa [content, ← contents])]
        exact ⟨congrArg some same, congrArg (· + 1) revisions⟩

/-- A snapshot of the content that is there shows nothing new. -/
theorem Watched.receive_idle {latest : Watched (Option Snapshot)} {previous snapshot : Snapshot}
    (known : latest.value = some previous) (newer : previous.generation ≤ snapshot.generation)
    (kept : previous.content = snapshot.content) : latest.Alike (latest.receive snapshot) := by
  rw [receive_same known newer kept]
  refine ⟨?_, rfl⟩
  rw [known]
  exact congrArg some (Prod.ext rfl kept)

namespace SnapshotStore

/-- Two stores with the same groups, each shown alike. -/
structure Alike (first second : SnapshotStore) : Prop where
  groupAdded : first.groupAdded = second.groupAdded
  channels : ∀ group, (first.channels.get? group).map GroupChannel.shown =
    (second.channels.get? group).map GroupChannel.shown

variable {first second : SnapshotStore} {group : ConsumerGroup}

theorem Alike.isRegistered (alike : first.Alike second) (group : ConsumerGroup) :
    first.isRegistered group = second.isRegistered group := by
  have shown := congrArg Option.isSome (alike.channels group)
  rwa [Option.isSome_map, Option.isSome_map] at shown

theorem snapshot?_shown (store : SnapshotStore) (group : ConsumerGroup) :
    (store.snapshot? group).map Snapshot.shown =
      ((store.channels.get? group).map GroupChannel.shown).bind Prod.fst := by
  rw [snapshot?]
  cases store.channels.get? group <;> rfl

theorem Alike.snapshot? (alike : first.Alike second) (group : ConsumerGroup) :
    (first.snapshot? group).map Snapshot.shown = (second.snapshot? group).map Snapshot.shown := by
  rw [snapshot?_shown, snapshot?_shown, alike.channels]

theorem Alike.holds (alike : first.Alike second) {target : ConsumerGroup → SnapshotContent}
    (holds : first.Holds target group) : second.Holds target group := by
  obtain ⟨stored, found, content⟩ := holds
  have shown := alike.snapshot? group
  rw [found] at shown
  obtain ⟨other, found', same⟩ := Option.map_eq_some_iff.mp shown.symm
  exact ⟨other, found', (congrArg Prod.snd same).trans content⟩

theorem Alike.hasNews (alike : first.Alike second) (follower : Follower) :
    first.hasNews follower = second.hasNews follower := by
  have news (store : SnapshotStore) : store.hasNews follower =
      ((store.channels.get? follower.group).map GroupChannel.shown).any
        fun shown => shown.2.1 != follower.seen := by
    unfold SnapshotStore.hasNews
    cases store.channels.get? follower.group <;> rfl
  rw [news, news, alike.channels]

theorem Alike.groups (alike : first.Alike second) : first.groups = second.groups :=
  SortedSet.ext_mem fun group => by rw [mem_groups, mem_groups, alike.isRegistered]

/-- Channels that are shown alike, as pairs. -/
theorem channel_cases {mine yours : Option GroupChannel}
    (shown : mine.map GroupChannel.shown = yours.map GroupChannel.shown) :
    mine = none ∧ yours = none ∨ ∃ one other, mine = some one ∧ yours = some other ∧
      one.latest.Alike other.latest ∧ one.followers = other.followers := by
  cases mine with
  | none => exact .inl ⟨rfl, Option.map_eq_none_iff.mp shown.symm⟩
  | some one =>
      obtain ⟨other, rfl, same⟩ := Option.map_eq_some_iff.mp shown.symm
      obtain ⟨values, rest⟩ := Prod.mk.inj same
      obtain ⟨revisions, followers⟩ := Prod.mk.inj rest
      exact .inr ⟨one, other, rfl, rfl, ⟨values.symm, revisions.symm⟩, followers.symm⟩

theorem shown_eq {one other : GroupChannel} (latest : one.latest.Alike other.latest)
    (followers : one.followers = other.followers) : one.shown = other.shown :=
  Prod.ext latest.1 (Prod.ext latest.2 followers)

theorem Alike.prune (alike : first.Alike second) : first.prune.Alike second.prune := by
  refine ⟨alike.groupAdded, fun group => ?_⟩
  rw [get?_prune, get?_prune]
  rcases channel_cases (alike.channels group) with
    ⟨mine, yours⟩ | ⟨one, other, mine, yours, latest, followers⟩
  · rw [mine, yours]
  · rw [mine, yours, Option.filter_some, Option.filter_some, followers]
    split
    · exact congrArg some (shown_eq latest followers)
    · rfl

theorem Alike.subscribe (alike : first.Alike second) (group : ConsumerGroup) :
    (first.subscribe group).2.Alike (second.subscribe group).2 := by
  constructor
  · have shown := alike.channels group
    unfold SnapshotStore.subscribe
    rcases channel_cases shown with ⟨mine, yours⟩ | ⟨one, other, mine, yours, -⟩
    · rw [mine, yours]
    · rw [mine, yours]
      exact alike.groupAdded
  · intro other
    rw [get?_subscribe, get?_subscribe]
    split
    case isFalse => exact alike.channels other
    case isTrue =>
      rcases channel_cases (alike.channels group) with
    ⟨mine, yours⟩ | ⟨one, other, mine, yours, latest, followers⟩
      · rw [mine, yours]
      · rw [mine, yours]
        exact congrArg some (shown_eq latest (congrArg (· + 1) followers))

theorem Alike.unsubscribe (alike : first.Alike second) (follower : Follower) :
    (first.unsubscribe follower).Alike (second.unsubscribe follower) := by
  refine ⟨alike.groupAdded, fun group => ?_⟩
  rw [get?_unsubscribe, get?_unsubscribe]
  split
  case isFalse => exact alike.channels group
  case isTrue =>
    rcases channel_cases (alike.channels group) with
    ⟨mine, yours⟩ | ⟨one, other, mine, yours, latest, followers⟩
    · rw [mine, yours]
    · rw [mine, yours]
      exact congrArg some (shown_eq latest (congrArg (· - 1) followers))

theorem Alike.publish (alike : first.Alike second) {mine yours : Snapshot}
    (group : mine.group = yours.group) (same : mine.shown = yours.shown)
    (dated : first.Dated mine.generation) (dated' : second.Dated yours.generation) :
    (first.publish mine).2.Alike (second.publish yours).2 := by
  constructor
  · rw [groupAdded_publish, groupAdded_publish, alike.groupAdded]
  · intro named
    rw [get?_publish, get?_publish, group]
    split
    case isFalse => exact alike.channels named
    case isTrue own =>
      subst own
      rcases channel_cases (alike.channels yours.group) with
        ⟨known, known'⟩ | ⟨one, other, known, known', latest, followers⟩
      · rw [known, known']
        rfl
      · rw [known, known']
        refine congrArg some (shown_eq (latest.receive same ?_ ?_) followers)
        · exact fun previous value => dated _ _ ((snapshot?_of_channel known).trans value)
        · exact fun previous value => dated' _ _ ((snapshot?_of_channel known').trans value)

theorem Alike.publish_idle (alike : first.Alike second) {snapshot : Snapshot}
    {target : ConsumerGroup → SnapshotContent} (holds : second.Holds target snapshot.group)
    (right : snapshot.content = target snapshot.group) (dated : second.Dated snapshot.generation) :
    first.Alike (second.publish snapshot).2 := by
  constructor
  · rw [groupAdded_publish, alike.groupAdded]
  · intro group
    rw [get?_publish, alike.channels]
    split
    case isFalse => rfl
    case isTrue own =>
      subst own
      obtain ⟨stored, found, content⟩ := holds
      obtain ⟨channel, known, value⟩ := Option.bind_eq_some_iff.mp found
      rw [known]
      refine congrArg some (shown_eq ?_ rfl)
      exact Watched.receive_idle value (dated _ _ found) (content.trans right.symm)

end SnapshotStore

/-- Two records of versions that show the same and go on in the same way. -/
structure SnapshotVersions.Alike (first second : SnapshotVersions) : Prop where
  issued : first.issued = second.issued
  shown : ∀ group, first.shown? group = second.shown? group

/-- One list of snapshots is another without some whose groups are not to be kept. -/
inductive Thins (keep : ConsumerGroup → Bool) : List Snapshot → List Snapshot → Prop
  | nil : Thins keep [] []
  | both {mine yours : Snapshot} {first second : List Snapshot} :
      mine.group = yours.group → mine.shown = yours.shown → Thins keep first second →
      Thins keep (mine :: first) (yours :: second)
  | idle {yours : Snapshot} {first second : List Snapshot} :
      keep yours.group = false → Thins keep first second → Thins keep first (yours :: second)

section Thinning

variable {keep : ConsumerGroup → Bool} {target : ConsumerGroup → SnapshotContent}
  {generation : Nat}

/-- Building can leave out the groups that show the wanted content. -/
theorem SnapshotBuilder.BuildsAll.thins {groups : List ConsumerGroup}
    {builder other after after' : SnapshotBuilder} {first second : List Snapshot}
    (thin : BuildsAll target generation builder (groups.filter keep) first after)
    (full : BuildsAll target generation other groups second after')
    (alike : builder.versions.Alike other.versions)
    (idle : ∀ group, keep group = false → ∃ versions,
      other.versions.shown? group = some (versions, target group)) :
    after.versions.Alike after'.versions ∧ Thins keep first second := by
  induction full generalizing builder first with
  | nil =>
      cases thin
      exact ⟨alike, .nil⟩
  | @cons other next after' group yours groups second builds _ ih =>
      have still (named : ConsumerGroup) (out : keep named = false) : ∃ versions,
          next.versions.shown? named = some (versions, target named) := by
        rw [builds.shown]
        split
        case isTrue same => exact ⟨yours.versions, by rw [same]⟩
        case isFalse => exact idle named out
      cases kept : keep group with
      | true =>
          rw [List.filter_cons_of_pos kept] at thin
          cases thin with
          | @cons _ middle _ _ mine _ first builds' later =>
              have versions : mine.versions = yours.versions := by
                rw [builds'.versions, builds.versions, alike.shown, alike.issued]
              have next : middle.versions.Alike next.versions := by
                refine ⟨?_, fun named => ?_⟩
                · rw [builds'.issued, builds.issued, alike.shown, alike.issued]
                · rw [builds'.shown, builds.shown, versions, alike.shown]
              obtain ⟨ends, thins⟩ := ih later next still
              refine ⟨ends, .both ?_ ?_ thins⟩
              · rw [builds'.own, builds.own]
              · rw [Snapshot.shown, Snapshot.shown, versions, builds'.made, builds.made]
      | false =>
          rw [List.filter_cons_of_neg (by simp [kept])] at thin
          obtain ⟨versions, right⟩ := idle group kept
          obtain ⟨-, issued, shown⟩ := builds.idle right
          have next : builder.versions.Alike next.versions :=
            ⟨by rw [issued, alike.issued], fun named => by rw [shown, alike.shown]⟩
          obtain ⟨ends, thins⟩ := ih thin next still
          exact ⟨ends, .idle (by rw [builds.own, kept]) thins⟩

/-- Publishing can leave out the snapshots of groups that hold the wanted content. -/
theorem SnapshotStore.Alike.publishAll {store other : SnapshotStore} {first second : List Snapshot}
    (thins : Thins keep first second) (alike : store.Alike other) (dated : store.Dated generation)
    (dated' : other.Dated generation)
    (mine : ∀ snapshot ∈ first, snapshot.generation = generation)
    (yours : ∀ snapshot ∈ second, snapshot.generation = generation ∧
      snapshot.content = target snapshot.group)
    (idle : ∀ group, keep group = false → other.Holds target group) :
    (store.publishAll first).2.Alike (other.publishAll second).2 := by
  induction thins generalizing store other with
  | nil => exact alike
  | @both one two first second group same thins ih =>
      obtain ⟨generated, right⟩ := yours two List.mem_cons_self
      have generated' := mine one List.mem_cons_self
      rw [← generated'] at dated
      rw [← generated] at dated'
      rw [publishAll_cons, publishAll_cons]
      refine ih (alike.publish group same dated dated') (generated' ▸ dated.publish)
        (generated ▸ dated'.publish) (fun later member => mine later (List.mem_cons_of_mem _ member))
        (fun later member => yours later (List.mem_cons_of_mem _ member)) fun named out => ?_
      exact (idle named out).publish dated' right
  | @idle two first second out thins ih =>
      obtain ⟨generated, right⟩ := yours two List.mem_cons_self
      rw [← generated] at dated'
      rw [publishAll_cons]
      refine ih (alike.publish_idle (idle two.group out) right dated') dated (generated ▸ dated'.publish) mine
        (fun later member => yours later (List.mem_cons_of_mem _ member)) fun named out => ?_
      exact (idle named out).publish dated' right

end Thinning

end ServiceMesh
