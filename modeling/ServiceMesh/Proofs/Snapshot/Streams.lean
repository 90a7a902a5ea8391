import ServiceMesh.Proofs.Snapshot.PublicationOrder

/-! Streams of snapshots. Who asks a stream after each event of a run is given the snapshot that the group has at
first, and then one each time that its content becomes another one: the generations never fall, no content
comes twice in a row, and the last one has the content that the group has at the end. -/
namespace ServiceMesh.SnapshotStore

variable {store : SnapshotStore} {group : ConsumerGroup} {stream : SnapshotStream} {event : StoreEvent}
  {events : List StoreEvent}

/-! ### Asking a stream -/

theorem look_eq (store : SnapshotStore) (follower : Follower) : (store.look follower).1 =
    store.snapshot? follower.group ∧ (store.look follower).2.group = follower.group := by
  unfold look snapshot?
  cases store.channels.get? follower.group <;> exact ⟨rfl, rfl⟩

/-- Who has looked has seen all there is. -/
theorem hasNews_look (store : SnapshotStore) (follower : Follower) :
    store.hasNews (store.look follower).2 = false := by
  unfold look
  cases found : store.channels.get? follower.group with
  | none => simp [hasNews, found]
  | some channel => simp [hasNews, found, Watched.isNewsSince]

/-- There is nothing that the stream could come up with. -/
structure Drained (store : SnapshotStore) (stream : SnapshotStream) : Prop where
  stale : stream.fresh = false
  seen : store.hasNews stream.follower = false

theorem Drained.next_eq (drained : store.Drained stream) : store.next stream = (none, stream) := by
  simp [next, drained.stale, drained.seen]

theorem next_of_ready (ready : stream.fresh = true ∨ store.hasNews stream.follower = true) :
    (store.next stream).1 = store.snapshot? stream.follower.group := by
  rw [next, if_pos (by simpa using ready)]
  exact (store.look_eq stream.follower).1

/-- Whatever a stream has come up with, it has nothing else then. -/
theorem next_drains (store : SnapshotStore) (stream : SnapshotStream) :
    store.Drained (store.next stream).2 ∧
      (store.next stream).2.follower.group = stream.follower.group := by
  unfold next
  split
  case isTrue =>
    exact ⟨⟨rfl, store.hasNews_look stream.follower⟩, (store.look_eq stream.follower).2⟩
  case isFalse idle =>
    obtain ⟨stale, seen⟩ : stream.fresh = false ∧ store.hasNews stream.follower = false := by
      simpa using idle
    exact ⟨⟨stale, seen⟩, rfl⟩

/-! ### Along a run -/

/-- What a stream comes up with when it is asked at first and after each event. -/
def streamed (store : SnapshotStore) (stream : SnapshotStream) : List StoreEvent → List Snapshot
  | [] => (store.next stream).1.toList
  | event :: rest =>
      (store.next stream).1.toList ++ (store.handle event).streamed (store.next stream).2 rest

/-- To ask twice is of no use. -/
theorem streamed_eq (store : SnapshotStore) (stream : SnapshotStream) (events : List StoreEvent) :
    store.streamed stream events =
      (store.next stream).1.toList ++ store.streamed (store.next stream).2 events := by
  have idle := (store.next_drains stream).1.next_eq
  cases events with
  | nil => rw [streamed, streamed, idle, Option.toList_none, List.append_nil]
  | cons event rest => rw [streamed, streamed, idle, Option.toList_none, List.nil_append]

/-- The other snapshot is no older and has another content. -/
structure Succeeds (snapshot other : Snapshot) : Prop where
  ordered : snapshot.generation ≤ other.generation
  changed : snapshot.content ≠ other.content

/-- An event that leaves a group registered does not make its content another one without a delivery. -/
theorem content?_handle_of_quiet (registered : store.isRegistered group = true)
    (kept : (store.handle event).isRegistered group = true) (quiet : event.delivery? group = none) :
    (store.handle event).content? group = store.content? group := by
  obtain ⟨before, found⟩ := isRegistered_iff.mp registered
  obtain ⟨after, next⟩ := isRegistered_iff.mp kept
  have latest := handle_latest event found next
  rw [quiet, Option.toList_none, List.foldl_nil] at latest
  rw [content?, content?, snapshot?_of_channel found, snapshot?_of_channel next, latest]

/-- A stream that was drained before an event comes up with the stored snapshot if the content is another one,
and with nothing else. -/
theorem next_handle (registered : store.isRegistered stream.follower.group = true)
    (kept : (store.handle event).isRegistered stream.follower.group = true)
    (drained : store.Drained stream) : ((store.handle event).next stream).1 =
      if store.content? stream.follower.group = (store.handle event).content? stream.follower.group then
        none
      else (store.handle event).snapshot? stream.follower.group := by
  have news := handle_hasNews registered kept drained.seen
  split
  case isTrue same =>
    have seen : (store.handle event).hasNews stream.follower = false := by
      rw [← Bool.not_eq_true, news]
      exact fun both => both.2 same
    rw [Drained.next_eq ⟨drained.stale, seen⟩]
  case isFalse changed =>
    have delivered : (event.delivery? stream.follower.group).isSome = true := by
      by_contra quiet
      rw [Option.not_isSome_iff_eq_none] at quiet
      exact changed (content?_handle_of_quiet registered kept quiet).symm
    exact next_of_ready (.inr (news.mpr ⟨delivered, changed⟩))

/-- Snapshots that succeed each other, the last of them with the content at hand. -/
structure Shows (shown : List Snapshot) (content : Option SnapshotContent) : Prop where
  chain : shown.IsChain Succeeds
  last : shown.getLast?.map Snapshot.content = content

/-- The first snapshot may stand for a later one of the same content, which is how an update that changes
nothing is stored. -/
theorem Shows.of_same {before after : Option Snapshot} {tail : List Snapshot}
    {content : Option SnapshotContent} (shows : Shows (after.toList ++ tail) content)
    (same : before.map Snapshot.content = after.map Snapshot.content)
    (order : ∀ old ∈ before, ∀ new ∈ after, old.generation ≤ new.generation) :
    Shows (before.toList ++ tail) content := by
  cases before with
  | none =>
      rw [Option.map_none, eq_comm, Option.map_eq_none_iff] at same
      rwa [same] at shows
  | some old =>
      obtain ⟨new, rfl, content⟩ := Option.map_eq_some_iff.mp same.symm
      obtain ⟨chain, last⟩ := shows
      have earlier := order old rfl new rfl
      cases tail with
      | nil => exact ⟨.singleton old, by simpa [← content] using last⟩
      | cons next tail =>
          obtain ⟨first, further⟩ := List.isChain_cons_cons.mp chain
          refine ⟨List.isChain_cons_cons.mpr ⟨⟨?_, ?_⟩, further⟩, ?_⟩
          · exact earlier.trans first.ordered
          · exact content ▸ first.changed
          · simpa using last

theorem Shows.cons {before : Option Snapshot} {new : Snapshot} {tail : List Snapshot}
    {content : Option SnapshotContent} (shows : Shows (new :: tail) content)
    (succeeds : ∀ old ∈ before, Succeeds old new) : Shows (before.toList ++ new :: tail) content := by
  cases before with
  | none => exact shows
  | some old =>
      refine ⟨List.isChain_cons_cons.mpr ⟨succeeds old rfl, shows.chain⟩, ?_⟩
      simpa using shows.last

theorem streamed_drained (stays : StaysRegistered group store events)
    (own : stream.follower.group = group) (drained : store.Drained stream) :
    Shows ((store.snapshot? group).toList ++ store.streamed stream events)
      ((store.run events).content? group) := by
  induction events generalizing store stream with
  | nil =>
      rw [streamed, drained.next_eq, Option.toList_none, List.append_nil]
      show Shows _ (store.content? group)
      rw [content?]
      cases store.snapshot? group with
      | none => exact ⟨.nil, rfl⟩
      | some stored => exact ⟨.singleton stored, rfl⟩
  | cons event rest ih =>
      subst own
      obtain ⟨idle, same⟩ := (store.handle event).next_drains stream
      have further := ih stays.2 same idle
      have alone : StaysRegistered stream.follower.group store [event] := ⟨stays.1, stays.2.start⟩
      have newer {old : Snapshot} (had : store.snapshot? stream.follower.group = some old) :=
        run_generation_le alone had
      rw [streamed, drained.next_eq, Option.toList_none, List.nil_append, streamed_eq,
        next_handle stays.1 stays.2.start drained]
      split
      case isTrue unchanged =>
        refine further.of_same unchanged fun old had new stored => ?_
        obtain ⟨_, kept, order⟩ := newer had
        cases kept.symm.trans stored
        exact order
      case isFalse changed =>
        cases stored : (store.handle event).snapshot? stream.follower.group with
        | none =>
            refine absurd ?_ changed
            cases had : store.snapshot? stream.follower.group with
            | none => rw [content?, content?, had, stored]
            | some old =>
                obtain ⟨_, kept, -⟩ := newer had
                cases kept.symm.trans stored
        | some new =>
            rw [stored] at further
            refine further.cons fun old had => ?_
            obtain ⟨_, kept, order⟩ := newer had
            cases kept.symm.trans stored
            refine ⟨order, fun alike => changed ?_⟩
            rw [content?, content?, had, stored, Option.map_some, Option.map_some, alike]

/-- Over any run that leaves a group registered, a stream of the group comes up with snapshots that succeed each
other, and the last of them has the content that the group has at the end. -/
theorem streamed_watch (stays : StaysRegistered group (store.watch group).2 events) :
    Shows ((store.watch group).2.streamed (store.watch group).1 events)
      (((store.watch group).2.run events).content? group) := by
  have own : (store.watch group).1.follower.group = group := by
    simp only [watch, subscribe]
    split <;> rfl
  have first : ((store.watch group).2.next (store.watch group).1).1 = _ := next_of_ready (.inl rfl)
  obtain ⟨drained, same⟩ := (store.watch group).2.next_drains (store.watch group).1
  rw [own] at first same
  rw [streamed_eq, first]
  exact streamed_drained stays same drained

end ServiceMesh.SnapshotStore
