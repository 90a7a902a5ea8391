import Mathlib.Data.List.Induction
import ServiceMesh.Proofs.Snapshot.Thinning
import ServiceMesh.Proofs.Snapshot.Versions

/-! Snapshots that are delivered in any order, late, twice or never. Versions follow the order of
building, not that of delivering: two snapshots share a version of a kind exactly if the collection
stayed the same in all builds from one to the other, those that were never delivered included. -/
namespace ServiceMesh

/-- In each stretch of a history of builds, earliest first, the version at its ends is the same
exactly if the collection is the same all along. -/
def Consistent (history : List Snapshot) : Prop :=
  ∀ stretch, stretch <:+: history → ∀ first last, stretch.head? = some first →
    stretch.getLast? = some last → ∀ kind,
      first.versions.of kind = last.versions.of kind ↔
        ∀ snapshot ∈ stretch, first.content.Agrees snapshot.content kind

theorem consistent_nil : Consistent [] := by
  intro stretch within first last begins
  rw [List.infix_nil.mp within] at begins
  contradiction

/-- The next build of a group continues its history. -/
theorem Consistent.snoc {history : List Snapshot} {before after : SnapshotBuilder}
    {group : ConsumerGroup} {content : SnapshotContent} {generation : Nat} {snapshot : Snapshot}
    (consistent : Consistent history)
    (builds : before.Builds group content generation snapshot after)
    (latest : before.versions.shown? group = history.getLast?.map Snapshot.shown)
    (within : ∀ earlier ∈ history, earlier.versions.Within before.versions.issued) :
    Consistent (history ++ [snapshot]) := by
  intro stretch inside first last begins ends kind
  rcases List.infix_concat_iff.mp inside with suffix | earlier
  case inr => exact consistent stretch earlier first last begins ends kind
  rcases List.suffix_concat_iff.mp suffix with rfl | ⟨front, rfl, behind⟩
  · contradiction
  rw [List.getLast?_concat] at ends
  cases ends
  rcases List.eq_nil_or_concat front with rfl | ⟨init, previous, rfl⟩
  · cases begins
    simp [SnapshotContent.Agrees.refl]
  rw [List.concat_eq_append] at begins behind ⊢
  have starts : (init ++ [previous]).head? = some first := by
    rwa [List.head?_append_of_ne_nil _ (by simp)] at begins
  have member : first ∈ init ++ [previous] := List.mem_of_head? starts
  have steady := consistent (init ++ [previous]) behind.isInfix first previous starts
    List.getLast?_concat kind
  have shows : before.versions.shown? group = some previous.shown := by
    rw [latest]
    obtain ⟨start, rfl⟩ := behind
    rw [← List.append_assoc, List.getLast?_concat, Option.map_some]
  have own : ∀ other, other ∈ init ++ [previous] ++ [snapshot] ↔
      other ∈ init ++ [previous] ∨ other = snapshot := fun other => by
    rw [List.mem_append, List.mem_singleton]
  simp only [own, or_imp, forall_and, forall_eq, builds.made]
  rcases builds.version_cases kind with ⟨versions, old, known, agrees, kept⟩ | ⟨differs, n, fresh, -, named⟩
  · rw [shows] at known
    cases known
    rw [kept, steady]
    refine ⟨fun all => ⟨all, (all previous ?_).trans agrees⟩, fun all => all.1⟩
    exact List.mem_append_right _ List.mem_cons_self
  · rw [named]
    constructor
    · intro same
      exact absurd same ((within first (behind.subset member)).ne fresh kind)
    · rintro ⟨all, now⟩
      have same := all previous (List.mem_append_right _ List.mem_cons_self)
      exact absurd (same.symm.trans now) (differs _ _ shows)

/-- Two members of a list are the ends of a stretch of it. -/
theorem exists_stretch {α : Type} {l : List α} {a b : α} (one : a ∈ l) (two : b ∈ l) :
    ∃ stretch, stretch <:+: l ∧ (stretch.head? = some a ∧ stretch.getLast? = some b ∨
      stretch.head? = some b ∧ stretch.getLast? = some a) := by
  obtain ⟨front, back, rfl⟩ := List.append_of_mem one
  rcases List.mem_append.mp two with before | after
  · obtain ⟨start, middle, rfl⟩ := List.append_of_mem before
    exact ⟨b :: (middle ++ [a]), ⟨start, back, by simp⟩, .inr ⟨rfl, List.getLast?_concat (l := b :: middle)⟩⟩
  · rcases List.mem_cons.mp after with rfl | after
    · exact ⟨[b], ⟨front, back, by simp⟩, .inl ⟨rfl, rfl⟩⟩
    · obtain ⟨middle, rest, rfl⟩ := List.append_of_mem after
      exact ⟨a :: (middle ++ [b]), ⟨front, rest, by simp⟩, .inl ⟨rfl, List.getLast?_concat (l := a :: middle)⟩⟩

/-- Two builds of a history share a version exactly if the collection is the same in all builds
between them. -/
theorem Consistent.between {history : List Snapshot} (consistent : Consistent history)
    {a b : Snapshot} (one : a ∈ history) (two : b ∈ history) :
    ∃ stretch, stretch <:+: history ∧
      (stretch.head? = some a ∧ stretch.getLast? = some b ∨
        stretch.head? = some b ∧ stretch.getLast? = some a) ∧
      ∀ kind, a.versions.of kind = b.versions.of kind ↔
        ∀ snapshot ∈ stretch, a.content.Agrees snapshot.content kind := by
  obtain ⟨stretch, inside, ends⟩ := exists_stretch one two
  refine ⟨stretch, inside, ends, fun kind => ?_⟩
  rcases ends with ⟨first, last⟩ | ⟨first, last⟩
  · exact consistent stretch inside a b first last kind
  · rw [eq_comm, consistent stretch inside b a first last kind]
    have mine : a ∈ stretch := List.mem_of_getLast? last
    have yours : b ∈ stretch := List.mem_of_head? first
    constructor
    · intro all snapshot member
      exact (all a mine).symm.trans (all snapshot member)
    · intro all snapshot member
      exact (all b yours).symm.trans (all snapshot member)

theorem Watched.receive_shown {latest : Watched (Option Snapshot)} {snapshot new : Snapshot}
    (behind : (latest.receive snapshot).value = some new) :
    new.shown = snapshot.shown ∨
      ∃ previous, latest.value = some previous ∧ new.shown = previous.shown := by
  cases known : latest.value with
  | none =>
      rw [receive_first known] at behind
      cases behind
      exact .inl rfl
  | some previous =>
      by_cases older : snapshot.generation < previous.generation
      · rw [receive_stale known older, known] at behind
        cases behind
        exact .inr ⟨_, rfl, rfl⟩
      · by_cases same : previous.content = snapshot.content
        · rw [receive_same known (Nat.not_lt.mp older) same] at behind
          cases behind
          exact .inr ⟨previous, rfl, Prod.ext rfl same.symm⟩
        · rw [receive_other known (Nat.not_lt.mp older) same] at behind
          cases behind
          exact .inl rfl

/-- What is stored shows what was delivered, or what was stored before. -/
theorem SnapshotStore.publish_shown {store : SnapshotStore} {group : ConsumerGroup}
    {snapshot new : Snapshot} (behind : (store.publish snapshot).2.snapshot? group = some new) :
    snapshot.group = group ∧ new.shown = snapshot.shown ∨
      ∃ previous, store.snapshot? group = some previous ∧ new.shown = previous.shown := by
  by_cases own : snapshot.group = group
  · rw [snapshot?, get?_publish, if_pos own] at behind
    obtain ⟨channel, found, value⟩ := Option.bind_eq_some_iff.mp behind
    obtain ⟨before, known, rfl⟩ := Option.map_eq_some_iff.mp found
    rw [snapshot?_of_channel known]
    exact (Watched.receive_shown value).imp_left fun same => ⟨own, same⟩
  · rw [snapshot?_publish_other store own] at behind
    exact .inr ⟨new, behind, rfl⟩

/-- Of three snapshots the first is stored, the second comes too late, and the third takes over. -/
theorem SnapshotStore.snapshot?_publish_between {store : SnapshotStore} {group : ConsumerGroup}
    {first second third : Snapshot} (followed : store.isRegistered group = true)
    (empty : store.snapshot? group = none) (ownFirst : first.group = group)
    (ownSecond : second.group = group) (ownThird : third.group = group)
    (late : second.generation < first.generation) (later : first.generation ≤ third.generation)
    (differs : first.content ≠ third.content) :
    let kept := ((store.publish first).2.publish second).2
    kept.snapshot? group = some first ∧ (kept.publish third).2.snapshot? group = some third := by
  intro kept
  have held : (store.publish first).2.snapshot? group = some first := by
    rw [← ownFirst] at empty followed ⊢
    refine snapshot?_publish_fresh (fun previous same => ?_) followed fun previous same => ?_
    · exact absurd (empty.symm.trans same) nofun
    · exact absurd (empty.symm.trans same) nofun
  have still : kept.snapshot? group = some first := by
    rw [← ownSecond] at held ⊢
    exact snapshot?_publish_late held late
  have registered : kept.isRegistered group = true := by
    rw [isRegistered_publish, isRegistered_publish]
    exact followed
  refine ⟨still, ?_⟩
  rw [← ownThird] at still registered ⊢
  refine snapshot?_publish_fresh (fun previous same => ?_) registered fun previous same agrees => ?_
  · rw [← Option.some.inj (still.symm.trans same)]
    exact later
  · rw [← Option.some.inj (still.symm.trans same)] at agrees
    exact absurd agrees differs

/-! ### Deliveries -/

/-- What can happen to snapshots: one is built, by whatever generation, while others hold what they
hold; one of those that were built is delivered, by its place among them; and groups come and go. -/
inductive DeliveryEvent where
  | build (outside : Holdings) (group : ConsumerGroup) (global : GlobalSnapshot)
      (faults : List Fault) (generation : Nat)
  | deliver (n : Nat)
  | subscribe (group : ConsumerGroup)
  | unsubscribe (follower : Follower)
  | prune

/-- A builder, the snapshots it built so far, and the store that they are delivered to. -/
structure Deliveries where
  builder : SnapshotBuilder
  built : List Snapshot
  store : SnapshotStore

namespace Deliveries

def start (config : BuilderConfig) : Deliveries := ⟨.start config, [], .start⟩

def handle (deliveries : Deliveries) : DeliveryEvent → Deliveries
  | .build outside group global faults generation =>
      let (snapshot, builder) := deliveries.builder.build outside group global faults generation
      { deliveries with builder := builder, built := deliveries.built ++ [snapshot] }
  | .deliver n =>
      match deliveries.built[n]? with
      | some snapshot => { deliveries with store := (deliveries.store.publish snapshot).2 }
      | none => deliveries
  | .subscribe group => { deliveries with store := (deliveries.store.subscribe group).2 }
  | .unsubscribe follower => { deliveries with store := deliveries.store.unsubscribe follower }
  | .prune => { deliveries with store := deliveries.store.prune }

def run (config : BuilderConfig) (events : List DeliveryEvent) : Deliveries :=
  events.foldl handle (start config)

theorem run_snoc (config : BuilderConfig) (events : List DeliveryEvent) (event : DeliveryEvent) :
    run config (events ++ [event]) = (run config events).handle event := by
  simp only [run, List.foldl_append, List.foldl_cons, List.foldl_nil]

/-- The snapshots that were built for a group, earliest first. -/
def history (deliveries : Deliveries) (group : ConsumerGroup) : List Snapshot :=
  deliveries.built.filter (·.group = group)

/-- The versions of a builder follow the histories, and what is stored was built. -/
structure Sound (deliveries : Deliveries) : Prop where
  latest : ∀ group, deliveries.builder.versions.shown? group =
    (deliveries.history group).getLast?.map Snapshot.shown
  within : ∀ snapshot ∈ deliveries.built,
    snapshot.versions.Within deliveries.builder.versions.issued
  numbered : deliveries.builder.versions.Numbered
  consistent : ∀ group, Consistent (deliveries.history group)
  stored : ∀ group snapshot, deliveries.store.snapshot? group = some snapshot →
    ∃ source ∈ deliveries.history group, source.shown = snapshot.shown

variable {deliveries : Deliveries}

theorem sound_start (config : BuilderConfig) : (start config).Sound where
  latest _ := rfl
  within snapshot member := absurd member List.not_mem_nil
  numbered := SnapshotVersions.numbered_start
  consistent _ := consistent_nil
  stored group snapshot found := by contradiction

theorem Sound.build (sound : deliveries.Sound) (outside : Holdings) (group : ConsumerGroup)
    (global : GlobalSnapshot) (faults : List Fault) (generation : Nat) :
    (deliveries.handle (.build outside group global faults generation)).Sound := by
  have builds := SnapshotBuilder.build_builds deliveries.builder outside group global faults
    generation
  simp only [handle]
  generalize deliveries.builder.build outside group global faults generation = made at builds ⊢
  obtain ⟨snapshot, builder⟩ := made
  dsimp only at builds ⊢
  have history (other : ConsumerGroup) :
      history ⟨builder, deliveries.built ++ [snapshot], deliveries.store⟩ other =
        deliveries.history other ++ if group = other then [snapshot] else [] := by
    rw [Deliveries.history, List.filter_append, List.filter_singleton, builds.own]
    simp [Deliveries.history]
  refine ⟨fun other => ?_, fun later member => ?_, builds.numbered sound.numbered,
    fun other => ?_, fun other stored found => ?_⟩
  · rw [builds.shown, history]
    split
    case isTrue =>
      rw [List.getLast?_concat, Option.map_some, Snapshot.shown, builds.made]
    case isFalse =>
      rw [List.append_nil]
      exact sound.latest other
  · rcases List.mem_append.mp member with before | new
    · exact (sound.within later before).mono builds.issued_le
    · rw [List.mem_singleton.mp new]
      exact builds.within sound.numbered
  · rw [history]
    split
    case isTrue own =>
      rw [← own]
      exact (sound.consistent group).snoc builds (sound.latest group) fun earlier member =>
        sound.within earlier (List.mem_of_mem_filter member)
    case isFalse =>
      rw [List.append_nil]
      exact sound.consistent other
  · obtain ⟨source, member, same⟩ := sound.stored other stored found
    rw [history]
    exact ⟨source, List.mem_append_left _ member, same⟩

theorem Sound.deliver (sound : deliveries.Sound) (n : Nat) :
    (deliveries.handle (.deliver n)).Sound := by
  simp only [handle]
  split
  case h_2 => exact sound
  case h_1 snapshot found =>
    refine ⟨sound.latest, sound.within, sound.numbered, sound.consistent,
      fun group stored behind => ?_⟩
    rcases SnapshotStore.publish_shown behind with ⟨own, same⟩ | ⟨previous, before, same⟩
    · refine ⟨snapshot, List.mem_filter.mpr ⟨List.mem_of_getElem? found, ?_⟩, same.symm⟩
      exact decide_eq_true own
    · obtain ⟨source, member, shows⟩ := sound.stored group previous before
      exact ⟨source, member, shows.trans same.symm⟩

theorem Sound.handle (sound : deliveries.Sound) (event : DeliveryEvent) :
    (deliveries.handle event).Sound := by
  have kept {store : SnapshotStore} (older : ∀ group snapshot,
      store.snapshot? group = some snapshot → deliveries.store.snapshot? group = some snapshot) :
      Sound { deliveries with store := store } :=
    ⟨sound.latest, sound.within, sound.numbered, sound.consistent,
      fun group snapshot found => sound.stored group snapshot (older group snapshot found)⟩
  cases event with
  | build outside group global faults generation =>
      exact sound.build outside group global faults generation
  | deliver n => exact sound.deliver n
  | subscribe group =>
      refine kept fun other snapshot found => ?_
      rwa [SnapshotStore.snapshot?_subscribe] at found
  | unsubscribe follower =>
      refine kept fun other snapshot found => ?_
      rwa [SnapshotStore.snapshot?_unsubscribe] at found
  | prune => exact kept fun other snapshot found => SnapshotStore.snapshot?_of_prune found

theorem run_sound (config : BuilderConfig) (events : List DeliveryEvent) :
    (run config events).Sound := by
  induction events using List.reverseRecOn with
  | nil => exact sound_start config
  | append_singleton events event ih =>
      rw [run_snoc]
      exact ih.handle event

/-! ### A build that comes too late -/

section Steps

variable (builder : SnapshotBuilder) (built : List Snapshot) (store : SnapshotStore)

theorem handle_build (outside : Holdings) (group : ConsumerGroup) (global : GlobalSnapshot)
    (faults : List Fault) (generation : Nat) :
    handle ⟨builder, built, store⟩ (.build outside group global faults generation) =
      ⟨(builder.build outside group global faults generation).2,
        built ++ [(builder.build outside group global faults generation).1], store⟩ := by
  simp only [handle]

theorem handle_deliver (n : Nat) :
    handle ⟨builder, built, store⟩ (.deliver n) =
      ⟨builder, built, built[n]?.elim store fun snapshot => (store.publish snapshot).2⟩ := by
  rw [handle]
  dsimp only
  cases built[n]? <;> rfl

theorem handle_subscribe (group : ConsumerGroup) :
    handle ⟨builder, built, store⟩ (.subscribe group) =
      ⟨builder, built, (store.subscribe group).2⟩ := rfl

end Steps

/-- A service that a late build does not know yet: it is there, the build without it is of an earlier
generation than the one that is stored, and then it is there again, elsewhere. -/
def lateBuild (group : ConsumerGroup) (known moved : GlobalSnapshot) : List DeliveryEvent :=
  [.subscribe group, .build ∅ group known [] 2, .deliver 0, .build ∅ group ⟨∅, ∅⟩ [] 1,
    .deliver 1, .build ∅ group moved [] 3]

/-- The three builds, and what has become of them before the last is delivered. -/
theorem lateBuild_run (config : BuilderConfig) (group : ConsumerGroup)
    (known moved : GlobalSnapshot) :
    ∃ first second third : Snapshot × SnapshotBuilder,
      (SnapshotBuilder.start config).Builds group (config.content group known []) 2
        first.1 first.2 ∧
      first.2.Builds group (config.content group ⟨∅, ∅⟩ []) 1 second.1 second.2 ∧
      second.2.Builds group (config.content group moved []) 3 third.1 third.2 ∧
      run config (lateBuild group known moved) =
        ⟨third.2, [first.1, second.1, third.1],
          (((SnapshotStore.start.subscribe group).2.publish first.1).2.publish second.1).2⟩ := by
  have one := SnapshotBuilder.build_builds (SnapshotBuilder.start config) ∅ group known [] 2
  generalize isFirst : (SnapshotBuilder.start config).build ∅ group known [] 2 = first at one
  have two := SnapshotBuilder.build_builds first.2 ∅ group ⟨∅, ∅⟩ [] 1
  generalize isSecond : first.2.build ∅ group ⟨∅, ∅⟩ [] 1 = second at two
  have three := SnapshotBuilder.build_builds second.2 ∅ group moved [] 3
  generalize isThird : second.2.build ∅ group moved [] 3 = third at three
  rw [two.config, one.config] at three
  rw [one.config] at two
  refine ⟨first, second, third, one, two, three, ?_⟩
  simp only [run, start, lateBuild, List.foldl_cons, List.foldl_nil, handle_subscribe,
    handle_build, handle_deliver, isFirst, isSecond, isThird, List.nil_append, List.cons_append,
    List.getElem?_cons_zero, List.getElem?_cons_succ, Option.elim_some]

/-- A build that is never stored takes the versions away from all collections that it lacks. -/
theorem lateBuild_versions (config : BuilderConfig) (group : ConsumerGroup)
    (known moved : GlobalSnapshot)
    (other : config.content group known [] ≠ config.content group moved []) :
    ∃ old new, (run config (lateBuild group known moved)).store.snapshot? group = some old ∧
      (run config (lateBuild group known moved ++ [.deliver 2])).store.snapshot? group = some new ∧
      old.content = config.content group known [] ∧ new.content = config.content group moved [] ∧
      ∀ kind, old.versions.of kind = new.versions.of kind ↔
        old.content.Agrees (config.content group ⟨∅, ∅⟩ []) kind ∧
          old.content.Agrees new.content kind := by
  obtain ⟨first, second, third, one, two, three, ran⟩ := lateBuild_run config group known moved
  have sound := run_sound config (lateBuild group known moved)
  rw [run_snoc, ran, handle_deliver]
  rw [ran] at sound
  have differs : first.1.content ≠ third.1.content := by
    rw [one.made, three.made]
    exact other
  obtain ⟨kept, behind⟩ := SnapshotStore.snapshot?_publish_between
    ((SnapshotStore.isRegistered_subscribe .start group group).mpr (.inl rfl))
    (SnapshotStore.snapshot?_subscribe .start group group) one.own two.own three.own
    (by rw [one.dated, two.dated]; decide) (by rw [one.dated, three.dated]; decide) differs
  have consistent := sound.consistent group
  rw [history, List.filter_eq_self.mpr (by simp [one.own, two.own, three.own])] at consistent
  refine ⟨first.1, third.1, kept, behind, one.made, three.made, fun kind => ?_⟩
  rw [consistent _ (List.infix_refl _) first.1 third.1 rfl rfl kind]
  simp [two.made, SnapshotContent.Agrees.refl]

/-! ### Versions and collections -/

/-- The ends of a stretch of builds show what two snapshots show. -/
def Spans (stretch : List Snapshot) (first last : Snapshot) : Prop :=
  stretch.head?.map Snapshot.shown = some first.shown ∧
    stretch.getLast?.map Snapshot.shown = some last.shown

/-- Where a delivery puts one snapshot in the place of another, their versions of a kind differ if the
collections differ, and they are the same exactly if the collection is the same in all builds of the
group between the two that are shown, whichever was built first. -/
theorem versions_follow_builds (config : BuilderConfig) (events : List DeliveryEvent) (n : Nat)
    {group : ConsumerGroup} {old new : Snapshot}
    (held : (run config events).store.snapshot? group = some old)
    (behind : (run config (events ++ [.deliver n])).store.snapshot? group = some new) :
    (∀ kind, ¬ old.content.Agrees new.content kind →
      old.versions.of kind ≠ new.versions.of kind) ∧
    ∃ stretch, stretch <:+: (run config events).history group ∧
      (Spans stretch old new ∨ Spans stretch new old) ∧
      ∀ kind, old.versions.of kind = new.versions.of kind ↔
        ∀ snapshot ∈ stretch, old.content.Agrees snapshot.content kind := by
  have sound := run_sound config events
  have later := (run_sound config (events ++ [.deliver n])).stored group new behind
  have unbuilt : (run config (events ++ [.deliver n])).history group =
      (run config events).history group := by
    rw [run_snoc, handle]
    split <;> rfl
  rw [unbuilt] at later
  obtain ⟨mine, one, showsOld⟩ := sound.stored group old held
  obtain ⟨yours, two, showsNew⟩ := later
  obtain ⟨stretch, inside, ends, agrees⟩ := (sound.consistent group).between one two
  have spans : Spans stretch old new ∨ Spans stretch new old := by
    rw [Spans, Spans, ← showsOld, ← showsNew]
    rcases ends with ⟨first, last⟩ | ⟨first, last⟩
    · exact .inl ⟨by rw [first, Option.map_some], by rw [last, Option.map_some]⟩
    · exact .inr ⟨by rw [first, Option.map_some], by rw [last, Option.map_some]⟩
  have member : yours ∈ stretch := by
    rcases ends with ⟨-, last⟩ | ⟨first, -⟩
    · exact List.mem_of_getLast? last
    · exact List.mem_of_head? first
  obtain ⟨versions, content⟩ := Prod.mk.inj showsOld
  obtain ⟨versions', content'⟩ := Prod.mk.inj showsNew
  rw [← versions, ← versions', ← content, ← content']
  refine ⟨fun kind differs same => ?_, stretch, inside, spans, agrees⟩
  exact differs ((agrees kind).mp same yours member)

/-- The endpoints differ in what is stored before and behind the last delivery, and so do their
versions. -/
theorem versions_follow_builds_late :
    let config : BuilderConfig := ⟨.zero, none, [], false⟩
    let web : ConsumerGroup := ⟨"web", .global, .all⟩
    let api (localities : List LocalityEndpoints) : GlobalSnapshot :=
      ⟨SortedMap.ofList [("api", ⟨"api", 0, false⟩)],
        SortedMap.ofList [("api", ⟨"api", localities⟩)]⟩
    let events := lateBuild web (api []) (api [⟨"home", 0, []⟩])
    ∃ old new, (run config events).store.snapshot? web = some old ∧
      (run config (events ++ [.deliver 2])).store.snapshot? web = some new ∧
      old.versions.of .endpoints ≠ new.versions.of .endpoints := by
  intro config web api events
  have differs : (config.content web (api []) []).endpoints ≠
      (config.content web (api [⟨"home", 0, []⟩]) []).endpoints := by decide
  obtain ⟨old, new, held, behind, before, after, -⟩ := lateBuild_versions config web (api [])
    (api [⟨"home", 0, []⟩]) fun same => differs (congrArg SnapshotContent.endpoints same)
  obtain ⟨follow, -⟩ := versions_follow_builds config events 2 held behind
  refine ⟨old, new, held, behind, follow .endpoints ?_⟩
  rw [before, after]
  exact differs

/-- The routes are the same in what is stored before and behind the last delivery, and their version
is not. -/
theorem versions_change_alone :
    let config : BuilderConfig := ⟨.zero, none, [], false⟩
    let web : ConsumerGroup := ⟨"web", .global, .all⟩
    let api (localities : List LocalityEndpoints) : GlobalSnapshot :=
      ⟨SortedMap.ofList [("api", ⟨"api", 0, false⟩)],
        SortedMap.ofList [("api", ⟨"api", localities⟩)]⟩
    let events := lateBuild web (api []) (api [⟨"home", 0, []⟩])
    ∃ old new, (run config events).store.snapshot? web = some old ∧
      (run config (events ++ [.deliver 2])).store.snapshot? web = some new ∧
      old.content.Agrees new.content .routes ∧ old.versions.of .routes ≠ new.versions.of .routes := by
  intro config web api events
  have other : config.content web (api []) [] ≠ config.content web (api [⟨"home", 0, []⟩]) [] := by
    decide
  obtain ⟨old, new, held, behind, before, after, versions⟩ :=
    lateBuild_versions config web (api []) (api [⟨"home", 0, []⟩]) other
  refine ⟨old, new, held, behind, ?_, fun same => ?_⟩
  · rw [before, after]
    rfl
  · have gone := ((versions .routes).mp same).1
    rw [before] at gone
    revert gone
    show ¬ (config.content web (api []) []).routes = (config.content web ⟨∅, ∅⟩ []).routes
    decide

end Deliveries

end ServiceMesh
