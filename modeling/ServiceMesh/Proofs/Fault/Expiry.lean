import Mathlib.Algebra.GroupWithZero.Nat
import Mathlib.Data.List.Induction
import ServiceMesh.Fault.Store
import ServiceMesh.Proofs.SortedMap

/-! A service of faults over time. What it lists is told by the history alone: each fault that was
submitted, and neither replaced nor deleted since, until its duration has passed. That listing drops
the faults that have ended shows in no later answer. -/
namespace ServiceMesh

/-- What can happen to faults: one is submitted, an id is deleted, those in force are listed, or time
passes. -/
inductive FaultEvent where
  | submit (fault : Fault)
  | delete (id : String)
  | list
  | wait (nanos : Nat)
deriving DecidableEq

namespace FaultEvent

/-- Holds for the submissions and deletions of an id. -/
def concerns (id : String) : FaultEvent → Prop
  | .submit fault => fault.id = id
  | .delete other => other = id
  | .list | .wait _ => False

def isChange : FaultEvent → Bool
  | .submit _ | .delete _ => true
  | .list | .wait _ => false

def elapsed : FaultEvent → Nat
  | .wait nanos => nanos
  | _ => 0

/-- The time behind some events. -/
def clock (events : List FaultEvent) : Time := (events.map elapsed).sum

theorem clock_snoc (events : List FaultEvent) (event : FaultEvent) :
    clock (events ++ [event]) = clock events + event.elapsed := by
  simp [clock]

/-- An entry comes from the last submission of its id, and the id was not deleted since. -/
def Stands (events : List FaultEvent) (entry : TimedFault) : Prop :=
  ∃ earlier fault later, events = earlier ++ .submit fault :: later ∧
    (∀ event ∈ later, ¬ event.concerns fault.id) ∧ entry = .submitted (clock earlier) fault

variable {events : List FaultEvent} {event : FaultEvent} {entry : TimedFault}

theorem stands_snoc : Stands (events ++ [event]) entry ↔
    (∃ fault, event = .submit fault ∧ entry = .submitted (clock events) fault) ∨
      ¬ event.concerns entry.fault.id ∧ Stands events entry := by
  constructor
  · rintro ⟨earlier, fault, later, split, spared, rfl⟩
    rcases List.eq_nil_or_concat later with rfl | ⟨between, last, rfl⟩
    · obtain ⟨rfl, same⟩ := List.append_inj' split rfl
      exact .inl ⟨fault, List.singleton_inj.mp same, rfl⟩
    · rw [List.concat_eq_append, ← List.cons_append, ← List.append_assoc] at split
      obtain ⟨rfl, same⟩ := List.append_inj' split rfl
      obtain rfl := List.singleton_inj.mp same
      exact .inr ⟨spared _ (by simp), earlier, fault, between, rfl,
        fun other member => spared other (by simp [member]), rfl⟩
  · rintro (⟨fault, rfl, rfl⟩ | ⟨spared, earlier, fault, later, rfl, others, rfl⟩)
    · exact ⟨events, fault, [], rfl, fun _ member => absurd member List.not_mem_nil, rfl⟩
    · refine ⟨earlier, fault, later ++ [event], by simp, fun other member => ?_, rfl⟩
      rcases List.mem_append.mp member with before | last
      · exact others other before
      · exact List.mem_singleton.mp last ▸ spared

theorem not_stands_nil : ¬ Stands [] entry := by
  rintro ⟨earlier, fault, later, split, -⟩
  simp at split

/-- Lists leave no trace in what stands, nor do they take time. -/
theorem without_lists (events : List FaultEvent) :
    clock (events.filter (· ≠ .list)) = clock events ∧
      ∀ entry, Stands (events.filter (· ≠ .list)) entry ↔ Stands events entry := by
  induction events using List.reverseRecOn with
  | nil => exact ⟨rfl, fun _ => Iff.rfl⟩
  | append_singleton events event ih =>
      obtain ⟨time, same⟩ := ih
      rw [List.filter_append, clock_snoc]
      by_cases isList : event = .list
      · subst isList
        refine ⟨by simpa [elapsed] using time, fun entry => ?_⟩
        rw [stands_snoc]
        simpa [concerns] using same entry
      · have kept : [event].filter (· ≠ .list) = [event] := by simpa using isList
        rw [kept, clock_snoc, time]
        refine ⟨rfl, fun entry => ?_⟩
        rw [stands_snoc, stands_snoc, time, same]

end FaultEvent

open FaultEvent (clock Stands)

namespace TimedFault

theorem isLive_submitted {now since : Time} {fault : Fault} :
    (submitted since fault).isLive now = true ↔
      now < since + fault.duration.nanos ∨ clockLimit ≤ since + fault.duration.nanos := by
  unfold submitted isLive
  dsimp only
  by_cases ends : since + fault.duration.nanos < clockLimit
  · simp [ends, Nat.not_le.mpr ends]
  · simp [ends, Nat.not_lt.mp ends]

/-- What has ended stays ended. -/
theorem isLive_earlier {entry : TimedFault} {now later : Time} (order : now ≤ later)
    (live : entry.isLive later = true) : entry.isLive now = true := by
  unfold isLive at *
  cases ends : entry.expiresAt with
  | none => rfl
  | some time =>
      rw [ends] at live
      exact decide_eq_true (Nat.lt_of_le_of_lt order (of_decide_eq_true live))

end TimedFault

/-- What is dropped would not have been listed again. -/
theorem FaultStore.live_purge (store : FaultStore) {now later : Time} (order : now ≤ later) :
    (store.purge now).live later = store.live later := by
  have same : (store.purge now).purge later = store.purge later := by
    have stays (entry : TimedFault) :
        (entry.isLive now && entry.isLive later) = entry.isLive later :=
      Bool.and_eq_right_iff_imp.mpr (TimedFault.isLive_earlier order)
    refine congrArg FaultStore.mk (SortedMap.ext_get? fun id => ?_)
    simp only [FaultStore.purge, SortedMap.get?_filter, Option.filter_filter, stays]
  rw [live, live, same]

/-- A service of faults and the time that its clock shows. -/
structure FaultSession where
  faults : FaultService
  now : Time

namespace FaultSession

def start : FaultSession := ⟨.start, 0⟩

def perform (session : FaultSession) : FaultEvent → Except FaultStoreError FaultSession
  | .submit fault => (session.faults.submit session.now fault).map ({ session with faults := · })
  | .delete id => (session.faults.delete id).map ({ session with faults := · })
  | .list => (session.faults.list session.now).map fun answer => { session with faults := answer.2 }
  | .wait nanos => .ok { session with now := session.now + nanos }

def run (events : List FaultEvent) : Except FaultStoreError FaultSession :=
  events.foldlM perform start

theorem run_snoc {events : List FaultEvent} {session : FaultSession} (ran : run events = .ok session)
    (event : FaultEvent) : run (events ++ [event]) = session.perform event := by
  unfold run at ran ⊢
  rw [List.foldlM_append, ran]
  exact bind_pure (session.perform event)

/-- What a session holds is what its history says, as far as it is in force still. -/
structure Tells (events : List FaultEvent) (session : FaultSession) : Prop where
  reachable : session.faults.outage = none
  now_eq : session.now = clock events
  revision_eq : session.faults.revision = events.countP FaultEvent.isChange
  found_iff : ∀ id entry, entry.isLive session.now = true →
    (session.faults.store.byId.get? id = some entry ↔ entry.fault.id = id ∧ Stands events entry)

variable {events others : List FaultEvent} {session other : FaultSession}

theorem Tells.start : Tells [] start :=
  ⟨rfl, rfl, rfl, fun _ _ _ => ⟨fun found => by contradiction,
    fun ⟨_, stands⟩ => absurd stands FaultEvent.not_stands_nil⟩⟩

theorem Tells.list_eq (tells : Tells events session) :
    session.faults.list session.now = .ok (session.faults.store.live session.now,
      { session.faults with store := session.faults.store.purge session.now }) := by
  simp only [FaultService.list, tells.reachable]

theorem Tells.submit (tells : Tells events session) (fault : Fault) :
    ∃ next, session.perform (.submit fault) = .ok next ∧ Tells (events ++ [.submit fault]) next := by
  have performed : session.perform (.submit fault) = .ok { session with faults :=
      { session.faults with
        store := session.faults.store.save session.now fault
        revision := session.faults.revision + 1 } } := by
    simp only [perform, FaultService.submit, tells.reachable, Except.map]
  obtain ⟨reachable, now_eq, revision_eq, found_iff⟩ := tells
  refine ⟨_, performed, reachable, ?_, ?_, ?_⟩
  · simpa [FaultEvent.clock_snoc, FaultEvent.elapsed] using now_eq
  · simpa [FaultEvent.isChange] using revision_eq
  · intro id entry live
    rw [FaultStore.save, SortedMap.get?_insert, FaultEvent.stands_snoc]
    by_cases same : fault.id = id
    · subst same
      simp only [if_true, Option.some.injEq, now_eq, FaultEvent.submit.injEq, exists_eq_left',
        FaultEvent.concerns]
      constructor
      · rintro rfl
        exact ⟨rfl, .inl rfl⟩
      · rintro ⟨named, rfl | ⟨unnamed, -⟩⟩
        · rfl
        · exact absurd named.symm unnamed
    · rw [if_neg same, found_iff id entry live]
      refine and_congr_right fun named => ⟨fun stands => .inr ⟨?_, stands⟩, ?_⟩
      · exact fun concerned => same (named ▸ concerned)
      · rintro (⟨_, submitted, rfl⟩ | ⟨-, stands⟩)
        · cases submitted
          exact absurd named same
        · exact stands

theorem Tells.delete (tells : Tells events session) (id : String) :
    ∃ next, session.perform (.delete id) = .ok next ∧ Tells (events ++ [.delete id]) next := by
  have performed : session.perform (.delete id) = .ok { session with faults :=
      { session.faults with
        store := session.faults.store.delete id
        revision := session.faults.revision + 1 } } := by
    simp only [perform, FaultService.delete, tells.reachable, Except.map]
  obtain ⟨reachable, now_eq, revision_eq, found_iff⟩ := tells
  refine ⟨_, performed, reachable, ?_, ?_, ?_⟩
  · simpa [FaultEvent.clock_snoc, FaultEvent.elapsed] using now_eq
  · simpa [FaultEvent.isChange] using revision_eq
  · intro key entry live
    rw [FaultStore.delete, SortedMap.get?_erase, FaultEvent.stands_snoc]
    by_cases same : id = key
    · subst same
      simp +contextual [FaultEvent.concerns, eq_comm]
    · rw [if_neg same, found_iff key entry live]
      refine and_congr_right fun named => ?_
      simp [FaultEvent.concerns, named, same]

theorem Tells.list (tells : Tells events session) :
    ∃ next, session.perform .list = .ok next ∧ Tells (events ++ [.list]) next := by
  have performed : session.perform .list = .ok { session with faults :=
      { session.faults with store := session.faults.store.purge session.now } } := by
    rw [perform, tells.list_eq]
    rfl
  obtain ⟨reachable, now_eq, revision_eq, found_iff⟩ := tells
  refine ⟨_, performed, reachable, ?_, ?_, ?_⟩
  · simpa [FaultEvent.clock_snoc, FaultEvent.elapsed] using now_eq
  · simpa [FaultEvent.isChange] using revision_eq
  · intro id entry live
    rw [FaultStore.purge, SortedMap.get?_filter, Option.filter_eq_some_iff, FaultEvent.stands_snoc]
    simpa [FaultEvent.concerns, live] using found_iff id entry live

theorem Tells.wait (tells : Tells events session) (nanos : Nat) :
    ∃ next, session.perform (.wait nanos) = .ok next ∧ Tells (events ++ [.wait nanos]) next := by
  obtain ⟨reachable, now_eq, revision_eq, found_iff⟩ := tells
  refine ⟨_, rfl, reachable, ?_, ?_, ?_⟩
  · simp [FaultEvent.clock_snoc, FaultEvent.elapsed, now_eq]
  · simpa [FaultEvent.isChange] using revision_eq
  · intro id entry live
    rw [FaultEvent.stands_snoc]
    have before := TimedFault.isLive_earlier (Nat.le_add_right session.now nanos) live
    simpa [FaultEvent.concerns] using found_iff id entry before

theorem Tells.perform (tells : Tells events session) (event : FaultEvent) :
    ∃ next, session.perform event = .ok next ∧ Tells (events ++ [event]) next := by
  cases event with
  | submit fault => exact tells.submit fault
  | delete id => exact tells.delete id
  | list => exact tells.list
  | wait nanos => exact tells.wait nanos

theorem run_tells (events : List FaultEvent) :
    ∃ session, run events = .ok session ∧ Tells events session := by
  induction events using List.reverseRecOn with
  | nil => exact ⟨start, rfl, .start⟩
  | append_singleton events event ih =>
      obtain ⟨session, ran, tells⟩ := ih
      obtain ⟨next, performed, told⟩ := tells.perform event
      exact ⟨next, (run_snoc ran event).trans performed, told⟩

/-! ### What is listed -/

/-- What is left behind a list is what stands and is in force. -/
theorem Tells.get?_purge (tells : Tells events session) {id : String} {entry : TimedFault} :
    (session.faults.store.purge session.now).byId.get? id = some entry ↔
      entry.isLive session.now = true ∧ entry.fault.id = id ∧ Stands events entry := by
  rw [FaultStore.purge, SortedMap.get?_filter, Option.filter_eq_some_iff, and_comm]
  exact and_congr_right fun live => tells.found_iff id entry live

theorem Tells.mem_live (tells : Tells events session) {fault : Fault} :
    fault ∈ session.faults.store.live session.now ↔
      ∃ entry, entry.isLive session.now = true ∧ Stands events entry ∧ entry.fault = fault := by
  simp only [FaultStore.live, List.mem_map, SortedMap.mem_values, tells.get?_purge]
  constructor
  · rintro ⟨entry, ⟨id, live, -, stands⟩, named⟩
    exact ⟨entry, live, stands, named⟩
  · rintro ⟨entry, live, stands, named⟩
    exact ⟨entry, ⟨_, live, rfl, stands⟩, named⟩

theorem Tells.live_ids (tells : Tells events session) :
    (session.faults.store.live session.now).map Fault.id =
      (session.faults.store.purge session.now).byId.keys := by
  rw [FaultStore.live, SortedMap.values, SortedMap.keys, List.map_map, List.map_map]
  refine List.map_congr_left fun found member => ?_
  exact (tells.get?_purge.mp (SortedMap.get?_eq_some_iff.mpr member)).2.1

/-- Two histories that say the same leave the same to list. -/
theorem Tells.live_congr (tells : Tells events session) (alike : Tells others other)
    (now : other.now = session.now) (same : ∀ entry, Stands others entry ↔ Stands events entry) :
    other.faults.store.live other.now = session.faults.store.live session.now := by
  have purged : (other.faults.store.purge other.now).byId =
      (session.faults.store.purge session.now).byId := by
    refine SortedMap.ext_get? fun id => Option.ext fun entry => ?_
    rw [tells.get?_purge, alike.get?_purge, now, same]
  rw [FaultStore.live, FaultStore.live, purged]

/-- A list behind any events. It is in the order of the ids, each of which is there once, and holds
exactly the faults that were submitted last under their ids, were not deleted since, and last beyond
now or beyond what the clock can tell. It is the same if nothing was listed before, so that nothing
hangs on what lists have dropped. Submissions and deletions alone raise the revision, each by one. -/
theorem list_standing (events : List FaultEvent) :
    ∃ session faults rest, run events = .ok session ∧
      session.faults.list session.now = .ok (faults, rest) ∧
      (faults.map Fault.id).Pairwise (· < ·) ∧
      (∀ fault, fault ∈ faults ↔ ∃ earlier later, events = earlier ++ .submit fault :: later ∧
        (∀ event ∈ later, ¬ event.concerns fault.id) ∧
        (clock events < clock earlier + fault.duration.nanos ∨
          clockLimit ≤ clock earlier + fault.duration.nanos)) ∧
      (∃ quiet left, run (events.filter (· ≠ .list)) = .ok quiet ∧
        quiet.faults.list quiet.now = .ok (faults, left)) ∧
      session.faults.revision = events.countP FaultEvent.isChange ∧
      rest.revision = session.faults.revision := by
  obtain ⟨session, ran, tells⟩ := run_tells events
  obtain ⟨quiet, ranQuiet, alike⟩ := run_tells (events.filter (· ≠ .list))
  obtain ⟨time, stands⟩ := FaultEvent.without_lists events
  have now : quiet.now = session.now := by rw [alike.now_eq, time, tells.now_eq]
  have listed := alike.list_eq
  rw [tells.live_congr alike now stands] at listed
  refine ⟨session, _, _, ran, tells.list_eq, ?_, fun fault => ?_, ⟨quiet, _, ranQuiet, listed⟩,
    tells.revision_eq, rfl⟩
  · rw [tells.live_ids, SortedMap.keys, List.pairwise_map]
    exact (session.faults.store.purge session.now).byId.sorted.imp
      fun below => compareOfLessAndEq_eq_lt.mp below
  · rw [tells.mem_live, ← tells.now_eq]
    constructor
    · rintro ⟨_, live, ⟨earlier, fault, later, split, spared, rfl⟩, rfl⟩
      exact ⟨earlier, later, split, spared, TimedFault.isLive_submitted.mp live⟩
    · rintro ⟨earlier, later, split, spared, lasts⟩
      exact ⟨_, TimedFault.isLive_submitted.mpr lasts, ⟨earlier, fault, later, split, spared, rfl⟩, rfl⟩

end FaultSession

end ServiceMesh
