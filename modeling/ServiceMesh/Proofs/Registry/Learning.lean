import Mathlib.Tactic.Set
import ServiceMesh.Proofs.Services
import ServiceMesh.Proofs.SortedSet
import ServiceMesh.Registry.Polling

/-! What a pass of a watcher teaches it, apart from the times at which it asks. A pass is its answer
about the catalog and its successful answers about services; the watcher behind it follows from
these alone. -/
namespace ServiceMesh

namespace Watcher

variable {watcher : Watcher} {mapping : InstanceMapping}

/-- The successful answers to requests for services that go out one after the other. -/
def instanceAnswers (config : WatcherConfig) (registry : Registry) :
    List String → Watcher → Time → List (String × InstanceList)
  | [], _, _ => []
  | name :: rest, watcher, now =>
      let sent := watcher.requestTime now
      let (latency, answer) := (registry.instances sent name).within config.requestTimeout
      let later := instanceAnswers config registry rest (watcher.requested config sent) (sent + latency)
      match answer with
      | .ok answer => (name, answer) :: later
      | .error _ => later

/-- Takes answers about services, and tells whether one changed what was known, or `changed`. -/
def learnAll (mapping : InstanceMapping) :
    List (String × InstanceList) → Watcher → Bool → Bool × Watcher
  | [], watcher, changed => (changed, watcher)
  | (name, answer) :: rest, watcher, changed =>
      let (learned, watcher) := watcher.learnInstances mapping name answer
      learnAll mapping rest watcher (changed || learned)

/-- The watcher with another time for its next request. -/
def withNext (watcher : Watcher) (next : Option Time) : Watcher :=
  { watcher with nextRequest := next }

@[simp] theorem withNext_published (watcher : Watcher) (next : Option Time) :
    (watcher.withNext next).published = watcher.published := rfl

/-- What an answer makes of the known services, and whether that is something new. -/
def learnServices (watcher : Watcher) (mapping : InstanceMapping) (name : String)
    (answer : InstanceList) : Bool × Services :=
  if watcher.isUnchanged name answer then (false, watcher.services)
  else watcher.services.change (mapping.mapService name answer.instances)

/-- The marks behind an answer. -/
def mark (marks : SortedMap String UInt64) (name : String) (index : Option UInt64) :
    SortedMap String UInt64 :=
  match index with
  | some index => marks.insert name index
  | none => marks.erase name

theorem learnInstances_eq (watcher : Watcher) (name : String) (answer : InstanceList) :
    watcher.learnInstances mapping name answer =
      ((watcher.learnServices mapping name answer).1, { watcher with
        services := (watcher.learnServices mapping name answer).2
        marks := mark watcher.marks name answer.index
        awaited := watcher.awaited.map (·.erase name) }) := by
  by_cases unchanged : watcher.isUnchanged name answer = true
  · simp only [learnInstances, learnServices, if_pos unchanged]
    rfl
  · simp only [learnInstances, learnServices, if_neg unchanged]
    rfl

theorem learnInstances_withNext (watcher : Watcher) (next : Option Time) (name : String)
    (answer : InstanceList) :
    (watcher.withNext next).learnInstances mapping name answer =
      ((watcher.learnInstances mapping name answer).1,
        (watcher.learnInstances mapping name answer).2.withNext next) := by
  rw [learnInstances_eq, learnInstances_eq]
  rfl

theorem learnAll_withNext (answers : List (String × InstanceList)) (watcher : Watcher)
    (next : Option Time) (changed : Bool) :
    learnAll mapping answers (watcher.withNext next) changed =
      ((learnAll mapping answers watcher changed).1,
        (learnAll mapping answers watcher changed).2.withNext next) := by
  induction answers generalizing watcher changed with
  | nil => rfl
  | cons entry rest ih =>
      obtain ⟨name, answer⟩ := entry
      simp only [learnAll, learnInstances_withNext, ih]

theorem learnInstances_nextRequest (watcher : Watcher) (name : String) (answer : InstanceList) :
    (watcher.learnInstances mapping name answer).2.nextRequest = watcher.nextRequest := by
  rw [learnInstances_eq]

/-- Request times are all that answers depend on. -/
theorem instanceAnswers_congr {config : WatcherConfig} {registry : Registry} {names : List String}
    {first second : Watcher} {now : Time} (same : first.nextRequest = second.nextRequest) :
    instanceAnswers config registry names first now =
      instanceAnswers config registry names second now := by
  cases names with
  | nil => rfl
  | cons name rest =>
      have times : first.requestTime now = second.requestTime now := by
        simp only [requestTime, same]
      have later (sent : Time) (now : Time) :
          instanceAnswers config registry rest (first.requested config sent) now =
            instanceAnswers config registry rest (second.requested config sent) now :=
        instanceAnswers_congr rfl
      simp only [instanceAnswers, times, later]

/-- Asking for services is learning from their answers. -/
theorem fetch_eq (config : WatcherConfig) (registry : Registry) (names : List String)
    (watcher : Watcher) (now : Time) (changed : Bool) :
    let progress := fetch config registry names watcher now changed
    let learned := learnAll config.mapping (instanceAnswers config registry names watcher now)
      watcher changed
    progress.changed = learned.1 ∧
      progress.watcher = learned.2.withNext progress.watcher.nextRequest := by
  induction names generalizing watcher now changed with
  | nil => exact ⟨rfl, rfl⟩
  | cons name rest ih =>
      dsimp only [fetch, instanceAnswers] at ih ⊢
      generalize (registry.instances (watcher.requestTime now) name).within config.requestTimeout =
        reply
      have asked : watcher.requested config (watcher.requestTime now) =
          watcher.withNext (some (watcher.requestTime now + config.requestDelay.nanos)) := rfl
      obtain ⟨latency, answer | answer⟩ := reply
      · obtain ⟨same, behind⟩ := ih (watcher.requested config (watcher.requestTime now))
          (watcher.requestTime now + latency) (changed || false)
        rw [Bool.or_false] at same behind
        rw [asked, learnAll_withNext] at same behind
        dsimp only
        rw [Bool.or_false]
        exact ⟨same, behind⟩
      · obtain ⟨same, behind⟩ := ih
          ((watcher.requested config (watcher.requestTime now)).learnInstances
            config.mapping name answer).2
          (watcher.requestTime now + latency)
          (changed || ((watcher.requested config (watcher.requestTime now)).learnInstances
            config.mapping name answer).1)
        rw [instanceAnswers_congr (learnInstances_nextRequest _ _ _)] at same behind
        dsimp only [learnAll]
        rw [asked] at same behind ⊢
        rw [learnInstances_withNext] at same behind ⊢
        rw [learnAll_withNext] at same behind
        exact ⟨same, behind⟩

/-! ### What is known behind a list of answers -/

theorem learnAll_kept (answers : List (String × InstanceList)) (watcher : Watcher)
    (changed : Bool) :
    (learnAll mapping answers watcher changed).2.catalogMark = watcher.catalogMark ∧
      (learnAll mapping answers watcher changed).2.published = watcher.published ∧
      (learnAll mapping answers watcher changed).2.awaited =
        watcher.awaited.map fun names => (answers.map Prod.fst).foldl SortedSet.erase names := by
  induction answers generalizing watcher changed with
  | nil => simp [learnAll]
  | cons entry rest ih =>
      obtain ⟨name, answer⟩ := entry
      simp only [learnAll, learnInstances_eq, List.map_cons, List.foldl_cons]
      obtain ⟨catalog, published, awaited⟩ := ih { watcher with
        services := (watcher.learnServices mapping name answer).2
        marks := mark watcher.marks name answer.index
        awaited := watcher.awaited.map (·.erase name) }
        (changed || (watcher.learnServices mapping name answer).1)
      exact ⟨catalog, published, by rw [awaited, Option.map_map]; rfl⟩

theorem get?_mark (marks : SortedMap String UInt64) (name : String) (index : Option UInt64)
    (other : String) :
    (mark marks name index).get? other = if name = other then index else marks.get? other := by
  cases index with
  | none => exact SortedMap.get?_erase _ _ _
  | some index => exact SortedMap.get?_insert _ _ _ _

/-- Looking up a name in answers whose names are distinct. -/
theorem lookup_cons_of_nodup {name : String} {answer : InstanceList}
    {rest : List (String × InstanceList)}
    (distinct : (((name, answer) :: rest).map Prod.fst).Nodup) :
    rest.lookup name = none ∧ (rest.map Prod.fst).Nodup := by
  obtain ⟨fresh, others⟩ := List.nodup_cons.mp distinct
  refine ⟨List.lookup_eq_none_iff.mpr fun entry member => ?_, others⟩
  have apart : name ≠ entry.1 := fun same => fresh (List.mem_map.mpr ⟨entry, member, same.symm⟩)
  simpa using apart

theorem learnAll_marks {answers : List (String × InstanceList)}
    (distinct : (answers.map Prod.fst).Nodup) (watcher : Watcher) (changed : Bool) (name : String) :
    (learnAll mapping answers watcher changed).2.marks.get? name =
      ((answers.lookup name).map InstanceList.index).getD (watcher.marks.get? name) := by
  induction answers generalizing watcher changed with
  | nil => rfl
  | cons entry rest ih =>
      obtain ⟨head, answer⟩ := entry
      obtain ⟨fresh, others⟩ := lookup_cons_of_nodup distinct
      simp only [learnAll, learnInstances_eq]
      rw [ih others, get?_mark]
      by_cases same : head = name
      · subst same
        simp [fresh]
      · rw [if_neg same, List.lookup_cons, beq_false_of_ne (Ne.symm same)]

/-- Answers whose indexes can be trusted: where one says that nothing changed, what is known is what
the answer says. -/
def Faithful (watcher : Watcher) (mapping : InstanceMapping)
    (answers : List (String × InstanceList)) : Prop :=
  ∀ name answer, (name, answer) ∈ answers → watcher.isUnchanged name answer = true →
    watcher.services.get? name = some (mapping.mapService name answer.instances)

theorem learnServices_eq {name : String} {answer : InstanceList}
    (faithful : watcher.isUnchanged name answer = true →
      watcher.services.get? name = some (mapping.mapService name answer.instances)) :
    watcher.learnServices mapping name answer =
      watcher.services.change (mapping.mapService name answer.instances) := by
  unfold learnServices
  split
  case isTrue unchanged => exact (if_pos (faithful unchanged)).symm
  case isFalse => rfl

/-- The watcher behind an answer whose index can be trusted. -/
def taught (watcher : Watcher) (mapping : InstanceMapping) (name : String)
    (answer : InstanceList) : Watcher :=
  { watcher with
    services := watcher.services.insert (mapping.mapService name answer.instances)
    marks := mark watcher.marks name answer.index
    awaited := watcher.awaited.map (·.erase name) }

theorem taught_get? (watcher : Watcher) (mapping : InstanceMapping) (head : String)
    (answer : InstanceList) (name : String) :
    (watcher.taught mapping head answer).services.get? name =
      if head = name then some (mapping.mapService head answer.instances)
      else watcher.services.get? name :=
  Services.get?_insert _ _ _

/-- An answer has no part in whether those about other services can be trusted. -/
theorem Faithful.taught {name : String} {answer : InstanceList}
    {rest : List (String × InstanceList)}
    (faithful : Faithful watcher mapping ((name, answer) :: rest))
    (distinct : (((name, answer) :: rest).map Prod.fst).Nodup) :
    Faithful (watcher.taught mapping name answer) mapping rest := by
  intro other later member unchanged
  have apart : name ≠ other := fun same =>
    (List.nodup_cons.mp distinct).1 (List.mem_map.mpr ⟨_, member, same.symm⟩)
  have marks : (watcher.taught mapping name answer).marks.get? other = watcher.marks.get? other := by
    rw [Watcher.taught, get?_mark, if_neg apart]
  have before : watcher.isUnchanged other later = true := by
    rwa [isUnchanged, marks] at unchanged
  rw [taught_get?, if_neg apart]
  exact faithful other later (List.mem_cons_of_mem _ member) before

/-- With faithful indexes the services behind some answers are the ones known before, with each
answer in its place, and a change is reported exactly if they are other services. -/
theorem learnAll_services {answers : List (String × InstanceList)}
    (distinct : (answers.map Prod.fst).Nodup) (faithful : Faithful watcher mapping answers)
    (changed : Bool) :
    (∀ name, (learnAll mapping answers watcher changed).2.services.get? name =
      ((answers.lookup name).map fun answer => mapping.mapService name answer.instances).or
        (watcher.services.get? name)) ∧
    (learnAll mapping answers watcher changed).1 = (changed ||
      decide ((learnAll mapping answers watcher changed).2.services ≠ watcher.services)) := by
  induction answers generalizing watcher changed with
  | nil => simp [learnAll]
  | cons entry rest ih =>
      obtain ⟨head, answer⟩ := entry
      obtain ⟨fresh, others⟩ := lookup_cons_of_nodup distinct
      set next := watcher.taught mapping head answer with isNext
      have learned : learnAll mapping ((head, answer) :: rest) watcher changed =
          learnAll mapping rest next (changed || decide (next.services ≠ watcher.services)) := by
        simp only [learnAll, learnInstances_eq,
          learnServices_eq (faithful head answer List.mem_cons_self), Services.change_eq]
        rfl
      have stillFaithful : Faithful next mapping rest := faithful.taught distinct
      obtain ⟨gets, reports⟩ := ih others stillFaithful
        (changed || decide (next.services ≠ watcher.services))
      rw [learned]
      refine ⟨fun name => ?_, ?_⟩
      · rw [gets, isNext, taught_get?]
        by_cases same : head = name
        · subst same
          simp [fresh]
        · rw [if_neg same, List.lookup_cons, beq_false_of_ne (Ne.symm same)]
      · rw [reports, Bool.or_assoc]
        -- The answer of the head is untouched by the others, so what it changed stays changed.
        have head_stays := gets head
        rw [fresh, isNext, taught_get?, if_pos rfl] at head_stays
        congr 1
        by_cases same : next.services = watcher.services
        · simp [same]
        · have differs : (learnAll mapping rest next
              (changed || decide (next.services ≠ watcher.services))).2.services ≠
                watcher.services :=
            fun equal => same (Services.insert_eq_self_iff.mpr (equal ▸ head_stays))
          rw [decide_eq_true differs, decide_eq_true same, Bool.true_or]

/-! ### Passes -/

theorem learnCatalog_get? (watcher : Watcher) (index : Option UInt64) (watched : SortedSet String)
    (name : String) :
    (watcher.learnCatalog index watched).services.get? name =
      if watched.contains name then watcher.services.get? name else none := by
  have gets : (watcher.learnCatalog index watched).services.get? name =
      (watcher.services.get? name).filter fun _ => watched.contains name :=
    SortedMap.get?_filter _ _ _
  rw [gets]
  cases watched.contains name <;> cases watcher.services.get? name <;> rfl

theorem learnCatalog_marks (watcher : Watcher) (index : Option UInt64) (watched : SortedSet String)
    (name : String) :
    (watcher.learnCatalog index watched).marks.get? name =
      if watched.contains name then watcher.marks.get? name else none := by
  have gets : (watcher.learnCatalog index watched).marks.get? name =
      (watcher.marks.get? name).filter fun _ => watched.contains name :=
    SortedMap.get?_filter _ _ _
  rw [gets]
  cases watched.contains name <;> cases watcher.marks.get? name <;> rfl

/-- Something is lost exactly if the catalog leaves other services. -/
theorem hasLost_eq (watcher : Watcher) (index : Option UInt64) (watched : SortedSet String) :
    watcher.hasLost watched =
      decide ((watcher.learnCatalog index watched).services ≠ watcher.services) := by
  rw [Bool.eq_iff_iff, decide_eq_true_iff, hasLost, List.any_eq_true]
  constructor
  · rintro ⟨name, known, gone⟩ same
    have gone : watched.contains name = false := by simpa using gone
    have missing := learnCatalog_get? watcher index watched name
    rw [gone, same] at missing
    have found := SortedMap.mem_keys.mp known
    rw [show watcher.services.byName.get? name = none from missing] at found
    contradiction
  · intro other
    by_contra none
    refine other (Services.ext_get? fun name => ?_)
    rw [learnCatalog_get?]
    split
    case isTrue => rfl
    case isFalse gone =>
      by_contra known
      have found : (watcher.services.byName.get? name).isSome = true :=
        Option.isSome_iff_ne_none.mpr (Ne.symm known)
      exact none ⟨name, SortedMap.mem_keys.mpr found, by rw [Bool.not_eq_true] at gone; rw [gone]; rfl⟩

theorem publish_kept (watcher : Watcher) (changed : Bool) :
    (watcher.publish changed).services = watcher.services ∧
      (watcher.publish changed).catalogMark = watcher.catalogMark ∧
      (watcher.publish changed).marks = watcher.marks ∧
      (watcher.publish changed).awaited = watcher.awaited ∧
      (watcher.publish changed).nextRequest = watcher.nextRequest := by
  unfold publish
  split <;> exact ⟨rfl, rfl, rfl, rfl, rfl⟩

/-- If the published services are those from before the pass, a loaded watcher publishes exactly
what is not published already. -/
theorem publish_published {before : Services} {changed : Bool}
    (settled : watcher.published.value = none ∨ watcher.published.value = some before)
    (reports : changed = decide (watcher.services ≠ before)) :
    (watcher.publish changed).published =
      if watcher.isLoaded then watcher.published.offer (some watcher.services)
      else watcher.published := by
  subst reports
  unfold publish Watched.offer
  cases watcher.isLoaded with
  | false => rfl
  | true =>
      rcases settled with none | some
      · simp [none]
      · by_cases same : watcher.services = before
        · simp [some, same]
        · simp [some, same, Ne.symm same]

end Watcher

/-- One call for a pass: how the registry answers during it, and when it begins. -/
structure Round where
  registry : Registry
  start : Time

/-- What a watcher hears in a pass: a catalog, and the successful answers about services. -/
structure Heard where
  catalog : Catalog
  answers : List (String × InstanceList)

namespace Watcher

/-- What a watcher hears in a round, nothing if the request for the catalog fails. -/
def hear (watcher : Watcher) (config : WatcherConfig) (round : Round) : Option Heard :=
  let sent := watcher.requestTime round.start
  let (latency, answer) := (round.registry.catalog sent).within config.requestTimeout
  match answer with
  | .error _ => none
  | .ok catalog => some ⟨catalog, instanceAnswers config round.registry
      (watcher.choose config.policy catalog).toList (watcher.requested config sent) (sent + latency)⟩

/-- The watcher behind what it hears in a pass. -/
def learn (watcher : Watcher) (config : WatcherConfig) (heard : Heard) : Watcher :=
  let watched := watcher.choose config.policy heard.catalog
  let (changed, learned) := learnAll config.mapping heard.answers
    (watcher.learnCatalog heard.catalog.index watched) (watcher.hasLost watched)
  learned.publish changed

/-- The pass of a round. -/
def round (watcher : Watcher) (config : WatcherConfig) (round : Round) : Pass :=
  watcher.poll config round.registry round.start

theorem publish_withNext (watcher : Watcher) (next : Option Time) (changed : Bool) :
    (watcher.withNext next).publish changed = (watcher.publish changed).withNext next := by
  have loaded : (watcher.withNext next).isLoaded = watcher.isLoaded := rfl
  unfold publish
  rw [loaded]
  split <;> split <;> first | rfl | contradiction

/-- A pass is what it teaches, and the booking of its last request. -/
theorem round_eq (watcher : Watcher) (config : WatcherConfig) (round : Round) :
    (watcher.round config round).watcher =
        ((watcher.hear config round).elim watcher (watcher.learn config)).withNext
          (watcher.round config round).watcher.nextRequest ∧
      ((watcher.round config round).problem = none ↔ (watcher.hear config round).isSome = true) := by
  dsimp only [Watcher.round, poll, hear]
  generalize (round.registry.catalog (watcher.requestTime round.start)).within
    config.requestTimeout = reply
  obtain ⟨latency, problem | catalog⟩ := reply
  · exact ⟨rfl, by simp⟩
  · refine ⟨?_, by simp [conclude]⟩
    dsimp only [conclude, Option.elim, learn]
    set sent := watcher.requestTime round.start
    have booked : watcher.requested config sent =
        watcher.withNext (some (sent + config.requestDelay.nanos)) := rfl
    have chosen : (watcher.requested config sent).choose config.policy catalog =
        watcher.choose config.policy catalog := rfl
    set watched := watcher.choose config.policy catalog
    have informed : (watcher.requested config sent).learnCatalog catalog.index watched =
        (watcher.learnCatalog catalog.index watched).withNext
          (some (sent + config.requestDelay.nanos)) := rfl
    have same : instanceAnswers config round.registry watched.toList
        ((watcher.requested config sent).learnCatalog catalog.index watched) (sent + latency) =
      instanceAnswers config round.registry watched.toList
        (watcher.requested config sent) (sent + latency) := instanceAnswers_congr rfl
    obtain ⟨changed, behind⟩ := fetch_eq config round.registry watched.toList
      ((watcher.requested config sent).learnCatalog catalog.index watched) (sent + latency)
      ((watcher.requested config sent).hasLost watched)
    rw [same, informed, learnAll_withNext] at changed behind
    rw [chosen, informed, changed, behind]
    simp only [publish_withNext]
    rfl

end Watcher

end ServiceMesh
