import ServiceMesh.Proofs.Registry.LastKnown

/-! A watcher publishes nothing until each service of its first catalog has answered or is gone, and
from then on it always publishes. Nothing is assumed about the registry: where an index is repeated,
the services to watch are those of before, whatever the catalog lists. -/
namespace ServiceMesh

namespace Watcher

/-- The services that are watched after some passes, latest first. -/
def watchedBehind (policy : WatchPolicy) : List Heard → SortedSet String
  | [] => ∅
  | heard :: earlier =>
      if heard.catalog.index.isSome = true ∧
          (earlier.head?.bind fun last => last.catalog.index) = heard.catalog.index then
        watchedBehind policy earlier
      else policy.choose heard.catalog

/-- A service that is watched from the first catalog on without a break. -/
def Stays (policy : WatchPolicy) (past : List Heard) (name : String) : Prop :=
  ∀ behind, behind <:+ past → behind ≠ [] → name ∈ watchedBehind policy behind

def Answered (past : List Heard) (name : String) : Prop :=
  ∃ heard ∈ past, name ∈ heard.answers.map Prod.fst

/-- Before the first catalog there is no service that need not be awaited. -/
def Awaits (watcher : Watcher) (name : String) : Prop :=
  ∀ names ∈ watcher.awaited, name ∈ names

/-- An index is remembered only of a service that is known. -/
def Marked (watcher : Watcher) : Prop :=
  ∀ name, (watcher.marks.get? name).isSome = true → (watcher.services.get? name).isSome = true

variable {config : WatcherConfig} {policy : WatchPolicy} {mapping : InstanceMapping}
  {past : List Heard} {heard : Heard} {watcher : Watcher} {name : String}

theorem stays_cons :
    Stays policy (heard :: past) name ↔
      name ∈ watchedBehind policy (heard :: past) ∧ Stays policy past name := by
  simp only [Stays, List.suffix_cons_iff, forall_eq_or_imp, ne_eq, reduceCtorEq,
    not_false_eq_true, forall_const]

theorem answered_cons :
    Answered (heard :: past) name ↔ name ∈ heard.answers.map Prod.fst ∨ Answered past name := by
  simp only [Answered, List.mem_cons, exists_eq_or_imp]

/-- Without an index to compare with, a catalog is always taken over. -/
theorem watchedBehind_cons_of_none
    (unmarked : (past.head?.bind fun last => last.catalog.index) = none) :
    watchedBehind policy (heard :: past) = policy.choose heard.catalog := by
  rw [watchedBehind, if_neg]
  rintro ⟨indexed, same⟩
  rw [← same, unmarked] at indexed
  contradiction

/-- What each catalog lists is watched without a break. -/
theorem stays_of_listed
    (listed : ∀ heard ∈ past, name ∈ policy.choose heard.catalog) : Stays policy past name := by
  induction past with
  | nil =>
      intro behind within nonempty
      exact absurd (List.suffix_nil.mp within) nonempty
  | cons heard earlier ih =>
      have before := ih fun other member => listed other (List.mem_cons_of_mem _ member)
      refine stays_cons.mpr ⟨?_, before⟩
      rw [watchedBehind]
      split
      case isTrue same =>
        refine before earlier List.suffix_rfl fun none => ?_
        rw [none] at same
        rw [← same.2] at same
        exact Bool.false_ne_true same.1
      case isFalse => exact listed heard List.mem_cons_self

/-- If an index is repeated only with the services, what is watched is what each catalog lists. -/
theorem watchedBehind_eq
    (told : ((heard :: past).map Heard.catalog).IsChain fun later earlier =>
      later.index.isSome = true → later.index = earlier.index → later.services = earlier.services) :
    watchedBehind policy (heard :: past) = policy.choose heard.catalog := by
  induction past generalizing heard with
  | nil => exact watchedBehind_cons_of_none rfl
  | cons earlier rest ih =>
      obtain ⟨agrees, before⟩ := List.isChain_cons_cons.mp told
      rw [watchedBehind]
      split
      case isTrue same =>
        rw [ih before, WatchPolicy.choose, WatchPolicy.choose, agrees same.1 same.2.symm]
      case isFalse => rfl

theorem listed_of_stays
    (told : (past.map Heard.catalog).IsChain fun later earlier =>
      later.index.isSome = true → later.index = earlier.index → later.services = earlier.services)
    (stays : Stays policy past name) : ∀ heard ∈ past, name ∈ policy.choose heard.catalog := by
  induction past with
  | nil => simp
  | cons heard earlier ih =>
      obtain ⟨watched, before⟩ := stays_cons.mp stays
      rw [watchedBehind_eq told] at watched
      intro other member
      rcases List.mem_cons.mp member with rfl | later
      · exact watched
      · exact ih told.tail before other later

/-! ### What one pass makes of the watcher -/

theorem learnServices_known (marked : Marked watcher) {head : String} {answer : InstanceList} :
    ((watcher.learnServices mapping head answer).2.get? name).isSome = true ↔
      head = name ∨ (watcher.services.get? name).isSome = true := by
  unfold learnServices
  split
  case isTrue unchanged =>
    obtain ⟨indexed, same⟩ := Bool.and_eq_true_iff.mp unchanged
    have known : (watcher.services.get? head).isSome = true :=
      marked head (by rwa [beq_iff_eq.mp same])
    exact ⟨.inr, Or.rec (fun own => own ▸ known) id⟩
  case isFalse =>
    have named : (mapping.mapService head answer.instances).name = head := rfl
    rw [Services.change_eq, Services.get?_insert, named]
    split
    case isTrue own => simp [own]
    case isFalse other => simp [other]

theorem Marked.learnInstances (marked : Marked watcher) {head : String} {answer : InstanceList} :
    Marked (watcher.learnInstances mapping head answer).2 := by
  rw [learnInstances_eq]
  intro name indexed
  refine (learnServices_known marked).mpr ?_
  dsimp only at indexed
  rw [get?_mark] at indexed
  split at indexed
  case isTrue own => exact .inl own
  case isFalse => exact .inr (marked name indexed)

/-- Behind some answers the services are known that answered, and those known before. -/
theorem learnAll_known (marked : Marked watcher) (answers : List (String × InstanceList))
    (changed : Bool) :
    Marked (learnAll mapping answers watcher changed).2 ∧
      ∀ name, ((learnAll mapping answers watcher changed).2.services.get? name).isSome = true ↔
        name ∈ answers.map Prod.fst ∨ (watcher.services.get? name).isSome = true := by
  induction answers generalizing watcher changed with
  | nil => exact ⟨marked, fun name => by simp [learnAll]⟩
  | cons entry rest ih =>
      obtain ⟨head, answer⟩ := entry
      obtain ⟨after, known⟩ := ih marked.learnInstances
        (changed || (watcher.learnInstances mapping head answer).1)
      refine ⟨after, fun name => (known name).trans ?_⟩
      have taught : ((watcher.learnInstances mapping head answer).2.services.get? name).isSome =
          true ↔ head = name ∨ (watcher.services.get? name).isSome = true := by
        rw [learnInstances_eq]
        exact learnServices_known marked
      rw [taught, List.map_cons, List.mem_cons, or_left_comm, or_assoc, eq_comm]

theorem learn_known (marked : Marked watcher) :
    Marked (watcher.learn config heard) ∧
      ∀ name, ((watcher.learn config heard).services.get? name).isSome = true ↔
        name ∈ heard.answers.map Prod.fst ∨
          name ∈ watcher.choose config.policy heard.catalog ∧
            (watcher.services.get? name).isSome = true := by
  set watched := watcher.choose config.policy heard.catalog with isWatched
  have left : Marked (watcher.learnCatalog heard.catalog.index watched) := by
    intro name indexed
    rw [learnCatalog_marks] at indexed
    rw [learnCatalog_get?]
    split at indexed
    case isTrue stays =>
      rw [if_pos stays]
      exact marked name indexed
    case isFalse => contradiction
  set learned := learnAll config.mapping heard.answers
    (watcher.learnCatalog heard.catalog.index watched) (watcher.hasLost watched)
  obtain ⟨after, known⟩ : Marked learned.2 ∧ _ := learnAll_known left heard.answers _
  obtain ⟨services, -, marks, -⟩ := publish_kept learned.2 learned.1
  have behind : watcher.learn config heard = learned.2.publish learned.1 := rfl
  rw [behind, Marked, services, marks]
  refine ⟨after, fun name => ?_⟩
  · rw [known, learnCatalog_get?]
    split
    case isTrue stays => simp [SortedSet.contains_iff.mp stays]
    case isFalse gone => simp [mt SortedSet.contains_iff.mpr gone]

theorem learn_awaits :
    (watcher.learn config heard).Awaits name ↔
      watcher.Awaits name ∧ name ∈ watcher.choose config.policy heard.catalog ∧
        name ∉ heard.answers.map Prod.fst := by
  rw [Awaits, learn_awaited]
  simp only [Option.mem_def, Option.some.injEq, forall_eq', SortedSet.mem_foldl_erase,
    SortedSet.mem_filter, SortedSet.contains_iff, Awaits]
  cases watcher.awaited with
  | none => simp
  | some names => simp [and_assoc]

/-- A watcher is loaded once it has a catalog and nothing is awaited any more. -/
theorem isLoaded_iff :
    watcher.isLoaded = true ↔ watcher.awaited ≠ none ∧ ∀ name, ¬ watcher.Awaits name := by
  rw [isLoaded, beq_iff_eq]
  unfold Awaits
  cases watcher.awaited with
  | none => simp
  | some names =>
      have empty : names = ∅ ↔ ∀ name, name ∉ names :=
        ⟨fun same => same ▸ SortedSet.notMem_empty,
          fun none => SortedSet.ext_mem fun name => by simp [none name]⟩
      simp [empty]

/-- A loaded watcher that published nothing yet publishes now. -/
theorem learn_published (watcher : Watcher) (config : WatcherConfig) (heard : Heard) :
    let next := watcher.learn config heard
    next.published = watcher.published ∧
        (next.isLoaded = true → watcher.published.value.isSome = true) ∨
      next.published = watcher.published.set (some next.services) ∧ next.isLoaded = true := by
  intro next
  set watched := watcher.choose config.policy heard.catalog with isWatched
  set learned := learnAll config.mapping heard.answers
    (watcher.learnCatalog heard.catalog.index watched) (watcher.hasLost watched) with isLearned
  obtain ⟨services, -, -, awaited, -⟩ := publish_kept learned.2 learned.1
  have behind : next = learned.2.publish learned.1 := rfl
  have before : learned.2.published = watcher.published := (learnAll_kept _ _ _).2.1
  have loaded : next.isLoaded = learned.2.isLoaded := by
    rw [behind, isLoaded, awaited, ← isLoaded]
  rw [loaded, behind, services, publish, ← before]
  split
  case isTrue news =>
    exact .inr ⟨rfl, (Bool.and_eq_true_iff.mp news).1⟩
  case isFalse still =>
    refine .inl ⟨rfl, fun ready => ?_⟩
    rw [ready, Bool.true_and, Bool.or_eq_true, not_or] at still
    rw [← Option.not_isNone, Bool.eq_false_of_not_eq_true still.1]
    rfl

/-! ### Runs of passes -/

/-- How far the initial load of a watcher is, told from what it heard. -/
structure Loading (policy : WatchPolicy) (past : List Heard) (watcher : Watcher) : Prop where
  catalogMark : watcher.catalogMark =
    (past.head?.bind fun last => last.catalog.index).map (·, watchedBehind policy past)
  begun : watcher.awaited = none ↔ past = []
  awaits : ∀ name, watcher.Awaits name ↔ Stays policy past name ∧ ¬ Answered past name
  marked : Marked watcher
  known : ∀ name, Stays policy past name → Answered past name →
    (watcher.services.get? name).isSome = true
  quiet : watcher.isLoaded = false → watcher.published = .start none
  shown : ∀ services, watcher.published.value = some services →
    ∀ name, Stays policy past name → (services.get? name).isSome = true

namespace Loading

theorem start (policy : WatchPolicy) : Loading policy [] .start where
  catalogMark := rfl
  begun := by simp [Watcher.start]
  awaits name := by simp [Awaits, Watcher.start, Stays, Answered]
  marked name indexed := by contradiction
  known name _ answered := by simp [Answered] at answered
  quiet _ := rfl
  shown services published := by contradiction

theorem withNext (loading : Loading policy past watcher) (next : Option Time) :
    Loading policy past (watcher.withNext next) :=
  ⟨loading.catalogMark, loading.begun, loading.awaits, loading.marked, loading.known,
    loading.quiet, loading.shown⟩

theorem choose_eq (loading : Loading policy past watcher) :
    watcher.choose policy heard.catalog = watchedBehind policy (heard :: past) := by
  rw [choose, loading.catalogMark]
  cases last : past.head?.bind fun last => last.catalog.index with
  | none => exact (watchedBehind_cons_of_none last).symm
  | some index =>
      rw [watchedBehind, last]
      by_cases same : heard.catalog.index = some index
      · simp [same]
      · simp [same, Ne.symm same]

/-- A watcher is loaded once it has a catalog and whatever stays has answered. -/
theorem isLoaded_iff (loading : Loading policy past watcher) :
    watcher.isLoaded = true ↔
      past ≠ [] ∧ ∀ name, Stays policy past name → Answered past name := by
  rw [Watcher.isLoaded_iff, ne_eq, loading.begun]
  simp only [loading.awaits, not_and, not_not, ne_eq]

theorem learn (loading : Loading config.policy past watcher) (heard : Heard) :
    Loading config.policy (heard :: past) (watcher.learn config heard) := by
  obtain ⟨marked, known⟩ : Marked (watcher.learn config heard) ∧ _ := learn_known loading.marked
  have chosen : watcher.choose config.policy heard.catalog = _ := loading.choose_eq
  have awaits (name : String) : (watcher.learn config heard).Awaits name ↔
      Stays config.policy (heard :: past) name ∧ ¬ Answered (heard :: past) name := by
    rw [learn_awaits, loading.awaits, chosen, stays_cons, answered_cons]
    tauto
  have begun : (watcher.learn config heard).awaited = none ↔ heard :: past = [] := by
    rw [learn_awaited]
    simp
  have knows (name : String) (stays : Stays config.policy (heard :: past) name)
      (answered : Answered (heard :: past) name) :
      ((watcher.learn config heard).services.get? name).isSome = true := by
    obtain ⟨watched, before⟩ := stays_cons.mp stays
    rw [known, chosen]
    exact (answered_cons.mp answered).imp id fun earlier =>
      ⟨watched, loading.known name before earlier⟩
  have catalogMark : (watcher.learn config heard).catalogMark =
      heard.catalog.index.map (·, watchedBehind config.policy (heard :: past)) := by
    rw [← chosen, Watcher.learn, (publish_kept _ _).2.1, (learnAll_kept _ _ _).1]
    rfl
  have loaded (ready : (watcher.learn config heard).isLoaded = true) (name : String)
      (stays : Stays config.policy (heard :: past) name) : Answered (heard :: past) name := by
    have nothing := (Watcher.isLoaded_iff.mp ready).2 name
    rw [awaits] at nothing
    exact not_not.mp fun unanswered => nothing ⟨stays, unanswered⟩
  refine ⟨catalogMark, begun, awaits, marked, knows, fun unready => ?_, fun services published => ?_⟩
  · have before : watcher.isLoaded = false :=
      Bool.eq_false_of_not_eq_true fun ready =>
        Bool.false_ne_true (unready.symm.trans (learn_isLoaded ready))
    rcases learn_published watcher config heard with ⟨same, -⟩ | ⟨-, ready⟩
    · rw [same, loading.quiet before]
    · rw [unready] at ready
      contradiction
  · intro name stays
    rcases learn_published watcher config heard with ⟨same, -⟩ | ⟨news, ready⟩
    · rw [same] at published
      exact loading.shown services published name (stays_cons.mp stays).2
    · rw [news] at published
      rw [← Option.some.inj published]
      exact knows name stays (loaded ready name stays)

theorem next {trail : Trail} (loading : Loading config.policy trail.past trail.watcher)
    (round : Round) :
    Loading config.policy (trail.next config round).past (trail.next config round).watcher := by
  cases hears : trail.watcher.hear config round with
  | none =>
      rw [Trail.next_none hears]
      exact loading.withNext _
  | some heard =>
      rw [Trail.next_some hears]
      exact (loading.learn heard).withNext _

end Loading

/-- Along every run of passes the initial load is as far as the answers say. -/
theorem trail_loading (config : WatcherConfig) (rounds : List Round) :
    Loading config.policy (trail config rounds).past (trail config rounds).watcher := by
  induction rounds using List.reverseRecOn with
  | nil => exact .start config.policy
  | append_singleton rounds round ih =>
      rw [trail_snoc]
      exact ih.next round

theorem Trail.next_isLoaded {trail : Trail} (loaded : trail.watcher.isLoaded = true)
    (round : Round) : (trail.next config round).watcher.isLoaded = true := by
  cases hears : trail.watcher.hear config round with
  | none =>
      rw [Trail.next_none hears]
      exact loaded
  | some heard =>
      rw [Trail.next_some hears]
      exact learn_isLoaded loaded

theorem trail_isLoaded {rounds : List Round}
    (loaded : (trail config rounds).watcher.isLoaded = true) (later : List Round) :
    (trail config (rounds ++ later)).watcher.isLoaded = true := by
  induction later using List.reverseRecOn with
  | nil => rwa [List.append_nil]
  | append_singleton later round ih =>
      rw [← List.append_assoc, trail_snoc]
      exact Trail.next_isLoaded ih round

/-- The pass that loads a watcher publishes, changed or not. -/
theorem Trail.next_published {trail : Trail} {round : Round}
    (unready : trail.watcher.isLoaded = false) (quiet : trail.watcher.published = .start none)
    (ready : (trail.next config round).watcher.isLoaded = true) :
    (trail.next config round).watcher.published =
      ⟨some (trail.next config round).watcher.services, 1⟩ := by
  cases hears : trail.watcher.hear config round with
  | none =>
      rw [Trail.next_none hears] at ready
      exact absurd (unready.symm.trans ready) Bool.false_ne_true
  | some heard =>
      rw [Trail.next_some hears] at ready ⊢
      rcases learn_published trail.watcher config heard with ⟨-, spoken⟩ | ⟨news, -⟩
      · have said := spoken ready
        rw [quiet] at said
        contradiction
      · rw [withNext_published, news, quiet]
        rfl

/-- Before a catalog, and before each service has answered that every catalog lists, nothing is
published. What is published has all of them. A watcher that is loaded stays so, and the pass that
leaves nothing to await publishes. Where an index is repeated only with the services, the services
that stay are those that every catalog lists. -/
theorem initial_load (config : WatcherConfig) (rounds : List Round) :
    let past := (trail config rounds).past
    let watcher := (trail config rounds).watcher
    let Listed (name : String) := ∀ heard ∈ past, name ∈ config.policy.choose heard.catalog
    (past = [] ∨ (∃ name, Listed name ∧ ¬ Answered past name) → watcher.published = .start none) ∧
    (∀ services, watcher.published.value = some services →
      ∀ name, Listed name → (services.get? name).isSome = true) ∧
    (watcher.isLoaded = true ↔
      past ≠ [] ∧ ∀ name, Stays config.policy past name → Answered past name) ∧
    (watcher.isLoaded = true →
      ∀ later, (trail config (rounds ++ later)).watcher.isLoaded = true) ∧
    (∀ round, watcher.isLoaded = false →
      let next := (trail config (rounds ++ [round])).watcher
      next.isLoaded = true → next.published = ⟨some next.services, 1⟩ ∧
        next.published.isNewsSince watcher.published.revision = true) ∧
    (((past.map Heard.catalog).IsChain fun later earlier => later.index.isSome = true →
        later.index = earlier.index → later.services = earlier.services) →
      ∀ name, Stays config.policy past name ↔ Listed name) := by
  intro past watcher Listed
  have loading : Loading config.policy past watcher := trail_loading config rounds
  refine ⟨fun waiting => ?_, fun services published name listed => ?_, loading.isLoaded_iff,
    trail_isLoaded, fun round unready => ?_, fun told name => ?_⟩
  · refine loading.quiet (Bool.eq_false_of_not_eq_true fun ready => ?_)
    obtain ⟨some, answered⟩ := loading.isLoaded_iff.mp ready
    rcases waiting with none | ⟨name, listed, silent⟩
    · exact some none
    · exact silent (answered name (stays_of_listed listed))
  · exact loading.shown services published name (stays_of_listed listed)
  · intro next ready
    have quiet := loading.quiet unready
    have news : next.published = ⟨some next.services, 1⟩ := by
      rw [show next = _ from congrArg Trail.watcher (trail_snoc config rounds round)] at ready ⊢
      exact Trail.next_published unready quiet ready
    refine ⟨news, ?_⟩
    rw [news, quiet]
    rfl
  · exact ⟨listed_of_stays told, stays_of_listed⟩

end Watcher

end ServiceMesh
