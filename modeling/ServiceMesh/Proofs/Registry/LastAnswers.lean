import Mathlib.Data.List.Chain
import ServiceMesh.Proofs.Registry.Learning
import ServiceMesh.Proofs.Watched

/-! A watcher knows the last good answers: of each watched service what its latest answer says, over
failures and over answers that are skipped because of their index. -/
namespace ServiceMesh

namespace Watcher

/-- A watcher and what it heard in its passes, latest first. Passes without a catalog taught it
nothing. -/
structure Trail where
  watcher : Watcher
  past : List Heard

def Trail.next (config : WatcherConfig) (trail : Trail) (round : Round) : Trail :=
  ⟨(trail.watcher.round config round).watcher,
    (trail.watcher.hear config round).toList ++ trail.past⟩

/-- The trail of a watcher that begins with nothing. -/
def trail (config : WatcherConfig) (rounds : List Round) : Trail :=
  rounds.foldl (Trail.next config) ⟨.start, []⟩

theorem trail_snoc (config : WatcherConfig) (rounds : List Round) (round : Round) :
    trail config (rounds ++ [round]) = (trail config rounds).next config round := by
  rw [trail, List.foldl_append]
  rfl

/-- The latest answer about a service since it is watched without a break. -/
def lastAnswer (policy : WatchPolicy) (name : String) : List Heard → Option InstanceList
  | [] => none
  | heard :: earlier =>
      if (policy.choose heard.catalog).contains name then
        (heard.answers.lookup name).or (lastAnswer policy name earlier)
      else none

/-- The answers about a service, latest first, watched or not in between. -/
def answersAbout (name : String) (past : List Heard) : List InstanceList :=
  past.filterMap fun heard => heard.answers.lookup name

/-- Two successive answers to one request that share an index agree in the rest. -/
structure Honest (past : List Heard) : Prop where
  catalogs : (past.map Heard.catalog).IsChain fun later earlier =>
    later.index.isSome = true → later.index = earlier.index → later.services = earlier.services
  instances : ∀ name, (answersAbout name past).IsChain fun later earlier =>
    later.index.isSome = true → later.index = earlier.index → later.instances = earlier.instances

theorem Honest.earlier {heard : Heard} {past : List Heard} (honest : Honest (heard :: past)) :
    Honest past := by
  constructor
  · exact (List.isChain_cons.mp honest.catalogs).2
  · intro name
    have chain := honest.instances name
    rw [answersAbout, List.filterMap_cons] at chain
    cases found : heard.answers.lookup name with
    | none => rwa [found] at chain
    | some answer =>
        rw [found] at chain
        exact (List.isChain_cons.mp chain).2

theorem answersAbout_head {policy : WatchPolicy} {name : String} {past : List Heard}
    {answer : InstanceList} (last : lastAnswer policy name past = some answer) :
    (answersAbout name past).head? = some answer := by
  induction past with
  | nil => contradiction
  | cons heard earlier ih =>
      rw [lastAnswer] at last
      split at last
      case isFalse => contradiction
      case isTrue =>
        rw [answersAbout, List.filterMap_cons]
        cases found : heard.answers.lookup name with
        | none =>
            rw [found, Option.none_or] at last
            exact ih last
        | some latest =>
            rw [found, Option.some_or] at last
            exact last

/-- What a watcher knows, told from what it heard. -/
structure Knows (config : WatcherConfig) (past : List Heard) (watcher : Watcher) : Prop where
  services : ∀ name, watcher.services.get? name =
    (lastAnswer config.policy name past).map fun answer =>
      config.mapping.mapService name answer.instances
  catalogMark : watcher.catalogMark = past.head?.bind fun heard =>
    heard.catalog.index.map (·, config.policy.choose heard.catalog)
  marks : ∀ name, watcher.marks.get? name =
    (lastAnswer config.policy name past).bind InstanceList.index
  published : watcher.published.value =
    if watcher.isLoaded then some watcher.services else none

theorem Knows.start (config : WatcherConfig) : Knows config [] .start :=
  ⟨fun _ => rfl, rfl, fun _ => rfl, rfl⟩

variable {config : WatcherConfig} {past : List Heard} {watcher : Watcher} {heard : Heard}

/-- A catalog whose index is known means the same services as before. -/
theorem Knows.choose_eq (knows : Knows config past watcher) (honest : Honest (heard :: past)) :
    watcher.choose config.policy heard.catalog = config.policy.choose heard.catalog := by
  rw [choose, knows.catalogMark]
  cases past with
  | nil => rfl
  | cons earlier rest =>
      cases marked : earlier.catalog.index with
      | none => simp [marked]
      | some index =>
          simp only [List.head?_cons, Option.bind_some, marked, Option.map_some]
          split
          case isFalse => rfl
          case isTrue same =>
            have agrees := (List.isChain_cons_cons.mp honest.catalogs).1
              (by rw [same]; rfl) (by rw [same, marked])
            rw [WatchPolicy.choose, WatchPolicy.choose, agrees]

theorem lookup_of_mem {answers : List (String × InstanceList)}
    (distinct : (answers.map Prod.fst).Nodup) {name : String} {answer : InstanceList}
    (member : (name, answer) ∈ answers) : answers.lookup name = some answer := by
  induction answers with
  | nil => contradiction
  | cons entry rest ih =>
      obtain ⟨head, latest⟩ := entry
      obtain ⟨fresh, others⟩ := lookup_cons_of_nodup distinct
      rcases List.mem_cons.mp member with same | later
      · obtain ⟨rfl, rfl⟩ := Prod.mk.inj same
        exact List.lookup_cons_self
      · have apart : name ≠ head := fun same =>
          (List.nodup_cons.mp distinct).1 (List.mem_map.mpr ⟨_, later, same⟩)
        rw [List.lookup_cons, beq_false_of_ne apart]
        exact ih others later

/-- Answers that are skipped because of their index repeat what is known. -/
theorem Knows.faithful (knows : Knows config past watcher) (honest : Honest (heard :: past))
    (distinct : (heard.answers.map Prod.fst).Nodup) (watched : SortedSet String) :
    Faithful (watcher.learnCatalog heard.catalog.index watched) config.mapping heard.answers := by
  intro name answer member unchanged
  obtain ⟨indexed, marked⟩ := Bool.and_eq_true_iff.mp unchanged
  rw [beq_iff_eq, learnCatalog_marks] at marked
  rw [learnCatalog_get?]
  split at marked
  case isFalse =>
    rw [← marked] at indexed
    contradiction
  case isTrue stays =>
    rw [if_pos stays, knows.services]
    rw [knows.marks] at marked
    obtain ⟨index, shown⟩ := Option.isSome_iff_exists.mp indexed
    obtain ⟨earlier, last, same⟩ := Option.bind_eq_some_iff.mp (marked.trans shown)
    have chain := honest.instances name
    rw [answersAbout, List.filterMap_cons, lookup_of_mem distinct member] at chain
    have agrees := (List.isChain_cons.mp chain).1 earlier (answersAbout_head last) indexed
      (shown.trans same.symm)
    rw [last, agrees]
    rfl

theorem isLoaded_learnCatalog (loaded : watcher.isLoaded = true) (index : Option UInt64)
    (watched : SortedSet String) : (watcher.learnCatalog index watched).awaited = some ∅ := by
  rw [isLoaded, beq_iff_eq] at loaded
  rw [learnCatalog, loaded]
  rfl

theorem foldl_erase_empty (names : List String) :
    names.foldl SortedSet.erase (∅ : SortedSet String) = ∅ := by
  induction names with
  | nil => rfl
  | cons name rest ih => exact ih

theorem learn_isLoaded (loaded : watcher.isLoaded = true) :
    (watcher.learn config heard).isLoaded = true := by
  rw [isLoaded, learn]
  dsimp only
  rw [(publish_kept _ _).2.2.2.1, (learnAll_kept _ _ _).2.2, isLoaded_learnCatalog loaded,
    Option.map_some, foldl_erase_empty]
  rfl

/-- Answers about distinct services that the catalog has to offer. -/
structure Proper (policy : WatchPolicy) (heard : Heard) : Prop where
  distinct : (heard.answers.map Prod.fst).Nodup
  watched : ∀ name ∈ heard.answers.map Prod.fst, (policy.choose heard.catalog).contains name = true

theorem Proper.lookup_eq_none {policy : WatchPolicy} {name : String}
    (proper : Proper policy heard) (gone : (policy.choose heard.catalog).contains name = false) :
    heard.answers.lookup name = none := by
  refine List.lookup_eq_none_iff.mpr fun entry member => ?_
  have offered := proper.watched entry.1 (List.mem_map_of_mem member)
  have apart : name ≠ entry.1 := by
    intro same
    rw [same, offered] at gone
    contradiction
  simpa using apart

/-- The services behind a pass: lost with the catalog, or as the latest answers say. -/
theorem learned_services (mapping : InstanceMapping) {policy : WatchPolicy}
    (proper : Proper policy heard)
    (faithful : Faithful (watcher.learnCatalog heard.catalog.index (policy.choose heard.catalog))
      mapping heard.answers) :
    let watched := policy.choose heard.catalog
    let learned := learnAll mapping heard.answers
      (watcher.learnCatalog heard.catalog.index watched) (watcher.hasLost watched)
    (∀ name, learned.2.services.get? name =
      if watched.contains name then
        ((heard.answers.lookup name).map fun answer => mapping.mapService name answer.instances).or
          (watcher.services.get? name)
      else none) ∧
      learned.1 = decide (learned.2.services ≠ watcher.services) := by
  intro watched learned
  obtain ⟨gets, reports⟩ := learnAll_services proper.distinct faithful (watcher.hasLost watched)
  have behind (name : String) : learned.2.services.get? name =
      if watched.contains name then
        ((heard.answers.lookup name).map fun answer => mapping.mapService name answer.instances).or
          (watcher.services.get? name)
      else none := by
    rw [gets, learnCatalog_get?]
    split
    case isTrue => rfl
    case isFalse gone =>
      rw [proper.lookup_eq_none (eq_false_of_ne_true gone)]
      rfl
  refine ⟨behind, ?_⟩
  set left := (watcher.learnCatalog heard.catalog.index watched).services with isLeft
  have reports : learned.1 =
      (decide (left ≠ watcher.services) || decide (learned.2.services ≠ left)) := by
    rw [isLeft, ← hasLost_eq]
    exact reports
  rw [reports]
  by_cases lost : left = watcher.services
  · rw [lost, decide_eq_false (by simp), Bool.false_or]
  · -- What the catalog takes away, no answer of the same pass brings back.
    have differs : learned.2.services ≠ watcher.services := by
      intro same
      refine lost (Services.ext_get? fun name => ?_)
      rw [isLeft, learnCatalog_get?]
      have known := behind name
      rw [same] at known
      split
      case isTrue => rfl
      case isFalse gone => rw [known, if_neg gone]
    rw [decide_eq_true lost, decide_eq_true differs, Bool.true_or]

/-- What a pass with a catalog teaches a watcher that knows the past. -/
theorem Knows.learn (knows : Knows config past watcher) (honest : Honest (heard :: past))
    (proper : Proper config.policy heard) :
    Knows config (heard :: past) (watcher.learn config heard) ∧
      (watcher.learn config heard).published =
        if (watcher.learn config heard).isLoaded then
          watcher.published.offer (some (watcher.learn config heard).services)
        else watcher.published := by
  have stays (loaded : watcher.isLoaded = true) : (watcher.learn config heard).isLoaded = true :=
    learn_isLoaded loaded
  obtain ⟨gets, reports⟩ := learned_services config.mapping proper
    (knows.faithful honest proper.distinct _)
  set watched := config.policy.choose heard.catalog with isWatched
  set base := watcher.learnCatalog heard.catalog.index watched with isBase
  set learned := learnAll config.mapping heard.answers base (watcher.hasLost watched)
  have behind : watcher.learn config heard = learned.2.publish learned.1 := by
    rw [Watcher.learn, knows.choose_eq honest]
  obtain ⟨services, catalogMark, marks, awaited, -⟩ := publish_kept learned.2 learned.1
  have keptPublished : learned.2.published = watcher.published := (learnAll_kept _ _ _).2.1
  have news : (learned.2.publish learned.1).published =
      if (learned.2.publish learned.1).isLoaded then
        watcher.published.offer (some (learned.2.publish learned.1).services)
      else watcher.published := by
    have settled : learned.2.published.value = none ∨
        learned.2.published.value = some watcher.services := by
      rw [keptPublished, knows.published]
      split
      case isTrue => exact .inr rfl
      case isFalse => exact .inl rfl
    rw [publish_published settled reports, services, isLoaded, isLoaded, awaited, keptPublished]
  rw [behind] at stays ⊢
  refine ⟨⟨fun name => ?_, ?_, fun name => ?_, ?_⟩, news⟩
  · rw [services, gets, lastAnswer, ← isWatched, knows.services]
    split
    case isTrue => cases heard.answers.lookup name <;> rfl
    case isFalse => rfl
  · rw [catalogMark, (learnAll_kept _ _ _).1]
    rfl
  · rw [marks, learnAll_marks proper.distinct, learnCatalog_marks, lastAnswer, ← isWatched,
      knows.marks]
    split
    case isTrue => cases heard.answers.lookup name <;> rfl
    case isFalse gone =>
      rw [proper.lookup_eq_none (eq_false_of_ne_true gone)]
      rfl
  · rw [news]
    split
    case isTrue => exact Watched.value_offer _ _
    case isFalse unready => rw [knows.published, if_neg (mt stays unready)]

theorem instanceAnswers_sublist (config : WatcherConfig) (registry : Registry)
    (names : List String) (watcher : Watcher) (now : Time) :
    ((instanceAnswers config registry names watcher now).map Prod.fst).Sublist names := by
  induction names generalizing watcher now with
  | nil => exact .slnil
  | cons name rest ih =>
      dsimp only [instanceAnswers]
      split
      · exact (ih _ _).cons_cons name
      · exact (ih _ _).cons name

theorem hear_proper {round : Round} (hears : watcher.hear config round = some heard)
    (chosen : watcher.choose config.policy heard.catalog = config.policy.choose heard.catalog) :
    Proper config.policy heard := by
  unfold hear at hears
  dsimp only at hears
  split at hears
  · contradiction
  · cases Option.some.inj hears
    have asked := instanceAnswers_sublist config round.registry
    rw [chosen]
    constructor
    · exact (asked _ _ _).nodup (SortedSet.nodup _)
    · intro name member
      exact SortedSet.contains_iff.mpr (SortedSet.mem_toList.mp ((asked _ _ _).subset member))

theorem Knows.withNext (knows : Knows config past watcher) (next : Option Time) :
    Knows config past (watcher.withNext next) :=
  ⟨knows.services, knows.catalogMark, knows.marks, knows.published⟩

theorem Trail.next_none {trail : Trail} {round : Round}
    (hears : trail.watcher.hear config round = none) :
    trail.next config round = ⟨trail.watcher.withNext
      (trail.watcher.round config round).watcher.nextRequest, trail.past⟩ := by
  have behind := (round_eq trail.watcher config round).1
  rw [hears] at behind
  rw [Trail.next, hears, behind]
  rfl

theorem Trail.next_some {trail : Trail} {round : Round}
    (hears : trail.watcher.hear config round = some heard) :
    trail.next config round = ⟨(trail.watcher.learn config heard).withNext
      (trail.watcher.round config round).watcher.nextRequest, heard :: trail.past⟩ := by
  have behind := (round_eq trail.watcher config round).1
  rw [hears] at behind
  rw [Trail.next, hears, behind]
  rfl

theorem Trail.next_knows {trail : Trail} {round : Round}
    (knows : Knows config trail.past trail.watcher)
    (honest : Honest (trail.next config round).past) :
    Knows config (trail.next config round).past (trail.next config round).watcher := by
  cases hears : trail.watcher.hear config round with
  | none =>
      rw [Trail.next_none hears]
      exact knows.withNext _
  | some heard =>
      rw [Trail.next_some hears] at honest ⊢
      exact (knows.learn honest (hear_proper hears (knows.choose_eq honest))).1.withNext _

theorem Honest.before {trail : Trail} {round : Round}
    (honest : Honest (trail.next config round).past) : Honest trail.past := by
  cases hears : trail.watcher.hear config round with
  | none => rwa [Trail.next_none hears] at honest
  | some heard =>
      rw [Trail.next_some hears] at honest
      exact honest.earlier

/-- Along every run of passes a watcher knows exactly the last good answers. -/
theorem trail_knows {rounds : List Round} (honest : Honest (trail config rounds).past) :
    Knows config (trail config rounds).past (trail config rounds).watcher := by
  induction rounds using List.reverseRecOn with
  | nil => exact .start config
  | append_singleton rounds round ih =>
      rw [trail_snoc] at honest ⊢
      exact Trail.next_knows (ih honest.before) honest

end Watcher

end ServiceMesh
