import ServiceMesh.Proofs.Registry.LastAnswers

/-! What a watcher publishes is what it knows last, and indexes make no difference to it. -/
namespace ServiceMesh

/-! ### Answers without their indexes -/

def Catalog.unindexed (catalog : Catalog) : Catalog := { catalog with index := none }

def InstanceList.unindexed (answer : InstanceList) : InstanceList := { answer with index := none }

def Reply.map {α β : Type} (f : α → β) (reply : Reply α) : Reply β :=
  ⟨reply.latency, reply.outcome.map f⟩

/-- The registry as a watcher sees it that does not look at indexes. -/
def Registry.unindexed (registry : Registry) : Registry where
  catalog time := (registry.catalog time).map Catalog.unindexed
  instances time name := (registry.instances time name).map InstanceList.unindexed

def Round.unindexed (round : Round) : Round := ⟨round.registry.unindexed, round.start⟩

def Heard.unindexed (heard : Heard) : Heard :=
  ⟨heard.catalog.unindexed, heard.answers.map fun entry => (entry.1, entry.2.unindexed)⟩

theorem Reply.within_map {α β : Type} (f : α → β) (reply : Reply α) (timeout : Duration) :
    (reply.map f).within timeout = ((reply.within timeout).1, (reply.within timeout).2.map f) := by
  obtain ⟨latency, outcome⟩ := reply
  cases latency with
  | none => rfl
  | some latency =>
      simp only [map, within]
      split <;> rfl

theorem lookup_unindexed (answers : List (String × InstanceList)) (name : String) :
    (answers.map fun entry => (entry.1, entry.2.unindexed)).lookup name =
      (answers.lookup name).map InstanceList.unindexed := by
  induction answers with
  | nil => rfl
  | cons entry rest ih =>
      rw [List.map_cons, List.lookup_cons, List.lookup_cons]
      split
      · rfl
      · exact ih

namespace Watcher

variable {config : WatcherConfig}

theorem lastAnswer_unindexed (policy : WatchPolicy) (name : String) (past : List Heard) :
    lastAnswer policy name (past.map Heard.unindexed) =
      (lastAnswer policy name past).map InstanceList.unindexed := by
  induction past with
  | nil => rfl
  | cons heard earlier ih =>
      have same : policy.choose heard.unindexed.catalog = policy.choose heard.catalog := rfl
      rw [List.map_cons, lastAnswer, lastAnswer, same, ih, Heard.unindexed, lookup_unindexed]
      split
      · cases heard.answers.lookup name <;> rfl
      · rfl

/-- Answers without indexes cannot mislead. -/
theorem honest_unindexed (past : List Heard) : Honest (past.map Heard.unindexed) := by
  constructor
  · rw [List.map_map, List.isChain_map]
    refine List.Pairwise.isChain (List.pairwise_of_forall fun later earlier indexed => ?_)
    contradiction
  · intro name
    have all : answersAbout name (past.map Heard.unindexed) =
        (answersAbout name past).map InstanceList.unindexed := by
      rw [answersAbout, answersAbout, List.filterMap_map, List.map_filterMap]
      refine List.filterMap_congr fun heard _ => ?_
      exact lookup_unindexed _ _
    rw [all, List.isChain_map]
    refine List.Pairwise.isChain (List.pairwise_of_forall fun later earlier indexed => ?_)
    contradiction

theorem instanceAnswers_unindexed (registry : Registry) (names : List String) (watcher : Watcher)
    (now : Time) :
    instanceAnswers config registry.unindexed names watcher now =
      (instanceAnswers config registry names watcher now).map
        fun entry => (entry.1, entry.2.unindexed) := by
  induction names generalizing watcher now with
  | nil => rfl
  | cons name rest ih =>
      simp only [instanceAnswers, Registry.unindexed, Reply.within_map]
      cases ((registry.instances (watcher.requestTime now) name).within config.requestTimeout).2 with
      | error => exact ih _ _
      | ok answer => exact congrArg _ (ih _ _)

/-- Indexes do not touch the times of requests. -/
theorem fetch_unindexed (registry : Registry) (names : List String) {watcher other : Watcher}
    (same : other.nextRequest = watcher.nextRequest) (now : Time) (changed lost : Bool) :
    (fetch config registry.unindexed names other now lost).watcher.nextRequest =
      (fetch config registry names watcher now changed).watcher.nextRequest := by
  induction names generalizing watcher other now changed lost with
  | nil => exact same
  | cons name rest ih =>
      have times : other.requestTime now = watcher.requestTime now := by
        rw [requestTime, requestTime, same]
      simp only [fetch, Registry.unindexed, Reply.within_map, times]
      refine ih ?_ _ _ _
      cases ((registry.instances (watcher.requestTime now) name).within config.requestTimeout).2 with
      | error => rfl
      | ok answer => simp only [Except.map, learnInstances_nextRequest]; rfl

section Simulation

variable {watcher other : Watcher} {round : Round}

/-- Two watchers that ask at the same times and choose the same services hear the same. -/
theorem hear_unindexed (same : other.nextRequest = watcher.nextRequest)
    (chosen : ∀ heard, watcher.hear config round = some heard →
      other.choose config.policy heard.catalog.unindexed =
        watcher.choose config.policy heard.catalog) :
    other.hear config round.unindexed = (watcher.hear config round).map Heard.unindexed := by
  have times : other.requestTime round.start = watcher.requestTime round.start := by
    rw [requestTime, requestTime, same]
  have answers (names : List String) (sent now : Time) :
      instanceAnswers config round.registry.unindexed names (other.requested config sent) now =
        (instanceAnswers config round.registry names (watcher.requested config sent) now).map
          fun entry => (entry.1, entry.2.unindexed) := by
    rw [← instanceAnswers_unindexed]
    exact instanceAnswers_congr rfl
  simp only [hear, Round.unindexed, Registry.unindexed, Reply.within_map, times] at chosen ⊢
  cases answered : ((round.registry.catalog (watcher.requestTime round.start)).within
      config.requestTimeout).2 with
  | error => rfl
  | ok catalog =>
      rw [answered] at chosen
      have alike := chosen _ rfl
      dsimp only at alike
      simp only [Except.map, alike]
      exact congrArg (fun later => some (Heard.mk catalog.unindexed later)) (answers _ _ _)

theorem round_unindexed (same : other.nextRequest = watcher.nextRequest)
    (chosen : ∀ heard, watcher.hear config round = some heard →
      other.choose config.policy heard.catalog.unindexed =
        watcher.choose config.policy heard.catalog) :
    (other.round config round.unindexed).watcher.nextRequest =
      (watcher.round config round).watcher.nextRequest := by
  have times : other.requestTime round.start = watcher.requestTime round.start := by
    rw [requestTime, requestTime, same]
  have booked {watcher other : Watcher} (names : List String) (now : Time) (changed lost : Bool)
      (same : other.nextRequest = watcher.nextRequest) :
      (conclude (fetch config round.registry.unindexed names other now lost)).watcher.nextRequest =
        (conclude (fetch config round.registry names watcher now changed)).watcher.nextRequest := by
    rw [conclude, conclude, (publish_kept _ _).2.2.2.2, (publish_kept _ _).2.2.2.2]
    exact fetch_unindexed _ _ same _ _ _
  simp only [Watcher.round, poll, hear, Round.unindexed, Registry.unindexed, Reply.within_map,
    times] at chosen ⊢
  cases answered : ((round.registry.catalog (watcher.requestTime round.start)).within
      config.requestTimeout).2 with
  | error => rfl
  | ok catalog =>
      rw [answered] at chosen
      have alike := chosen _ rfl
      have chooses (watcher : Watcher) (sent : Time) (catalog : Catalog) :
          (watcher.requested config sent).choose config.policy catalog =
            watcher.choose config.policy catalog := rfl
      dsimp only at alike
      simp only [Except.map, chooses, alike]
      exact booked _ _ _ _ rfl

end Simulation

theorem learn_awaited (watcher : Watcher) (heard : Heard) :
    let watched := watcher.choose config.policy heard.catalog
    (watcher.learn config heard).awaited = some ((heard.answers.map Prod.fst).foldl SortedSet.erase
      ((watcher.awaited.getD watched).filter watched.contains)) := by
  intro watched
  rw [learn, (publish_kept _ _).2.2.2.1, (learnAll_kept _ _ _).2.2]
  rfl

/-- Two trails, one of them without indexes, that differ in nothing else that can be seen. -/
structure Alike (trail other : Trail) : Prop where
  past : other.past = trail.past.map Heard.unindexed
  nextRequest : other.watcher.nextRequest = trail.watcher.nextRequest
  awaited : other.watcher.awaited = trail.watcher.awaited
  published : other.watcher.published = trail.watcher.published

theorem Alike.next {trail other : Trail} {round : Round} (alike : Alike trail other)
    (knows : Knows config trail.past trail.watcher)
    (others : Knows config other.past other.watcher)
    (honest : Honest (trail.next config round).past) :
    Alike (trail.next config round) (other.next config round.unindexed) := by
  have plain (heard : Heard) : Honest (heard.unindexed :: other.past) := by
    rw [alike.past]
    exact honest_unindexed (heard :: trail.past)
  have truthful (heard : Heard) (hears : trail.watcher.hear config round = some heard) :
      Honest (heard :: trail.past) := by
    rwa [Trail.next_some hears] at honest
  have chosen (heard : Heard) (hears : trail.watcher.hear config round = some heard) :
      other.watcher.choose config.policy heard.catalog.unindexed =
        trail.watcher.choose config.policy heard.catalog :=
    (others.choose_eq (plain heard)).trans (knows.choose_eq (truthful heard hears)).symm
  have booked := round_unindexed alike.nextRequest chosen
  have same := hear_unindexed alike.nextRequest chosen
  cases hears : trail.watcher.hear config round with
  | none =>
      rw [hears] at same
      rw [Trail.next_none hears, Trail.next_none same, booked]
      exact ⟨alike.past, rfl, alike.awaited, alike.published⟩
  | some heard =>
      rw [hears, Option.map_some] at same
      have known := knows.learn (truthful heard hears)
        (hear_proper hears (knows.choose_eq (truthful heard hears)))
      have knownAlike := others.learn (plain heard)
        (hear_proper same (others.choose_eq (plain heard)))
      have services : (other.watcher.learn config heard.unindexed).services =
          (trail.watcher.learn config heard).services := by
        refine Services.ext_get? fun name => ?_
        rw [known.1.services, knownAlike.1.services, alike.past, ← List.map_cons,
          lastAnswer_unindexed]
        cases lastAnswer config.policy name (heard :: trail.past) <;> rfl
      have names : heard.unindexed.answers.map Prod.fst = heard.answers.map Prod.fst :=
        List.map_map
      have awaited : (other.watcher.learn config heard.unindexed).awaited =
          (trail.watcher.learn config heard).awaited := by
        rw [learn_awaited, learn_awaited, names, alike.awaited]
        exact congrArg (fun watched : SortedSet String => some (List.foldl SortedSet.erase
          ((trail.watcher.awaited.getD watched).filter watched.contains) _)) (chosen heard hears)
      rw [Trail.next_some hears, Trail.next_some same, booked]
      refine ⟨congrArg (heard.unindexed :: ·) alike.past, rfl, awaited, ?_⟩
      simp only [withNext_published]
      rw [known.2, knownAlike.2, isLoaded, isLoaded, awaited, services, alike.published]

theorem trail_unindexed {rounds : List Round} (honest : Honest (trail config rounds).past) :
    Alike (trail config rounds) (trail config (rounds.map Round.unindexed)) := by
  induction rounds using List.reverseRecOn with
  | nil => exact ⟨rfl, rfl, rfl, rfl⟩
  | append_singleton rounds round ih =>
      rw [trail_snoc] at honest
      have alike := ih honest.before
      have plain : Honest (trail config (rounds.map Round.unindexed)).past := by
        rw [alike.past]
        exact honest_unindexed _
      rw [List.map_append, List.map_singleton, trail_snoc, trail_snoc]
      exact alike.next (trail_knows honest.before) (trail_knows plain) honest

theorem Trail.next_isNewsSince {trail : Trail} {round : Round}
    (knows : Knows config trail.past trail.watcher)
    (honest : Honest (trail.next config round).past) :
    (trail.next config round).watcher.published.isNewsSince trail.watcher.published.revision = true ↔
      (trail.next config round).watcher.published.value ≠ trail.watcher.published.value := by
  have quiet : trail.watcher.published.isNewsSince trail.watcher.published.revision = true ↔
      trail.watcher.published.value ≠ trail.watcher.published.value := by
    simp [Watched.isNewsSince]
  cases hears : trail.watcher.hear config round with
  | none =>
      rw [Trail.next_none hears]
      exact quiet
  | some heard =>
      rw [Trail.next_some hears] at honest ⊢
      have published := (knows.learn honest (hear_proper hears (knows.choose_eq honest))).2
      simp only [withNext_published, published]
      split
      · rw [Watched.value_offer]
        exact Watched.isNewsSince_offer _ _
      · exact quiet

/-- The last pass of a run: without a catalog it changes nothing that the watcher knows, and always
the watcher knows the last good answer about each watched service, and nothing else. What is
published is what is known once all is loaded, whoever follows it hears of every difference and of
nothing else, and indexes have no part in it. -/
theorem last_known_good (config : WatcherConfig) (rounds : List Round) (round : Round)
    (honest : Honest (trail config (rounds ++ [round])).past) :
    let before := (trail config rounds).watcher
    let pass := before.poll config round.registry round.start
    let past := (trail config (rounds ++ [round])).past
    let ignorant := (trail config ((rounds ++ [round]).map Round.unindexed)).watcher
    (pass.problem.isSome = true →
      pass.watcher.services = before.services ∧ pass.watcher.catalogMark = before.catalogMark ∧
        pass.watcher.marks = before.marks ∧ pass.watcher.awaited = before.awaited ∧
        pass.watcher.published = before.published) ∧
    (∀ name, pass.watcher.services.get? name =
      (lastAnswer config.policy name past).map fun answer =>
        config.mapping.mapService name answer.instances) ∧
    (pass.watcher.isLoaded = true → pass.watcher.published.value = some pass.watcher.services) ∧
    (pass.watcher.published.isNewsSince before.published.revision = true ↔
      pass.watcher.published.value ≠ before.published.value) ∧
    ignorant.published = pass.watcher.published := by
  intro before pass past ignorant
  have known := trail_knows honest
  have alike := trail_unindexed honest
  have ends : (trail config (rounds ++ [round])).watcher = pass.watcher := by
    rw [trail_snoc]
    rfl
  rw [ends] at known
  refine ⟨fun failed => ?_, known.services, fun loaded => ?_, ?_, ?_⟩
  · obtain ⟨behind, heard⟩ := round_eq before config round
    have silent : before.hear config round = none := by
      by_contra some
      have fine := heard.mpr (Option.isSome_iff_ne_none.mpr some)
      rw [show pass.problem = none from fine] at failed
      contradiction
    rw [silent] at behind
    rw [show pass.watcher = _ from behind]
    exact ⟨rfl, rfl, rfl, rfl, rfl⟩
  · rw [known.published, if_pos loaded]
  · rw [trail_snoc] at honest
    exact Trail.next_isNewsSince (trail_knows honest.before) honest
  · rw [← ends]
    exact alike.published

/-- After two equal answers and an outage a service is still known. -/
theorem last_known_good_outage :
    let config : WatcherConfig := ⟨.zero, .zero, .zero, ⟨∅⟩, ⟨"", "", 1⟩⟩
    let web : InstanceList := ⟨some 3, [⟨"a", "10.0.0.1", 80, [], true⟩]⟩
    let catalog : Catalog := ⟨some 7, [⟨"web", ∅⟩]⟩
    let steady : Round := ⟨⟨fun _ => ⟨some 0, .ok catalog⟩, fun _ _ => ⟨some 0, .ok web⟩⟩, 0⟩
    let outage : Round :=
      ⟨⟨fun _ => ⟨some 0, .error (.status 500)⟩, fun _ _ => ⟨none, .ok web⟩⟩, 0⟩
    Honest (trail config [steady, steady, outage]).past ∧
      (trail config [steady, steady, outage]).watcher.services.get? "web" =
        some (config.mapping.mapService "web" web.instances) := by
  intro config web catalog steady outage
  have past : (trail config [steady, steady, outage]).past =
      [⟨catalog, [("web", web)]⟩, ⟨catalog, [("web", web)]⟩] := rfl
  have honest : Honest (trail config [steady, steady, outage]).past := by
    rw [past]
    constructor
    · simp
    · intro name
      rw [answersAbout, List.filterMap_cons, List.filterMap_cons, List.filterMap_nil]
      cases [("web", web)].lookup name <;> simp
  obtain ⟨-, services, -⟩ := last_known_good config [steady, steady] outage honest
  refine ⟨honest, (services "web").trans ?_⟩
  rw [List.cons_append, List.cons_append, List.nil_append, past]
  rfl

end Watcher

end ServiceMesh
