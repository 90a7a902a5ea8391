import Mathlib.Data.List.Induction
import ServiceMesh.Proofs.Watched
import ServiceMesh.Zone.Remote

/-! A remote zone over many polls. What it publishes is told by the last answer and by the failures
since: the services of the answer, until a request fails when they are as old as may be, and no
services from then on. -/
namespace ServiceMesh.RemoteZone

/-- A request that is sent at some time to a peer that answers in some way. -/
structure Attempt where
  peer : Peer
  start : Time

namespace Attempt

/-- When the answer is there, or is waited for no longer. -/
def ended (attempt : Attempt) (config : RemoteZoneConfig) : Time :=
  attempt.start + ((attempt.peer attempt.start).within config.requestTimeout).1

/-- The answer. One that takes too long is a failure. -/
def answer (attempt : Attempt) (config : RemoteZoneConfig) : Except RegistryError Services :=
  ((attempt.peer attempt.start).within config.requestTimeout).2

def Fails (attempt : Attempt) (config : RemoteZoneConfig) : Prop :=
  ∃ problem, attempt.answer config = .error problem

theorem answer_eq_ok_iff {attempt : Attempt} {config : RemoteZoneConfig} {services : Services} :
    attempt.answer config = .ok services ↔ ∃ latency ≤ config.requestTimeout.nanos,
      attempt.peer attempt.start = ⟨some latency, .ok services⟩ := by
  unfold answer Reply.within
  obtain ⟨latency | latency, outcome⟩ := attempt.peer attempt.start
  · simp
  · by_cases inTime : latency ≤ config.requestTimeout.nanos
    · simp [inTime]
    · simp [inTime]

end Attempt

variable {config : RemoteZoneConfig} {attempt : Attempt} {services : Services}
  {problem : RegistryError}

theorem poll_ok (zone : RemoteZone) (answered : attempt.answer config = .ok services) :
    let pass := zone.poll config attempt.peer attempt.start
    pass.problem = none ∧
      pass.zone = { zone with fetchedAt := some (attempt.ended config) }.publish
        services.withoutEmpty := by
  simp only [Attempt.answer] at answered
  simp only [poll, answered, Attempt.ended]
  exact ⟨trivial, trivial⟩

theorem poll_error (zone : RemoteZone) (failed : attempt.answer config = .error problem) :
    let pass := zone.poll config attempt.peer attempt.start
    pass.problem = some problem ∧
      pass.zone = if zone.isExpired config (attempt.ended config) then
        { zone with fetchedAt := none }.publish ∅ else zone := by
  simp only [Attempt.answer] at failed
  simp only [poll, failed, Attempt.ended]
  split
  case isTrue expired => exact ⟨rfl, (if_pos expired).symm⟩
  case isFalse fresh => exact ⟨rfl, (if_neg fresh).symm⟩

/-- A zone behind some polls. -/
def after (config : RemoteZoneConfig) (attempts : List Attempt) : RemoteZone :=
  attempts.foldl (fun zone attempt => (zone.poll config attempt.peer attempt.start).zone) start

theorem after_snoc (config : RemoteZoneConfig) (attempts : List Attempt) (attempt : Attempt) :
    after config (attempts ++ [attempt]) =
      ((after config attempts).poll config attempt.peer attempt.start).zone := by
  rw [after, List.foldl_append]
  rfl

/-- One of some requests was over when an answer of that time was as old as may be. -/
def Outlives (config : RemoteZoneConfig) (time : Time) (later : List Attempt) : Prop :=
  ∃ attempt ∈ later, time + config.cacheDuration.nanos ≤ attempt.ended config

instance (time : Time) (later : List Attempt) : Decidable (Outlives config time later) :=
  inferInstanceAs (Decidable (∃ attempt ∈ later, _))

theorem outlives_snoc {time : Time} {later : List Attempt} :
    Outlives config time (later ++ [attempt]) ↔
      Outlives config time later ∨ time + config.cacheDuration.nanos ≤ attempt.ended config := by
  simp [Outlives, or_and_right, exists_or]

/-- Without an answer there is nothing. -/
theorem after_failures {attempts : List Attempt} (fail : ∀ attempt ∈ attempts, attempt.Fails config) :
    after config attempts = start := by
  induction attempts using List.reverseRecOn with
  | nil => rfl
  | append_singleton attempts attempt ih =>
      obtain ⟨problem, failed⟩ := fail attempt (by simp)
      rw [after_snoc, ih fun other member => fail other (by simp [member]),
        (poll_error _ failed).2]
      rfl

/-- An answer stays in force until a request fails too late. -/
theorem after_answer (earlier : List Attempt) {later : List Attempt}
    (answered : attempt.answer config = .ok services)
    (fail : ∀ other ∈ later, other.Fails config) :
    let zone := after config (earlier ++ attempt :: later)
    let outlived := Outlives config (attempt.ended config) later
    zone.fetchedAt = (if outlived then none else some (attempt.ended config)) ∧
      zone.published.value = some (if outlived then ∅ else services.withoutEmpty) := by
  induction later using List.reverseRecOn with
  | nil =>
      dsimp only
      rw [after_snoc, (poll_ok _ answered).2, if_neg (by simp [Outlives]),
        if_neg (by simp [Outlives])]
      exact ⟨rfl, Watched.value_offer _ _⟩
  | append_singleton later last ih =>
      obtain ⟨fetchedAt, published⟩ := ih fun other member => fail other (by simp [member])
      obtain ⟨problem, failed⟩ := fail last (by simp)
      dsimp only
      rw [← List.cons_append, ← List.append_assoc, after_snoc, (poll_error _ failed).2, isExpired]
      by_cases outlived : Outlives config (attempt.ended config) later
      · rw [if_pos outlived] at fetchedAt published
        rw [if_pos (outlives_snoc.mpr (.inl outlived)), if_pos (outlives_snoc.mpr (.inl outlived))]
        simpa [fetchedAt] using published
      · rw [if_neg outlived] at fetchedAt published
        simp only [fetchedAt, outlives_snoc, outlived, false_or, decide_eq_true_eq]
        split
        case isTrue late => exact ⟨rfl, Watched.value_offer _ _⟩
        case isFalse fresh => exact ⟨fetchedAt, published⟩

/-- Requests all fail, or one of them is the last that is answered. -/
theorem answered_last (config : RemoteZoneConfig) (attempts : List Attempt) :
    (∀ attempt ∈ attempts, attempt.Fails config) ∨
      ∃ earlier attempt services later, attempts = earlier ++ attempt :: later ∧
        attempt.answer config = .ok services ∧ ∀ other ∈ later, other.Fails config := by
  induction attempts using List.reverseRecOn with
  | nil => exact .inl fun _ member => absurd member List.not_mem_nil
  | append_singleton attempts last ih =>
      cases answered : last.answer config with
      | ok services =>
          exact .inr ⟨attempts, last, services, [], rfl, answered,
            fun _ member => absurd member List.not_mem_nil⟩
      | error problem =>
          have extend {others : List Attempt} (fail : ∀ other ∈ others, other.Fails config) :
              ∀ other ∈ others ++ [last], other.Fails config := by
            intro other member
            rcases List.mem_append.mp member with before | same
            · exact fail other before
            · exact List.mem_singleton.mp same ▸ ⟨problem, answered⟩
          rcases ih with fail | ⟨earlier, attempt, services, later, rfl, ok, fail⟩
          · exact .inl (extend fail)
          · exact .inr ⟨earlier, attempt, services, later ++ [last], by simp, ok, extend fail⟩

/-- A zone whose answer is as old as may be has one. -/
theorem answered_of_isExpired {attempts : List Attempt} {now : Time}
    (expired : (after config attempts).isExpired config now = true) :
    ∃ earlier attempt later services, attempts = earlier ++ attempt :: later ∧
      attempt.answer config = .ok services ∧ (∀ other ∈ later, other.Fails config) ∧
      attempt.ended config + config.cacheDuration.nanos ≤ now := by
  rcases answered_last config attempts with fail |
    ⟨earlier, attempt, services, later, rfl, answered, fail⟩
  · rw [after_failures fail] at expired
    contradiction
  · refine ⟨earlier, attempt, later, services, rfl, answered, fail, ?_⟩
    rw [isExpired, (after_answer earlier answered fail).1] at expired
    by_cases outlived : Outlives config (attempt.ended config) later
    · simp [outlived] at expired
    · simpa [outlived] using expired

theorem poll_revision (zone : RemoteZone) (config : RemoteZoneConfig) (attempt : Attempt) :
    let pass := zone.poll config attempt.peer attempt.start
    pass.zone.published.revision = zone.published.revision +
      if pass.zone.published.value = zone.published.value then 0 else 1 := by
  dsimp only
  cases answered : attempt.answer config with
  | ok services =>
      rw [(poll_ok zone answered).2, publish, Watched.revision_offer, Watched.value_offer]
  | error problem =>
      rw [(poll_error zone answered).2]
      split
      · rw [publish, Watched.revision_offer, Watched.value_offer]
      · simp

theorem poll_problem_eq_none_iff (zone : RemoteZone) (config : RemoteZoneConfig)
    (attempt : Attempt) : (zone.poll config attempt.peer attempt.start).problem = none ↔
      ∃ latency services, latency ≤ config.requestTimeout.nanos ∧
        attempt.peer attempt.start = ⟨some latency, .ok services⟩ := by
  constructor
  · intro succeeds
    cases answered : attempt.answer config with
    | ok services =>
        obtain ⟨latency, inTime, replied⟩ := Attempt.answer_eq_ok_iff.mp answered
        exact ⟨latency, services, inTime, replied⟩
    | error problem =>
        rw [(poll_error zone answered).1] at succeeds
        contradiction
  · rintro ⟨latency, services, inTime, replied⟩
    exact (poll_ok zone (Attempt.answer_eq_ok_iff.mpr ⟨latency, inTime, replied⟩)).1

/-- Polls with any outcomes. Nothing is published before the first answer. From then on it is what the
last answer told, without the services that have no instances, or no services at all once a request
has failed when that answer was as old as may be; whichever request comes next, its failure changes
nothing else. Whoever follows the zone hears of every difference, once, and of nothing else, and a
request is a success exactly if an answer comes in time. -/
theorem cached_until_expired (config : RemoteZoneConfig) (attempts : List Attempt) :
    let zone := after config attempts
    ((∀ attempt ∈ attempts, attempt.Fails config) → zone.published.value = none) ∧
    (∀ earlier attempt later services, attempts = earlier ++ attempt :: later →
      attempt.answer config = .ok services → (∀ other ∈ later, other.Fails config) →
      zone.published.value = some (
        if ∃ other ∈ later, attempt.ended config + config.cacheDuration.nanos ≤ other.ended config
        then ∅ else services.withoutEmpty)) ∧
    ∀ next : Attempt,
      let pass := zone.poll config next.peer next.start
      (next.Fails config → pass.zone.published.value ≠ zone.published.value →
        pass.zone.published.value = some ∅ ∧
        ∃ earlier attempt later services, attempts = earlier ++ attempt :: later ∧
          attempt.answer config = .ok services ∧ (∀ other ∈ later, other.Fails config) ∧
          attempt.ended config + config.cacheDuration.nanos ≤ next.ended config) ∧
      pass.zone.published.revision = zone.published.revision +
        (if pass.zone.published.value = zone.published.value then 0 else 1) ∧
      (pass.problem = none ↔ ∃ latency services, latency ≤ config.requestTimeout.nanos ∧
        next.peer next.start = ⟨some latency, .ok services⟩) := by
  refine ⟨fun fail => ?_, ?_, fun next => ⟨fun failed differs => ?_, poll_revision _ _ _,
    poll_problem_eq_none_iff _ _ _⟩⟩
  · rw [after_failures fail]
    rfl
  · rintro earlier attempt later services rfl answered fail
    exact (after_answer earlier answered fail).2
  · obtain ⟨problem, failed⟩ := failed
    rw [(poll_error _ failed).2] at differs ⊢
    split at differs
    case isFalse => exact absurd rfl differs
    case isTrue expired =>
      rw [if_pos expired]
      exact ⟨Watched.value_offer _ _, answered_of_isExpired expired⟩

end ServiceMesh.RemoteZone
