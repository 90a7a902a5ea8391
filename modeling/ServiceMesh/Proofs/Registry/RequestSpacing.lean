import Mathlib.Data.List.Chain
import ServiceMesh.Proofs.Registry.Learning

/-! A watcher spares its registry: the starts of two successive requests lie at least the request
delay apart, whatever becomes of the requests and wherever one pass ends and the next begins. What
carries this from one request to the next is the time that is booked for the next one. -/
namespace ServiceMesh

/-! ### Times that keep a distance -/

/-- Times in a row, each at least `gap` behind the one before, and few in any window of time. -/
structure Spaced (gap : Nat) (times : List Nat) : Prop where
  apart : times.IsChain fun earlier later => earlier + gap ≤ later
  sparse : 0 < gap → ∀ opens length : Nat,
    times.countP (fun time => opens ≤ time ∧ time ≤ opens + length) ≤ length / gap + 1

/-- All but one of the times in a window take up a gap of it. -/
theorem length_mul_gap_le {gap opens closes : Nat} {times : List Nat}
    (apart : times.Pairwise fun earlier later => earlier + gap ≤ later)
    (within : ∀ time ∈ times, opens ≤ time ∧ time ≤ closes) (some : times ≠ []) :
    times.length * gap + opens ≤ closes + gap := by
  induction times generalizing opens with
  | nil => contradiction
  | cons first rest ih =>
      obtain ⟨behind, apart⟩ := List.pairwise_cons.mp apart
      obtain ⟨opened, closed⟩ := within first List.mem_cons_self
      by_cases last : rest = []
      · rw [last, List.length_singleton]
        omega
      · have later : ∀ time ∈ rest, opens + gap ≤ time ∧ time ≤ closes := fun time member =>
          ⟨(Nat.add_le_add_right opened gap).trans (behind time member),
            (within time (List.mem_cons_of_mem _ member)).2⟩
        have others := ih apart later last
        rw [List.length_cons, Nat.succ_mul]
        omega

theorem Spaced.of_pairwise {gap : Nat} {times : List Nat}
    (apart : times.Pairwise fun earlier later => earlier + gap ≤ later) : Spaced gap times := by
  refine ⟨apart.isChain, fun positive opens length => ?_⟩
  rw [List.countP_eq_length_filter, ← Nat.add_div_right length positive,
    Nat.le_div_iff_mul_le positive]
  by_cases none : times.filter (fun time => opens ≤ time ∧ time ≤ opens + length) = []
  · rw [none, List.length_nil, Nat.zero_mul]
    exact Nat.zero_le _
  · have within : ∀ time ∈ times.filter (fun time => opens ≤ time ∧ time ≤ opens + length),
        opens ≤ time ∧ time ≤ opens + length :=
      fun time member => of_decide_eq_true (List.mem_filter.mp member).2
    have fits := length_mul_gap_le (apart.filter _) within none
    omega

/-- The times at which requests start. -/
def Log.requestTimes (log : Log) : List Time := log.requests.map Prod.fst

theorem Log.requestTimes_append (first second : Log) :
    Log.requestTimes (first ++ second) = first.requestTimes ++ second.requestTimes := by
  rw [requestTimes, requests, List.filterMap_append, List.map_append]
  rfl

theorem Log.requestTimes_asked (time : Time) (service : Option String) (log : Log) :
    Log.requestTimes ((time, .asked service) :: log) = time :: log.requestTimes := rfl

theorem Log.requestTimes_answered (time : Time) (kind : RequestKind) (outcome : Outcome)
    (log : Log) : Log.requestTimes ((time, .answered kind outcome) :: log) = log.requestTimes := rfl

theorem Log.requestTimes_upTo_sublist (log : Log) (stop : Time) :
    (log.upTo stop).requestTimes.Sublist log.requestTimes :=
  (List.filter_sublist.filterMap _).map _

namespace Watcher

variable {config : WatcherConfig} {gap : Nat} {before between after : Watcher}
  {times others : List Time}

/-! ### Booked times -/

/-- The time before which no request goes out. -/
def booked (watcher : Watcher) : Time := watcher.nextRequest.getD 0

/-- The times of the requests by which a watcher became another. They keep their distance, the first
from the requests before and the last from those to come. -/
structure Paced (gap : Nat) (before : Watcher) (times : List Time) (after : Watcher) : Prop where
  apart : times.Pairwise fun earlier later => earlier + gap ≤ later
  begun : ∀ time ∈ times, before.booked ≤ time
  ended : ∀ time ∈ times, time + gap ≤ after.booked
  onward : before.booked ≤ after.booked

theorem Paced.nothing (kept : after.nextRequest = before.nextRequest) :
    Paced gap before [] after := by
  refine ⟨.nil, fun _ member => by contradiction, fun _ member => by contradiction, ?_⟩
  rw [booked, booked, kept]

theorem Paced.append (first : Paced gap before times between)
    (second : Paced gap between others after) : Paced gap before (times ++ others) after := by
  refine ⟨?_, fun time member => ?_, fun time member => ?_, first.onward.trans second.onward⟩
  · refine List.pairwise_append.mpr ⟨first.apart, second.apart, fun earlier old later new => ?_⟩
    exact (first.ended earlier old).trans (second.begun later new)
  · rcases List.mem_append.mp member with old | new
    · exact first.begun time old
    · exact first.onward.trans (second.begun time new)
  · rcases List.mem_append.mp member with old | new
    · exact (first.ended time old).trans second.onward
    · exact second.ended time new

/-- A request waits for the time that is booked, and books the next one. -/
theorem paced_requested (config : WatcherConfig) (watcher : Watcher) (now : Time) :
    Paced config.requestDelay.nanos watcher [watcher.requestTime now]
      (watcher.requested config (watcher.requestTime now)) := by
  have waits : watcher.booked ≤ watcher.requestTime now := Nat.le_max_right _ _
  refine ⟨List.pairwise_singleton _ _, fun time member => ?_, fun time member => ?_, ?_⟩
  · rwa [List.mem_singleton.mp member]
  · rw [List.mem_singleton.mp member]
    exact Nat.le_refl _
  · exact waits.trans (Nat.le_add_right _ _)

/-- An answer does not touch what is booked. -/
theorem Paced.learned (paced : Paced gap before times between)
    (kept : after.nextRequest = between.nextRequest) : Paced gap before times after := by
  have both := paced.append (Paced.nothing kept)
  rwa [List.append_nil] at both

/-! ### Passes -/

theorem fetch_paced (config : WatcherConfig) (registry : Registry) (names : List String)
    (watcher : Watcher) (now : Time) (changed : Bool) :
    let progress := fetch config registry names watcher now changed
    Paced config.requestDelay.nanos watcher progress.log.requestTimes progress.watcher := by
  induction names generalizing watcher now changed with
  | nil => exact .nothing rfl
  | cons name rest ih =>
      have asked := paced_requested config watcher now
      dsimp only [fetch] at ih ⊢
      rw [Log.requestTimes_asked, Log.requestTimes_answered]
      generalize (registry.instances (watcher.requestTime now) name).within config.requestTimeout =
        reply
      obtain ⟨latency, problem | answer⟩ := reply
      · exact asked.append (ih _ _ _)
      · exact (asked.learned (learnInstances_nextRequest _ _ _)).append (ih _ _ _)

theorem conclude_paced {progress : Progress}
    (paced : Paced gap before progress.log.requestTimes progress.watcher) :
    Paced gap before (conclude progress).log.requestTimes (conclude progress).watcher := by
  have quiet : (conclude progress).log.requestTimes = progress.log.requestTimes := by
    simp only [conclude, Log.requestTimes_append]
    split <;> exact List.append_nil _
  rw [quiet]
  exact paced.learned (publish_kept _ _).2.2.2.2

theorem poll_paced (watcher : Watcher) (config : WatcherConfig) (registry : Registry)
    (now : Time) :
    let pass := watcher.poll config registry now
    Paced config.requestDelay.nanos watcher pass.log.requestTimes pass.watcher := by
  have asked := paced_requested config watcher now
  dsimp only [poll]
  generalize (registry.catalog (watcher.requestTime now)).within config.requestTimeout = reply
  obtain ⟨latency, problem | catalog⟩ := reply
  · exact asked
  · dsimp only
    rw [Log.requestTimes_append]
    -- Taking the catalog leaves the booked time alone, so the requests behind it keep to it.
    have taken (watched : SortedSet String) : Paced config.requestDelay.nanos watcher
        [watcher.requestTime now] ((watcher.requested config (watcher.requestTime now)).learnCatalog
          catalog.index watched) := asked.learned rfl
    exact (taken _).append (conclude_paced (fetch_paced config registry _ _ _ _))

/-! ### Runs -/

/-- What a watcher does in some passes, each with a registry that answers in its own way. -/
def roundsLog (config : WatcherConfig) (watcher : Watcher) : List Round → Log
  | [] => []
  | round :: rest =>
      let pass := watcher.round config round
      pass.log ++ roundsLog config pass.watcher rest

theorem roundsLog_paced (config : WatcherConfig) (watcher : Watcher) (rounds : List Round) :
    ∃ after, Paced config.requestDelay.nanos watcher
      (watcher.roundsLog config rounds).requestTimes after := by
  induction rounds generalizing watcher with
  | nil => exact ⟨watcher, .nothing rfl⟩
  | cons round rest ih =>
      obtain ⟨after, later⟩ := ih (watcher.round config round).watcher
      rw [roundsLog, Log.requestTimes_append]
      exact ⟨after, (poll_paced watcher config round.registry round.start).append later⟩

/-- The passes of a run are rounds, each of which begins when the poll interval is over. -/
theorem exists_rounds (config : WatcherConfig) (registry : Registry) (stop : Time) (fuel : Nat)
    (watcher : Watcher) (now : Time) :
    ∃ rounds, (passes config registry stop fuel watcher now).flatMap Pass.log =
      watcher.roundsLog config rounds := by
  induction fuel generalizing watcher now with
  | zero => exact ⟨[], rfl⟩
  | succ fuel ih =>
      rw [passes]
      split
      case isTrue => exact ⟨[], rfl⟩
      case isFalse =>
        let pass := watcher.poll config registry now
        obtain ⟨rounds, later⟩ := ih pass.watcher (pass.ended + config.pollInterval.nanos)
        refine ⟨⟨registry, now⟩ :: rounds, ?_⟩
        rw [List.flatMap_cons, later]
        rfl

/-- Requests are spaced by the request delay, over any passes of any watcher: passes that begin at any
times and meet any answers, and those of the loop that polls until it is stopped. -/
theorem requests_spaced (config : WatcherConfig) (watcher : Watcher) :
    (∀ rounds, Spaced config.requestDelay.nanos (watcher.roundsLog config rounds).requestTimes) ∧
      ∀ registry start stop,
        Spaced config.requestDelay.nanos (watcher.run config registry start stop).requestTimes := by
  constructor
  · intro rounds
    obtain ⟨_, paced⟩ := roundsLog_paced config watcher rounds
    exact .of_pairwise paced.apart
  · intro registry start stop
    obtain ⟨rounds, ran⟩ :=
      exists_rounds config registry stop (stop - start + 1) watcher start
    obtain ⟨_, paced⟩ := roundsLog_paced config watcher rounds
    rw [run, ran]
    exact .of_pairwise (paced.apart.sublist (Log.requestTimes_upTo_sublist _ stop))

end Watcher

end ServiceMesh
