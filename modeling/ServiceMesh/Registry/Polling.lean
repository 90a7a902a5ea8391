import ServiceMesh.Registry.Watcher

/-! Passes of a watcher over its registry: first the catalog, then each watched service by name.
Between the starts of two requests lies at least the request delay. -/
namespace ServiceMesh

/-- How a request goes if nobody gives up waiting: the time until the answer, none if it never comes,
and the answer. -/
structure Reply (α : Type) where
  latency : Option Nat
  outcome : Except RegistryError α

/-- The time until an answer or until the timeout, and the answer. An answer just at the timeout is in
time. -/
def Reply.within {α : Type} (reply : Reply α) (timeout : Duration) : Nat × Except RegistryError α :=
  match reply.latency with
  | none => (timeout.nanos, .error (.timeout timeout))
  | some latency =>
      if latency ≤ timeout.nanos then (latency, reply.outcome)
      else (timeout.nanos, .error (.timeout timeout))

/-- How a registry answers requests that are sent at some time. -/
structure Registry where
  catalog : Time → Reply Catalog
  instances : Time → String → Reply InstanceList

structure WatcherConfig where
  requestDelay : Duration
  pollInterval : Duration
  requestTimeout : Duration
  policy : WatchPolicy
  mapping : InstanceMapping
deriving DecidableEq

namespace Watcher

/-- The time of the next request, which keeps its distance from the one before. -/
def requestTime (watcher : Watcher) (now : Time) : Time := max now (watcher.nextRequest.getD 0)

/-- Books a request, so that the next one keeps its distance. -/
def requested (watcher : Watcher) (config : WatcherConfig) (time : Time) : Watcher :=
  { watcher with nextRequest := some (time + config.requestDelay.nanos) }

/-- What a watcher is after some requests, at what time, and what it did. -/
structure Progress where
  watcher : Watcher
  time : Time
  changed : Bool
  log : Log

/-- Asks for the services of a list, one after the other. -/
def fetch (config : WatcherConfig) (registry : Registry) :
    List String → Watcher → Time → Bool → Progress
  | [], watcher, now, changed => ⟨watcher, now, changed, []⟩
  | name :: rest, watcher, now, changed =>
      let sent := watcher.requestTime now
      let watcher := watcher.requested config sent
      let (latency, answer) := (registry.instances sent name).within config.requestTimeout
      let (learned, watcher) := match answer with
        | .ok answer => watcher.learnInstances config.mapping name answer
        | .error _ => (false, watcher)
      let later := fetch config registry rest watcher (sent + latency) (changed || learned)
      { later with log :=
          (sent, .asked (some name)) ::
            (sent + latency, .answered .instances (.of answer)) :: later.log }

/-- A pass: what the watcher is behind it, when it ended, the problem that cut it short, and what was
done. -/
structure Pass where
  watcher : Watcher
  ended : Time
  problem : Option RegistryError
  log : Log

/-- The end of a pass that saw all services. -/
def conclude (progress : Progress) : Pass :=
  let watcher := progress.watcher.publish progress.changed
  let news :=
    if watcher.published = progress.watcher.published then []
    else [(progress.time, Activity.published watcher.services)]
  ⟨watcher, progress.time, none,
    progress.log ++ (progress.time, .counted watcher.services.size) :: news⟩

/-- One pass. If the catalog cannot be had, the watcher stays with what it knows. -/
def poll (watcher : Watcher) (config : WatcherConfig) (registry : Registry) (now : Time) : Pass :=
  let sent := watcher.requestTime now
  let watcher := watcher.requested config sent
  let (latency, answer) := (registry.catalog sent).within config.requestTimeout
  let log : Log := [(sent, .asked none), (sent + latency, .answered .catalog (.of answer))]
  match answer with
  | .error problem => ⟨watcher, sent + latency, some problem, log⟩
  | .ok catalog =>
      let watched := watcher.choose config.policy catalog
      let pass := conclude (fetch config registry watched.toList
        (watcher.learnCatalog catalog.index watched) (sent + latency) (watcher.hasLost watched))
      { pass with log := log ++ pass.log }

/-- Passes with the poll interval between them, up to a time. Each takes some time, so `fuel` need not
exceed the time there is. -/
def passes (config : WatcherConfig) (registry : Registry) (stop : Time) :
    Nat → Watcher → Time → List Pass
  | 0, _, _ => []
  | fuel + 1, watcher, now =>
      if stop < now then []
      else
        let pass := watcher.poll config registry now
        pass :: passes config registry stop fuel pass.watcher (pass.ended + config.pollInterval.nanos)

/-- What a watcher does from one time to another. The pass that is going on then is broken off. -/
def run (watcher : Watcher) (config : WatcherConfig) (registry : Registry) (start stop : Time) :
    Log :=
  Log.upTo ((passes config registry stop (stop - start + 1) watcher start).flatMap Pass.log) stop

end Watcher

end ServiceMesh
