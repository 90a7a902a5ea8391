import ServiceMesh.Snapshot.Updater

/-! When snapshots are brought up to date. After each update the loop rests for the sample time;
then it listens for something that is new, and while faults are in force no longer than the sample
time, because they end without notice. -/
namespace ServiceMesh

/-- The states of the mesh as they are published, and whether no more will come. -/
structure MeshFeed where
  latest : Watched (Option MultiZone)
  closed : Bool
deriving DecidableEq

def MeshFeed.start : MeshFeed := ⟨.start none, false⟩

inductive Phase where
  | resting (wakeAt : Time)
  | listening (deadline : Option Time)
  | ended
deriving DecidableEq

structure UpdateLoop where
  updater : Updater
  mesh : MeshFeed
  faults : FaultService
  sample : Duration
  phase : Phase

namespace UpdateLoop

/-- Updates now and rests. -/
def update (run : UpdateLoop) (now : Time) : UpdateLoop :=
  let (updater, faults) := run.updater.update run.mesh.latest run.faults now
  { run with updater := updater, faults := faults, phase := .resting (now + run.sample.nanos) }

/-- Listens from now on. -/
def listen (run : UpdateLoop) (now : Time) : UpdateLoop :=
  let active := match run.updater.last with
    | some last => !last.faults.isEmpty
    | none => false
  { run with phase := .listening (if active then some (now + run.sample.nanos) else none) }

/-- The loop behind the first of the things that it listens for, none if there is nothing: a new state
of the mesh, a closed feed, new faults, a new group, the deadline. -/
def hear (run : UpdateLoop) (deadline : Option Time) (now : Time) : Option UpdateLoop :=
  let updater := run.updater
  if run.mesh.latest.isNewsSince updater.seenMesh then
    some (update { run with updater := { updater with seenMesh := run.mesh.latest.revision } } now)
  else if run.mesh.closed then some { run with phase := .ended }
  else if run.faults.revision ≠ updater.seenFaults then
    some (update { run with updater := { updater with seenFaults := run.faults.revision } } now)
  else if updater.store.groupAdded then
    let store := { updater.store with groupAdded := false }
    some (update { run with updater := { updater with store := store } } now)
  else if deadline.any (· ≤ now) then some (run.update now)
  else none

/-- The loop behind its next step, none if it waits for a later time or for news. -/
def step? (run : UpdateLoop) (now : Time) : Option UpdateLoop :=
  match run.phase with
  | .resting wakeAt => if wakeAt ≤ now then some (run.listen now) else none
  | .listening deadline => run.hear deadline now
  | .ended => none

/-- Steps at one time. With a sample time above zero two of them are all there can be; otherwise each
kind of news is heard once. -/
def stepWithin : Nat → Time → UpdateLoop → UpdateLoop
  | 0, _, run => run
  | fuel + 1, now, run =>
      match run.step? now with
      | some next => stepWithin fuel now next
      | none => run

def proceed (run : UpdateLoop) (now : Time) : UpdateLoop := stepWithin 8 now run

/-- The next time at which the loop wakes up on its own. -/
def timer (run : UpdateLoop) : Option Time :=
  match run.phase with
  | .resting wakeAt => some wakeAt
  | .listening deadline => deadline
  | .ended => none

/-- Lets timers up to a time go off. -/
def advanceWithin : Nat → Time → UpdateLoop → UpdateLoop
  | 0, _, run => run
  | fuel + 1, stop, run =>
      match run.timer with
      | none => run
      | some time => if time ≤ stop then advanceWithin fuel stop (run.proceed time) else run

/-- The loop at a later time, if nothing else happens. Two timers lie a sample time apart or follow on
each other, so the fuel suffices. -/
def advance (run : UpdateLoop) (now stop : Time) : UpdateLoop :=
  advanceWithin (2 * ((stop - now) / run.sample.nanos + 2)) stop run

end UpdateLoop

end ServiceMesh
