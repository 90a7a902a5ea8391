import ServiceMesh.ConsumerGroup
import ServiceMesh.Duration.Parser
import ServiceMesh.Fault.Basic
import ServiceMesh.Pattern.Engine
import ServiceMesh.Pipeline.Basic
import ServiceMesh.Scenario.Reader
import ServiceMesh.Zone.Aggregation

/-! Services, zones, groups and faults in scenarios. -/
namespace ServiceMesh.Scenario

/-- Nanoseconds of some milliseconds. -/
def millis (n : Nat) : Nat := n * 1_000_000

/-- A field that counts milliseconds. -/
def millisD (json : Json) (key : String) (fallback : Nat) : Read Duration := do
  return .ofMillis (UInt64.ofNat (← natD json key fallback))

/-- The time that passes, in nanoseconds. -/
def elapsed : Reader Nat := fun json => do return millis (← natD json "ms" 0) + (← natD json "ns" 0)

def duration (json : Json) (key : String) : Read Duration := do
  (Duration.parse (← text json key)).mapError (·.message)

def instance_ : Reader Instance := fun json => do
  return {
    id := ← text json "id"
    tags := ← textSet json "tags"
    address := ← textD json "address" ""
    port := ← word32D json "port" 80
    healthy := ← boolD json "healthy" true
    regular := ← boolD json "regular" true
    canary := ← boolD json "canary" false
    weight := ← word32D json "weight" 1 }

def service : Reader Service := fun json => do
  return ⟨← text json "name", SortedSet.ofList (← list json "instances" instance_)⟩

/-- The services in the field of that name. -/
def services : Reader Services := fun json => Services.ofList <$> list json "services" service

def locality : Reader Locality := fun json =>
  choice json "locality" "local" [("local", .local), ("remote", .remote)]

def zone : Reader ZoneState := fun json => do
  return ⟨← text json "zone", ← locality json, ← services json⟩

def mesh (json : Json) (key : String) : Read MultiZone := MultiZone.ofList <$> list json key zone

/-- A zone of which nothing is known yet. -/
def feed : Reader Feed := fun json => do return .start (← text json "zone") (← locality json)

/-- A group by its text or by its parts. -/
def group : Reader ConsumerGroup
  | .text content => do
      (ConsumerGroup.parse (← string (.text content))).mapError (·.message)
  | json => do
      let view ← choice json "view" "global" [("global", .global), ("local", .local)]
      let dependencies ← opt json "deps" fun _ => textSet json "deps"
      return ⟨← text json "name", view, dependencies.elim .all .services⟩

def fault : Reader Fault := fun json => do
  return ⟨← text json "id", ⟨← textD json "source" "*"⟩, ⟨← textD json "target" "*"⟩,
    ← duration json "delay", ← duration json "duration"⟩

/-- A pipeline by its transforms, the standard one if none are named; none if a pattern of its
denylist is not valid. -/
def pipeline? : Reader (Option Pipeline) := fun json => do
  let patterns ← opt json "excluded" fun _ => texts json "excluded"
  let denylist : Except PatternError (Option Denylist) := match patterns with
    | none => .ok none
    | some patterns => (Denylist.ofPatterns .engine patterns).map some
  match denylist with
  | .error _ => return none
  | .ok denylist =>
      if (field? json "transforms").isNone then return some (.standard denylist)
      let known := [("exclude", Transform.excludeServices (denylist.getD .empty)),
        ("empty_address", .emptyAddress), ("invalid_port", .invalidPort),
        ("ip_address", .ipAddress), ("merge", .mergeInstances)]
      return some ⟨(← texts json "transforms").filterMap fun name => known.lookup name⟩

end ServiceMesh.Scenario
