import ServiceMesh.Registry.Script
import ServiceMesh.Scenario.Services

/-! Registries and peers in scenarios: what they know, how they answer, and how they are asked. -/
namespace ServiceMesh.Scenario

/-- The name of a step. -/
def step : Reader String := fun json => text json "do"

def unknownStep {α : Type} (name : String) : Read α := .error ("unknown step " ++ name)

/-- A failure; none for a request that is never answered. -/
def failure? : Reader (Option RegistryError) := fun json => do
  match ← text json "kind" with
  | "status" => return some (.status (← natD json "status" 0))
  | "timeout" =>
      let nanos ← optD json "ns" natural (millis (← natD json "ms" 0))
      return some (.timeout ((Duration.ofNanos? nanos).getD default))
  | "transport" => return some (.transport (some (← textD json "message" "")))
  | "decode" => return some (.decode (← textD json "message" ""))
  | "hang" => return none
  | other => throw ("unknown failure " ++ other)

def registryInstance : Reader RegistryInstance := fun json => do
  return ⟨← text json "id", ← textD json "address" "", ← word32D json "port" 80,
    ← texts json "tags", ← boolD json "healthy" true⟩

def mapping : Reader InstanceMapping := fun json => do
  let mapping : InstanceMapping := ⟨← textD json "canary_tag" "canary",
    ← textD json "weight_tag" "weight", ← word32D json "default_weight" 50⟩
  if mapping.isAccepted .engine then return mapping else throw "invalid weight tag"

def watcherConfig : Reader WatcherConfig := fun json => do
  return ⟨← millisD json "subscription_delay_ms" 20, ← millisD json "poll_interval_ms" 1000,
    ← millisD json "request_timeout_ms" 5000, ⟨← textSet json "excluded_tags"⟩, ← mapping json⟩

def remoteZoneConfig : Reader RemoteZoneConfig := fun json => do
  return ⟨← millisD json "poll_interval_ms" 1000, ← millisD json "request_timeout_ms" 500,
    ← millisD json "cache_ms" 120000⟩

def behaviour : Reader Behaviour := fun json => do
  return ⟨← opt json "index" fun index => UInt64.ofNat <$> natural index,
    millis (← natD json "latency_ms" 0), ← opt json "fail" failure?⟩

/-- The script of a registry behind a step; none if the step is of another kind. -/
def registryStep? (script : RegistryScript) : Reader (Option RegistryScript) := fun json => do
  match ← step json with
  | "register" =>
      let entry := (← textSet json "tags", ← list json "instances" registryInstance)
      return some { script with registered := script.registered.insert (← text json "service") entry }
  | "deregister" =>
      return some { script with registered := script.registered.erase (← text json "service") }
  | "catalog" => return some { script with catalog := ← behaviour json }
  | "service" =>
      let services := script.services.insert (← text json "service") (← behaviour json)
      return some { script with services := services }
  | _ => return none

/-- The script of a peer behind a step; none if the step is of another kind. -/
def peerStep? (_script : PeerScript) : Reader (Option PeerScript) := fun json => do
  match ← step json with
  | "serve" => return some ⟨← services json, ← behaviour json⟩
  | _ => return none

/-- A script over time, while events change it. -/
def scriptOver {σ : Type} (script : σ) (start : Time) (events : List Json)
    (step? : σ → Reader (Option σ)) : Read (Time → σ) := do
  let (_, changes) ← events.foldlM (fun (script, changes) event => do
    let next := (← step? script event).getD script
    return (next, (start + millis (← natD event "at" 0), next) :: changes)) (script, [])
  return timeline script changes

end ServiceMesh.Scenario
