import ServiceMesh.Registry.Polling

/-! A zone whose services a peer knows. What the peer told last stays in force for a while when it
cannot be asked any more. -/
namespace ServiceMesh

structure RemoteZoneConfig where
  pollInterval : Duration
  requestTimeout : Duration
  cacheDuration : Duration
deriving DecidableEq

/-- `fetchedAt` is the time of the last answer, none if there was none or it is out of date. -/
structure RemoteZone where
  fetchedAt : Option Time
  published : Watched (Option Services)
deriving DecidableEq

namespace RemoteZone

def start : RemoteZone := ⟨none, .start none⟩

instance : Inhabited RemoteZone := ⟨start⟩

/-- How a peer answers requests that are sent at some time. -/
abbrev Peer := Time → Reply Services

/-- Publishes a state if it is another than before. -/
def publish (zone : RemoteZone) (services : Services) : RemoteZone :=
  { zone with published := zone.published.offer (some services) }

/-- Holds if the last answer is as old as may be at a time. -/
def isExpired (zone : RemoteZone) (config : RemoteZoneConfig) (now : Time) : Bool :=
  match zone.fetchedAt with
  | some time => time + config.cacheDuration.nanos ≤ now
  | none => false

structure Pass where
  zone : RemoteZone
  ended : Time
  problem : Option RegistryError
  log : Log

/-- What is done when a state is taken over. -/
def publishing (zone : RemoteZone) (services : Services) (now : Time) : Log :=
  let news :=
    if (zone.publish services).published = zone.published then []
    else [(now, Activity.published services)]
  (now, .counted services.size) :: news

/-- One request. Services without instances are left out of what the peer tells. -/
def poll (zone : RemoteZone) (config : RemoteZoneConfig) (peer : Peer) (now : Time) : Pass :=
  let (latency, answer) := (peer now).within config.requestTimeout
  let ended := now + latency
  let log : Log := [(now, .asked none), (ended, .answered .state (.of answer))]
  match answer with
  | .ok services =>
      let zone := { zone with fetchedAt := some ended }
      let services := services.withoutEmpty
      ⟨zone.publish services, ended, none, log ++ zone.publishing services ended⟩
  | .error problem =>
      if zone.isExpired config ended then
        let zone := { zone with fetchedAt := none }
        ⟨zone.publish ∅, ended, some problem, log ++ zone.publishing ∅ ended⟩
      else ⟨zone, ended, some problem, log⟩

/-- Requests with the poll interval between them, up to a time. -/
def passes (config : RemoteZoneConfig) (peer : Peer) (stop : Time) :
    Nat → RemoteZone → Time → List Pass
  | 0, _, _ => []
  | fuel + 1, zone, now =>
      if stop < now then []
      else
        let pass := zone.poll config peer now
        pass :: passes config peer stop fuel pass.zone (pass.ended + config.pollInterval.nanos)

/-- What is done for a zone from one time to another. The request that is on its way then is broken
off. -/
def run (zone : RemoteZone) (config : RemoteZoneConfig) (peer : Peer) (start stop : Time) : Log :=
  Log.upTo ((passes config peer stop (stop - start + 1) zone start).flatMap Pass.log) stop

end RemoteZone

end ServiceMesh
