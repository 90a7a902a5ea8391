import ServiceMesh.Admin.Handler
import ServiceMesh.Snapshot.UpdateLoop
import ServiceMesh.Zone.Aggregation
import ServiceMesh.Zone.Remote

/-! The control plane as a whole: sources of services in each zone, the mesh put together from
them, the snapshots built from the mesh, and the admin API over all of it. -/
namespace ServiceMesh

/-- Where the services of a zone come from: a registry that is watched, or a peer. -/
inductive ZoneSource where
  | registry (watcher : Watcher)
  | peer (zone : RemoteZone)
deriving DecidableEq

/-- How the registry and the peer of a zone answer. -/
structure Surroundings where
  registry : Registry
  peer : RemoteZone.Peer

structure SourceConfig where
  watcher : WatcherConfig
  remote : RemoteZoneConfig
deriving DecidableEq

namespace ZoneSource

def published : ZoneSource → Watched (Option Services)
  | .registry watcher => watcher.published
  | .peer zone => zone.published

structure Pass where
  source : ZoneSource
  ended : Time
  problem : Option RegistryError
  log : Log

/-- Asks for the services of a zone once. -/
def poll (source : ZoneSource) (config : SourceConfig) (around : Surroundings) (now : Time) : Pass :=
  match source with
  | .registry watcher =>
      let pass := watcher.poll config.watcher around.registry now
      ⟨.registry pass.watcher, pass.ended, pass.problem, pass.log⟩
  | .peer zone =>
      let pass := zone.poll config.remote around.peer now
      ⟨.peer pass.zone, pass.ended, pass.problem, pass.log⟩

end ZoneSource

/-- The feeds of `zones` belong to the sources one by one. -/
structure ControlPlane where
  config : SourceConfig
  sources : List ZoneSource
  zones : Zones
  updater : Updater
  faults : FaultService
  history : History

namespace ControlPlane

/-- A control plane over some zones of which nothing is known yet. -/
def start (config : SourceConfig) (zones : List (Feed × ZoneSource)) (pipeline : Pipeline)
    (builder : BuilderConfig) : ControlPlane where
  config := config
  sources := zones.map (·.2)
  zones := .start (zones.map (·.1)) pipeline
  updater := .start builder
  faults := .start
  history := []

/-- Asks for the services of a zone once; what is news reaches the zone's feed. -/
def poll (plane : ControlPlane) (index : Nat) (around : Surroundings) (now : Time) :
    Option (ZoneSource.Pass × ControlPlane) := do
  let source ← plane.sources[index]?
  let feed ← plane.zones.feeds[index]?
  let pass := source.poll plane.config around now
  let feed := { feed with latest := pass.source.published }
  return (pass, { plane with
    sources := plane.sources.set index pass.source
    zones := { plane.zones with feeds := plane.zones.feeds.set index feed }
    history := plane.history ++ pass.log.map fun entry => (feed.zone, entry.2) })

/-- Puts the mesh together. -/
def aggregate (plane : ControlPlane) : ControlPlane := { plane with zones := plane.zones.aggregate }

/-- Brings the snapshots up to date. -/
def update (plane : ControlPlane) (now : Time) : ControlPlane :=
  let (updater, faults) := plane.updater.update plane.zones.published plane.faults now
  { plane with updater := updater, faults := faults }

/-- The samples of all that is counted. -/
def samples (plane : ControlPlane) : List Sample :=
  (plane.history.samples (plane.zones.feeds.map Feed.zone)).map (·.withPrefix "registry_") ++
    plane.updater.samples.map (·.withPrefix "snapshot_")

def admin (plane : ControlPlane) : Admin.Api :=
  ⟨plane.updater.ready, plane.faults, plane.zones.localServices.value, plane.samples⟩

/-- Answers a request to the admin API. -/
def handle (plane : ControlPlane) (now : Time) (freshId : String) (request : Admin.Request) :
    Admin.Response × ControlPlane :=
  let (response, faults) := plane.admin.handle now freshId request
  (response, { plane with faults := faults })

end ControlPlane

end ServiceMesh
