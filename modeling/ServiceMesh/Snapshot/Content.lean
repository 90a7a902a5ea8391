import ServiceMesh.ConsumerGroup
import ServiceMesh.Fault.Basic
import ServiceMesh.Resource.Basic
import ServiceMesh.Zone

/-! The resources that follow from the state of the mesh: first those of all services, then those
that one group receives. -/
namespace ServiceMesh

/-- `http2Tag` names the tag of instances that speak HTTP/2; without it none do. -/
structure BuilderConfig where
  clusterConnectTimeout : Duration
  http2Tag : Option String
  wildcardExcludedPrefixes : List String
  neverRemoveClusters : Bool
deriving DecidableEq

/-- The cluster and the endpoints of every service. -/
structure GlobalSnapshot where
  clusters : SortedMap String Cluster
  endpoints : SortedMap String LoadAssignment
deriving DecidableEq

/-- The metadata by which proxies choose among endpoints. -/
def Instance.metadata (i : Instance) : SortedMap String String :=
  SortedMap.ofList ((if i.regular then [("lb_regular", "true")] else []) ++
    (if i.canary then [("canary", "1")] else []))

def Instance.toEndpoint (i : Instance) : LbEndpoint where
  address := i.address
  port := i.port
  weight := some i.weight
  health := if i.healthy then HealthStatus.healthy else HealthStatus.unhealthy
  metadata := i.metadata
  tags := i.tags.toList

/-- The endpoints of a service in a zone, none if it has no instances there. -/
def ZoneState.endpointsOf? (zone : ZoneState) (service : String) : Option LocalityEndpoints :=
  match zone.services.get? service with
  | none => none
  | some found =>
      if found.isEmpty then none
      else some ⟨zone.zone, zone.locality.priority, found.instances.toList.map Instance.toEndpoint⟩

def MultiZone.assignment (mesh : MultiZone) (service : String) : LoadAssignment :=
  ⟨service, mesh.zones.filterMap (·.endpointsOf? service)⟩

/-- The instances of a service in all zones. -/
def MultiZone.instancesOf (mesh : MultiZone) (service : String) : List Instance :=
  mesh.zones.flatMap fun zone =>
    match zone.services.get? service with
    | none => []
    | some found => found.instances.toList

namespace BuilderConfig

/-- Holds if the proxies of a service speak HTTP/2: all of its instances do, and a service without
instances stays with what it was. -/
def usesHttp2 (config : BuilderConfig) (instances : List Instance) (previously : Bool) : Bool :=
  match config.http2Tag with
  | none => false
  | some tag => if instances.isEmpty then previously else instances.all (·.tags.contains tag)

def cluster (config : BuilderConfig) (mesh : MultiZone) (previous : Option GlobalSnapshot)
    (service : String) : Cluster :=
  let before := (previous.bind (·.clusters.get? service)).map Cluster.http2
  ⟨service, config.clusterConnectTimeout.toMillis,
    config.usesHttp2 (mesh.instancesOf service) (before.getD false)⟩

/-- The clusters that stay although their services are gone. -/
def retained (config : BuilderConfig) (mesh : MultiZone) (previous : Option GlobalSnapshot) :
    List (String × Cluster) :=
  match previous with
  | none => []
  | some previous =>
      if config.neverRemoveClusters then
        previous.clusters.entries.filter fun entry => !mesh.serviceNames.contains entry.1
      else []

/-- The resources of all services. -/
def global (config : BuilderConfig) (mesh : MultiZone) (previous : Option GlobalSnapshot) :
    GlobalSnapshot :=
  let names := mesh.serviceNames.toList
  let retained := config.retained mesh previous
  ⟨SortedMap.ofList (names.map (fun name => (name, config.cluster mesh previous name)) ++ retained),
    SortedMap.ofList (names.map (fun name => (name, mesh.assignment name)) ++
      retained.map fun entry => (entry.1, ⟨entry.1, []⟩))⟩

/-- The services that a group depends on, out of those that are known. -/
def dependencies (config : BuilderConfig) (group : ConsumerGroup) (global : GlobalSnapshot) :
    List String :=
  match group.dependencies with
  | .all => global.clusters.keys.filter fun name =>
      !config.wildcardExcludedPrefixes.any fun front => front.toList.isPrefixOf name.toList
  | .services names => names.toList.filter global.clusters.contains

end BuilderConfig

/-- The endpoints of the local zone alone. -/
def LoadAssignment.localOnly (assignment : LoadAssignment) : LoadAssignment :=
  { assignment with
    localities := assignment.localities.filter (·.priority == Locality.local.priority) }

def View.restrict (view : View) (assignment : LoadAssignment) : LoadAssignment :=
  match view with
  | .global => assignment
  | .local => assignment.localOnly

/-- The rule that makes proxies of a fault's source suffer it on their way to a service. -/
def Fault.rule (fault : Fault) (service : String) : FaultRule :=
  ⟨fault.id, service, [fault.source.pattern], fault.delay.toMillis, 100⟩

/-- The rules of the faults that affect a service, by id. -/
def faultRules (service : String) (faults : List Fault) : List FaultRule :=
  ((faults.filter (·.target.selects service)).map (·.rule service)).mergeSort fun a b =>
    (compare a.faultId b.faultId).isLE

def virtualHost (faults : List Fault) (service : String) : VirtualHost :=
  ⟨service, [service], [⟨"/", service⟩], faultRules service faults⟩

/-- The resources that a group receives. -/
structure SnapshotContent where
  clusters : List Cluster
  endpoints : List LoadAssignment
  routes : List RouteConfiguration
deriving DecidableEq

/-- The name of the routes by which proxies send requests out. -/
def egressRoutes : String := "default_routes"

def BuilderConfig.content (config : BuilderConfig) (group : ConsumerGroup) (global : GlobalSnapshot)
    (faults : List Fault) : SnapshotContent :=
  let services := config.dependencies group global
  ⟨services.filterMap global.clusters.get?,
    (services.filterMap global.endpoints.get?).map group.view.restrict,
    [⟨egressRoutes, services.map (virtualHost faults)⟩]⟩

end ServiceMesh
