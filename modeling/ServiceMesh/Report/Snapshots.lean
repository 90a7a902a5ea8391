import ServiceMesh.Report.Basic
import ServiceMesh.Snapshot.Updater

/-! Reports about resources and snapshots. -/
namespace ServiceMesh.Report

def cluster (cluster : Cluster) : Json :=
  .record [("name", .ofString cluster.name),
    ("connect_timeout_ms", big cluster.connectTimeoutMillis.toNat), ("http2", .bool cluster.http2)]

def endpoint (endpoint : LbEndpoint) : Json :=
  .record [
    ("address", .ofString endpoint.address), ("port", .ofNat endpoint.port.toNat),
    ("load_balancing_weight", orNull (fun weight => .ofNat weight.toNat) endpoint.weight),
    ("health_status", .number (.integer endpoint.health.toInt)),
    ("metadata", .record (endpoint.metadata.entries.map fun (key, value) => (key, .ofString value))),
    ("tags", texts endpoint.tags)]

def localityEndpoints (locality : LocalityEndpoints) : Json :=
  .record [("zone", .ofString locality.zone), ("priority", .ofNat locality.priority.toNat),
    ("lb_endpoints", list endpoint locality.endpoints)]

def assignment (assignment : LoadAssignment) : Json :=
  .record [("cluster_name", .ofString assignment.cluster),
    ("endpoints", list localityEndpoints assignment.localities)]

def route (route : Route) : Json :=
  .record [("prefix", .ofString route.pathPrefix), ("cluster", .ofString route.cluster)]

def faultRule (rule : FaultRule) : Json :=
  .record [("fault_id", .ofString rule.faultId), ("upstream_cluster", .ofString rule.cluster),
    ("downstream_nodes", texts rule.nodes),
    ("fixed_delay_ms", big rule.fixedDelayMillis.toNat), ("percentage", .ofNat rule.percentage.toNat)]

def virtualHost (host : VirtualHost) : Json :=
  .record [("name", .ofString host.name), ("domains", texts host.domains),
    ("routes", list route host.routes), ("faults", list faultRule host.faults)]

def routes (routes : RouteConfiguration) : Json :=
  .record [("name", .ofString routes.name), ("virtual_hosts", list virtualHost routes.virtualHosts)]

/-- Two digits of a byte. -/
def hexByte (byte : UInt8) : List Char := [Json.hexDigit (byte.toNat / 16), Json.hexDigit (byte.toNat % 16)]

def wireResource (resource : WireResource) : Json :=
  .array [.ofString resource.typeUrl, .ofString (String.ofList (resource.content.flatMap hexByte))]

/-- The wire form of a collection, null if it was not computed. -/
def wire (form : Option (List WireResource)) : Json := orNull (list wireResource) form

def versions (versions : Versions) : Json :=
  texts [versions.clusters, versions.endpoints, versions.routes]

/-- How much of a snapshot is reported: names of clusters in place of all resources, and the wire
forms beside them. -/
structure Detail where
  brief : Bool
  wire : Bool

def snapshotFields (caches : ResourceCaches) (detail : Detail) (snapshot : Snapshot) :
    List (String × Json) :=
  [("group", .ofString snapshot.group.render), ("generation", .ofNat snapshot.generation),
    ("versions", versions snapshot.versions)] ++
  (if detail.brief then [("clusters", texts snapshot.clusterNames)]
  else [("clusters", list cluster snapshot.clusters.resources),
    ("endpoints", list assignment snapshot.endpoints.resources),
    ("routes", list routes snapshot.routes.resources)]) ++
  (if detail.wire then [("wire", .array [wire (caches.clusters.wire? snapshot.clusters),
    wire (caches.endpoints.wire? snapshot.endpoints), wire (caches.routes.wire? snapshot.routes)])]
  else [])

def snapshot (caches : ResourceCaches) (detail : Detail) (found : Option Snapshot) : Json :=
  orNull (fun found => .record (snapshotFields caches detail found)) found

def groups (groups : SortedSet ConsumerGroup) : Json :=
  texts (groups.toList.map ConsumerGroup.render)

/-- What the caches hold while `held` is held. -/
def caches (caches : ResourceCaches) (held : Holdings) : Json :=
  .record [("live", list .ofNat (caches.liveEntries held)),
    ("serializations", list .ofNat caches.serializations)]

/-- The state of all groups, with the news there is for followers. -/
def updater (updater : Updater) (followers : List (Option Follower)) (detail : Detail) : Json :=
  let store := updater.store
  let group (group : ConsumerGroup) : Json :=
    match store.snapshot? group with
    | some found => .record (snapshotFields updater.builder.caches detail found)
    | none => .record [("group", .ofString group.render)]
  .record [("groups", list group store.groups.toList), ("ready", .bool updater.ready),
    ("caches", caches updater.builder.caches updater.holdings),
    ("changed", list (orNull fun follower => .bool (store.hasNews follower)) followers)]

end ServiceMesh.Report
