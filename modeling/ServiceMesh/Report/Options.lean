import ServiceMesh.CommandLine.Options
import ServiceMesh.Report.Basic

/-! The report of the options in force. -/
namespace ServiceMesh.Report

open ServiceMesh.CommandLine (LogFormat Options)

def zoneAddress (address : ZoneAddress) : Json :=
  .record [("zone", .ofString address.zone), ("host", .ofString address.host),
    ("port", .ofNat address.port)]

def logFormat : LogFormat → Json
  | .plain => .ofString "plain"
  | .json => .ofString "json"

def options (o : Options) : Json :=
  .record [
    ("log_level", .ofString o.logLevel), ("log_format", logFormat o.logFormat),
    ("admin_addr", .ofString o.adminAddress.render), ("registry_host", .ofString o.registryHost),
    ("registry_port", .ofNat o.registryPort), ("zone", .ofString o.zone),
    ("remote_registries", list zoneAddress o.remoteRegistries),
    ("remote_zones", list zoneAddress o.remoteZones),
    ("sync_interval_ms", big o.syncInterval), ("sync_connect_timeout_ms", big o.syncConnectTimeout),
    ("sync_read_timeout_ms", big o.syncReadTimeout), ("sync_cache_ms", big o.syncCache),
    ("subscription_delay_ms", big o.subscriptionDelay), ("poll_interval_ms", big o.pollInterval),
    ("connect_timeout_ms", big o.connectTimeout), ("read_timeout_ms", big o.readTimeout),
    ("max_pool_size", big o.maxPoolSize), ("pool_keep_alive_ms", big o.poolKeepAlive),
    ("max_connections", big o.maxConnections), ("excluded_services", texts o.excludedServices),
    ("excluded_service_tags", texts o.excludedServiceTags), ("weight_tag", .ofString o.weightTag),
    ("default_weight", .ofNat o.defaultWeight), ("canary_tag", .ofString o.canaryTag),
    ("http2_tag", .ofString o.http2Tag), ("cluster_connect_timeout_ms", big o.clusterConnectTimeout),
    ("wildcard_excluded_prefixes", texts o.wildcardExcludedPrefixes),
    ("state_sample_ms", big o.stateSample), ("never_remove_clusters", .bool o.neverRemoveClusters),
    ("consumer_groups", texts (o.consumerGroups.map ConsumerGroup.render))]

end ServiceMesh.Report
