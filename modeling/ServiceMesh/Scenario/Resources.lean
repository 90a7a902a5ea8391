import ServiceMesh.Report.Snapshots
import ServiceMesh.Scenario.Services

/-! Resources in scenarios, and how snapshots are built from them. -/
namespace ServiceMesh.Scenario

def cluster : Reader Cluster := fun json => do
  return ⟨← textD json "name" "", ← word64D json "connect_timeout_ms", ← boolD json "http2" false⟩

def metadata : Reader (SortedMap String String) := fun json => do
  let entries ← (← members json).mapM fun member => do return (member.1, ← string member.2)
  return SortedMap.ofList entries

def endpoint : Reader LbEndpoint := fun json => do
  return {
    address := ← textD json "address" ""
    port := ← word32D json "port" 0
    weight := ← opt json "load_balancing_weight" fun weight => UInt32.ofNat <$> natural weight
    health := Int32.ofInt (← optD json "health_status" integer 0)
    metadata := ← optD json "metadata" metadata ∅
    tags := ← texts json "tags" }

def localityEndpoints : Reader LocalityEndpoints := fun json => do
  return ⟨← textD json "zone" "", ← word32D json "priority" 0, ← list json "lb_endpoints" endpoint⟩

def assignment : Reader LoadAssignment := fun json => do
  return ⟨← textD json "cluster_name" "", ← list json "endpoints" localityEndpoints⟩

def route : Reader Route := fun json => do
  return ⟨← textD json "prefix" "", ← textD json "cluster" ""⟩

def faultRule : Reader FaultRule := fun json => do
  return ⟨← textD json "fault_id" "", ← textD json "upstream_cluster" "",
    ← texts json "downstream_nodes", ← word64D json "fixed_delay_ms", ← word32D json "percentage" 0⟩

def virtualHost : Reader VirtualHost := fun json => do
  return ⟨← textD json "name" "", ← texts json "domains", ← list json "routes" route,
    ← list json "faults" faultRule⟩

def routes : Reader RouteConfiguration := fun json => do
  return ⟨← textD json "name" "", ← list json "virtual_hosts" virtualHost⟩

/-- An empty tag means that no cluster speaks HTTP/2. -/
def builderConfig : Reader BuilderConfig := fun json => do
  let seconds ← opt json "cluster_connect_timeout_s" natural
  let nanos ← match seconds with
    | some seconds => pure (seconds * 1_000_000_000)
    | none => do pure (millis (← natD json "cluster_connect_timeout_ms" 1000))
  let tag ← textD json "http2_tag" "envoy"
  return ⟨(Duration.ofNanos? nanos).getD default, if tag.isEmpty then none else some tag,
    ← texts json "wildcard_excluded_prefixes", ← boolD json "never_remove_clusters" false⟩

/-- How much of a snapshot is asked for. -/
def detail : Reader Report.Detail := fun json => do
  return ⟨← boolD json "brief" false, ← boolD json "wire" false⟩

end ServiceMesh.Scenario
