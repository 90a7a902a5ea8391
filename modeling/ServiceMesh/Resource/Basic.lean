import ServiceMesh.SortedMap

/-! The configuration that proxies receive: clusters of endpoints, the endpoints of a cluster by
locality, and routes to clusters. -/
namespace ServiceMesh

structure Cluster where
  name : String
  connectTimeoutMillis : UInt64
  http2 : Bool
deriving DecidableEq, Hashable

/-- The health of an endpoint, a number of which only three values have a meaning. -/
abbrev HealthStatus := Int32

namespace HealthStatus

def healthy : HealthStatus := 1

def unhealthy : HealthStatus := 2

end HealthStatus

structure LbEndpoint where
  address : String
  port : UInt32
  weight : Option UInt32
  health : HealthStatus
  metadata : SortedMap String String
  tags : List String
deriving DecidableEq, Hashable

structure LocalityEndpoints where
  zone : String
  priority : UInt32
  endpoints : List LbEndpoint
deriving DecidableEq, Hashable

structure LoadAssignment where
  cluster : String
  localities : List LocalityEndpoints
deriving DecidableEq, Hashable

structure Route where
  pathPrefix : String
  cluster : String
deriving DecidableEq, Hashable

/-- Delays a share of the requests that some nodes send to a cluster. -/
structure FaultRule where
  faultId : String
  cluster : String
  nodes : List String
  fixedDelayMillis : UInt64
  percentage : UInt32
deriving DecidableEq, Hashable

structure VirtualHost where
  name : String
  domains : List String
  routes : List Route
  faults : List FaultRule
deriving DecidableEq, Hashable

structure RouteConfiguration where
  name : String
  virtualHosts : List VirtualHost
deriving DecidableEq, Hashable

end ServiceMesh
