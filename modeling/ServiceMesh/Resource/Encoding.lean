import ServiceMesh.Resource.Basic
import ServiceMesh.Wire.Message

/-! The wire form of the configuration, and reading it back. -/
namespace ServiceMesh

open ServiceMesh.Wire (Message)

namespace Cluster

def toMessage (cluster : Cluster) : Message :=
  Wire.text 1 cluster.name ++ Wire.number 2 cluster.connectTimeoutMillis ++
    Wire.flag 3 cluster.http2

def ofMessage? (message : Message) : Option Cluster := do
  return ⟨← message.text? 1, message.number 2, message.flag 3⟩

end Cluster

/-- Negative numbers take the full width of the wire's numbers. -/
def HealthStatus.toWire (status : HealthStatus) : UInt64 := (Int64.ofInt status.toInt).toUInt64

def HealthStatus.ofWire (value : UInt64) : HealthStatus := Int32.ofInt value.toInt64.toInt

namespace LbEndpoint

def toMessage (endpoint : LbEndpoint) : Message :=
  Wire.text 1 endpoint.address ++ Wire.number 2 endpoint.port.toUInt64 ++
    Wire.presentNumber 3 (endpoint.weight.map UInt32.toUInt64) ++
    Wire.number 4 (HealthStatus.toWire endpoint.health) ++
    Wire.entries 5 endpoint.metadata ++ Wire.texts 6 endpoint.tags

def ofMessage? (message : Message) : Option LbEndpoint := do
  return ⟨← message.text? 1, (message.number 2).toUInt32,
    (message.presentNumber 3).map UInt64.toUInt32, HealthStatus.ofWire (message.number 4),
    ← message.entries? 5, ← message.texts? 6⟩

end LbEndpoint

namespace LocalityEndpoints

def toMessage (locality : LocalityEndpoints) : Message :=
  Wire.text 1 locality.zone ++ Wire.number 2 locality.priority.toUInt64 ++
    Wire.messages 3 (locality.endpoints.map LbEndpoint.toMessage)

def ofMessage? (message : Message) : Option LocalityEndpoints := do
  return ⟨← message.text? 1, (message.number 2).toUInt32,
    ← message.messages? 3 LbEndpoint.ofMessage?⟩

end LocalityEndpoints

namespace LoadAssignment

def toMessage (assignment : LoadAssignment) : Message :=
  Wire.text 1 assignment.cluster ++
    Wire.messages 2 (assignment.localities.map LocalityEndpoints.toMessage)

def ofMessage? (message : Message) : Option LoadAssignment := do
  return ⟨← message.text? 1, ← message.messages? 2 LocalityEndpoints.ofMessage?⟩

end LoadAssignment

namespace Route

def toMessage (route : Route) : Message :=
  Wire.text 1 route.pathPrefix ++ Wire.text 2 route.cluster

def ofMessage? (message : Message) : Option Route := do
  return ⟨← message.text? 1, ← message.text? 2⟩

end Route

namespace FaultRule

def toMessage (rule : FaultRule) : Message :=
  Wire.text 1 rule.faultId ++ Wire.text 2 rule.cluster ++
    Wire.texts 3 rule.nodes ++ Wire.number 4 rule.fixedDelayMillis ++
    Wire.number 5 rule.percentage.toUInt64

def ofMessage? (message : Message) : Option FaultRule := do
  return ⟨← message.text? 1, ← message.text? 2, ← message.texts? 3, message.number 4,
    (message.number 5).toUInt32⟩

end FaultRule

namespace VirtualHost

def toMessage (host : VirtualHost) : Message :=
  Wire.text 1 host.name ++ Wire.texts 2 host.domains ++
    Wire.messages 3 (host.routes.map Route.toMessage) ++
    Wire.messages 4 (host.faults.map FaultRule.toMessage)

def ofMessage? (message : Message) : Option VirtualHost := do
  return ⟨← message.text? 1, ← message.texts? 2, ← message.messages? 3 Route.ofMessage?,
    ← message.messages? 4 FaultRule.ofMessage?⟩

end VirtualHost

namespace RouteConfiguration

def toMessage (routes : RouteConfiguration) : Message :=
  Wire.text 1 routes.name ++ Wire.messages 2 (routes.virtualHosts.map VirtualHost.toMessage)

def ofMessage? (message : Message) : Option RouteConfiguration := do
  return ⟨← message.text? 1, ← message.messages? 2 VirtualHost.ofMessage?⟩

end RouteConfiguration

/-- A kind of configuration that proxies receive as a collection. -/
class Resource (α : Type) where
  typeUrl : String
  name : α → String
  toMessage : α → Message

instance : Resource Cluster :=
  ⟨"type.googleapis.com/meshcontrol.v1.Cluster", Cluster.name, Cluster.toMessage⟩

instance : Resource LoadAssignment :=
  ⟨"type.googleapis.com/meshcontrol.v1.ClusterLoadAssignment", LoadAssignment.cluster,
    LoadAssignment.toMessage⟩

instance : Resource RouteConfiguration :=
  ⟨"type.googleapis.com/meshcontrol.v1.RouteConfiguration", RouteConfiguration.name,
    RouteConfiguration.toMessage⟩

/-- A resource in its wire form, with its type. -/
structure WireResource where
  typeUrl : String
  content : List UInt8
deriving DecidableEq

def WireResource.of {α : Type} [Resource α] (resource : α) : WireResource :=
  ⟨Resource.typeUrl α, Wire.encode (Resource.toMessage resource)⟩

end ServiceMesh
