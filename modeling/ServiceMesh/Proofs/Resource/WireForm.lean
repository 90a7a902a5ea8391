import Mathlib.Data.List.Basic
import ServiceMesh.Proofs.Wire.Message
import ServiceMesh.Resource.Encoding

/-! The wire form of resources tells them. Each message is read back by the fields it was written
with, from the innermost ones outwards, so that nothing is lost where a field of a default value is
left out, and nothing runs together. -/
namespace ServiceMesh

open ServiceMesh.Wire.Message

theorem Cluster.ofMessage?_toMessage (cluster : Cluster) :
    ofMessage? cluster.toMessage = some cluster := by
  have name : cluster.toMessage.text? 1 = some cluster.name :=
    text?_of_values (by simp [toMessage])
  have timeout : cluster.toMessage.number 2 = cluster.connectTimeoutMillis :=
    number_of_values (by simp [toMessage])
  have http2 : cluster.toMessage.flag 3 = cluster.http2 := flag_of_values (by simp [toMessage])
  rw [ofMessage?, name, timeout, http2]
  rfl

/-! ### Load assignments -/

/-- Also a status that has no meaning comes back, and a negative one. -/
theorem HealthStatus.ofWire_toWire (status : HealthStatus) : ofWire (toWire status) = status := by
  have low := Int32.le_toInt status
  have high := Int32.toInt_lt status
  have wide : (Int64.ofInt status.toInt).toInt = status.toInt :=
    Int64.toInt_ofInt_of_le (by omega) (by omega)
  rw [ofWire, toWire, Int64.toInt64_toUInt64, wide]
  exact Int32.ofInt_toInt status

theorem LbEndpoint.ofMessage?_toMessage (endpoint : LbEndpoint) :
    ofMessage? endpoint.toMessage = some endpoint := by
  have address : endpoint.toMessage.text? 1 = some endpoint.address :=
    text?_of_values (by simp [toMessage])
  have port : endpoint.toMessage.number 2 = endpoint.port.toUInt64 :=
    number_of_values (by simp [toMessage])
  have weight : endpoint.toMessage.presentNumber 3 = endpoint.weight.map UInt32.toUInt64 :=
    presentNumber_of_values (by simp [toMessage])
  have health : endpoint.toMessage.number 4 = HealthStatus.toWire endpoint.health :=
    number_of_values (by simp [toMessage])
  have metadata : endpoint.toMessage.entries? 5 = some endpoint.metadata :=
    entries?_of_values (by simp [toMessage])
  have tags : endpoint.toMessage.texts? 6 = some endpoint.tags :=
    texts?_of_values (by simp [toMessage])
  have narrow : (endpoint.weight.map UInt32.toUInt64).map UInt64.toUInt32 = endpoint.weight := by
    cases endpoint.weight <;> simp
  rw [ofMessage?, address, port, weight, health, metadata, tags, narrow,
    HealthStatus.ofWire_toWire, UInt32.toUInt32_toUInt64]
  rfl

theorem LocalityEndpoints.ofMessage?_toMessage (locality : LocalityEndpoints) :
    ofMessage? locality.toMessage = some locality := by
  have zone : locality.toMessage.text? 1 = some locality.zone :=
    text?_of_values (by simp [toMessage])
  have priority : locality.toMessage.number 2 = locality.priority.toUInt64 :=
    number_of_values (by simp [toMessage])
  have endpoints : locality.toMessage.messages? 3 LbEndpoint.ofMessage? =
      some locality.endpoints :=
    messages?_of_values (fun endpoint _ => endpoint.ofMessage?_toMessage) (by simp [toMessage])
  rw [ofMessage?, zone, priority, endpoints, UInt32.toUInt32_toUInt64]
  rfl

theorem LoadAssignment.ofMessage?_toMessage (assignment : LoadAssignment) :
    ofMessage? assignment.toMessage = some assignment := by
  have cluster : assignment.toMessage.text? 1 = some assignment.cluster :=
    text?_of_values (by simp [toMessage])
  have localities : assignment.toMessage.messages? 2 LocalityEndpoints.ofMessage? =
      some assignment.localities :=
    messages?_of_values (fun locality _ => locality.ofMessage?_toMessage) (by simp [toMessage])
  rw [ofMessage?, cluster, localities]
  rfl

/-! ### Route configurations -/

theorem Route.ofMessage?_toMessage (route : Route) : ofMessage? route.toMessage = some route := by
  have pathPrefix : route.toMessage.text? 1 = some route.pathPrefix :=
    text?_of_values (by simp [toMessage])
  have cluster : route.toMessage.text? 2 = some route.cluster :=
    text?_of_values (by simp [toMessage])
  rw [ofMessage?, pathPrefix, cluster]
  rfl

theorem FaultRule.ofMessage?_toMessage (rule : FaultRule) :
    ofMessage? rule.toMessage = some rule := by
  have faultId : rule.toMessage.text? 1 = some rule.faultId := text?_of_values (by simp [toMessage])
  have cluster : rule.toMessage.text? 2 = some rule.cluster := text?_of_values (by simp [toMessage])
  have nodes : rule.toMessage.texts? 3 = some rule.nodes := texts?_of_values (by simp [toMessage])
  have delay : rule.toMessage.number 4 = rule.fixedDelayMillis :=
    number_of_values (by simp [toMessage])
  have percentage : rule.toMessage.number 5 = rule.percentage.toUInt64 :=
    number_of_values (by simp [toMessage])
  rw [ofMessage?, faultId, cluster, nodes, delay, percentage, UInt32.toUInt32_toUInt64]
  rfl

theorem VirtualHost.ofMessage?_toMessage (host : VirtualHost) :
    ofMessage? host.toMessage = some host := by
  have name : host.toMessage.text? 1 = some host.name := text?_of_values (by simp [toMessage])
  have domains : host.toMessage.texts? 2 = some host.domains :=
    texts?_of_values (by simp [toMessage])
  have routes : host.toMessage.messages? 3 Route.ofMessage? = some host.routes :=
    messages?_of_values (fun route _ => route.ofMessage?_toMessage) (by simp [toMessage])
  have faults : host.toMessage.messages? 4 FaultRule.ofMessage? = some host.faults :=
    messages?_of_values (fun rule _ => rule.ofMessage?_toMessage) (by simp [toMessage])
  rw [ofMessage?, name, domains, routes, faults]
  rfl

theorem RouteConfiguration.ofMessage?_toMessage (routes : RouteConfiguration) :
    ofMessage? routes.toMessage = some routes := by
  have name : routes.toMessage.text? 1 = some routes.name := text?_of_values (by simp [toMessage])
  have hosts : routes.toMessage.messages? 2 VirtualHost.ofMessage? = some routes.virtualHosts :=
    messages?_of_values (fun host _ => host.ofMessage?_toMessage) (by simp [toMessage])
  rw [ofMessage?, name, hosts]
  rfl

/-! ### Collections -/

/-- Resources of a kind are told by their bytes, which are read back; so are their collections. -/
structure ToldByWire (α : Type) [Resource α] (ofMessage? : Wire.Message → Option α) : Prop where
  read : ∀ resource : α,
    (Wire.decode? (Wire.encode (Resource.toMessage resource))).bind ofMessage? = some resource
  single : ∀ resource other : α,
    Wire.encode (Resource.toMessage resource) = Wire.encode (Resource.toMessage other) →
      resource = other
  collection : ∀ resources others : List α,
    resources.map WireResource.of = others.map WireResource.of ↔ resources = others

theorem ToldByWire.of_reads {α : Type} [Resource α] {ofMessage? : Wire.Message → Option α}
    (reads : ∀ resource : α, ofMessage? (Resource.toMessage resource) = some resource) :
    ToldByWire α ofMessage? := by
  have read (resource : α) :
      (Wire.decode? (Wire.encode (Resource.toMessage resource))).bind ofMessage? =
        some resource := by
    rw [Wire.decode?_encode, Option.bind_some, reads]
  have single (resource other : α)
      (same : Wire.encode (Resource.toMessage resource) = Wire.encode (Resource.toMessage other)) :
      resource = other := by
    apply Option.some.inj
    rw [← read resource, ← read other, same]
  refine ⟨read, single, fun resources others => ?_⟩
  apply Function.Injective.eq_iff
  apply List.map_injective_iff.mpr
  intro resource other same
  exact single resource other (congrArg WireResource.content same)

/-- The wire form of clusters, load assignments and route configurations tells them, with all that is
nested in them, and whatever the values of their fields are. -/
theorem wire_forms_tell :
    ToldByWire Cluster Cluster.ofMessage? ∧ ToldByWire LoadAssignment LoadAssignment.ofMessage? ∧
      ToldByWire RouteConfiguration RouteConfiguration.ofMessage? :=
  ⟨.of_reads Cluster.ofMessage?_toMessage, .of_reads LoadAssignment.ofMessage?_toMessage,
    .of_reads RouteConfiguration.ofMessage?_toMessage⟩

end ServiceMesh
