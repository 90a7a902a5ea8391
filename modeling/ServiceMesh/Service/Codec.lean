import ServiceMesh.Json.Decoder
import ServiceMesh.Json.Writer
import ServiceMesh.Service.Basic

/-! Services as JSON documents, the form in which zones share them. -/
namespace ServiceMesh

open ServiceMesh.Json (Decoder Field Record)

def Instance.toJson (instance_ : Instance) : Json :=
  .record [
    ("id", .ofString instance_.id),
    ("tags", .array (instance_.tags.toList.map .ofString)),
    ("address", .ofString instance_.address),
    ("port", .ofNat instance_.port.toNat),
    ("healthy", .bool instance_.healthy),
    ("regular", .bool instance_.regular),
    ("canary", .bool instance_.canary),
    ("weight", .ofNat instance_.weight.toNat)]

def Instance.decodeTags : Decoder (SortedSet String) := fun json =>
  SortedSet.ofList <$> Json.sequence Json.string json

def Instance.record : Record :=
  ⟨"ServiceInstance", [
    .required "id" Json.string, .optional "tags" Instance.decodeTags,
    .required "address" Json.string, .required "port" Json.word32,
    .required "healthy" Json.boolean, .required "regular" Json.boolean,
    .required "canary" Json.boolean, .required "weight" Json.word32]⟩

def Instance.decoder : Decoder Instance := fun json => do
  let fields ← Instance.record.openFields json
  return {
    id := ← Json.value fields "id" Json.string
    tags := ← Json.valueOr fields "tags" Instance.decodeTags ∅
    address := ← Json.value fields "address" Json.string
    port := ← Json.value fields "port" Json.word32
    healthy := ← Json.value fields "healthy" Json.boolean
    regular := ← Json.value fields "regular" Json.boolean
    canary := ← Json.value fields "canary" Json.boolean
    weight := ← Json.value fields "weight" Json.word32 }

def Service.toJson (service : Service) : Json :=
  .record [
    ("serviceName", .ofString service.name),
    ("instances", .array (service.instances.toList.map Instance.toJson))]

def Service.decodeInstances : Decoder (SortedSet Instance) := fun json =>
  SortedSet.ofList <$> Json.sequence Instance.decoder json

def Service.record : Record :=
  ⟨"ServiceInstances", [
    .required "serviceName" Json.string, .optional "instances" Service.decodeInstances]⟩

def Service.decoder : Decoder Service := fun json => do
  let fields ← Service.record.openFields json
  return {
    name := ← Json.value fields "serviceName" Json.string
    instances := ← Json.valueOr fields "instances" Service.decodeInstances ∅ }

def Services.toJson (services : Services) : Json :=
  .record [("serviceNameToInstances",
    .record (services.byName.entries.map fun entry => (entry.1, entry.2.toJson)))]

def Services.decodeNames : Decoder (SortedMap String Service) := fun json =>
  SortedMap.ofList <$> Json.members Service.decoder json

def Services.record : Record :=
  ⟨"ServicesState", [.optional "serviceNameToInstances" Services.decodeNames]⟩

def Services.decoder : Decoder Services := fun json => do
  let fields ← Services.record.openFields json
  return ⟨← Json.valueOr fields "serviceNameToInstances" Services.decodeNames ∅⟩

end ServiceMesh
