import ServiceMesh.Duration.Printer
import ServiceMesh.Fault.Basic
import ServiceMesh.Json.Decoder
import ServiceMesh.Json.Writer

/-! Faults as JSON documents. -/
namespace ServiceMesh

open ServiceMesh.Json (Decoder Field Record)

def Duration.toJson (d : Duration) : Json := .ofString d.render

def Selector.decoder : Decoder Selector := fun json => Selector.mk <$> Json.string json

def Fault.toJson (fault : Fault) : Json :=
  .record [
    ("id", .ofString fault.id),
    ("source", .ofString fault.source.pattern),
    ("target", .ofString fault.target.pattern),
    ("delay", fault.delay.toJson),
    ("duration", fault.duration.toJson)]

/-- The fields of a fault behind its id. -/
def Fault.effectFields : List Field :=
  [(Field.required "source" Selector.decoder).alsoCalled "affectedService",
    (Field.required "target" Selector.decoder).alsoCalled "targetService",
    .required "delay" Json.duration, .required "duration" Json.duration]

def Fault.record : Record :=
  ⟨"NetworkFault", .required "id" Json.string :: Fault.effectFields⟩

/-- A fault of a known id from the values of its other fields. -/
def Fault.ofFields (id : String) (fields : List (String × Json)) : Except Json.DecodeError Fault :=
  return {
    id := id
    source := ← Json.value fields "source" Selector.decoder
    target := ← Json.value fields "target" Selector.decoder
    delay := ← Json.value fields "delay" Json.duration
    duration := ← Json.value fields "duration" Json.duration }

def Fault.decoder : Decoder Fault := fun json => do
  let fields ← Fault.record.openFields json
  Fault.ofFields (← Json.value fields "id" Json.string) fields

end ServiceMesh
