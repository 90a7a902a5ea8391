import ServiceMesh.Fault.Codec
import ServiceMesh.Text.Utf8

/-! Faults as they are submitted: documents in which the id may be missing. -/
namespace ServiceMesh.Admin

open ServiceMesh.Json (Field Record)

/-- The largest body of a submission in bytes. -/
def maxBody : Nat := 65536

def submissionRecord : Record :=
  ⟨"SubmitFault", .optional "id" (Json.nullable Json.string) :: Fault.effectFields⟩

/-- The fault of a document, under `freshId` if it names no id. -/
def submission (freshId : String) : Json.Decoder Fault := fun json => do
  let fields ← submissionRecord.openFields json
  let id ← Json.valueOr fields "id" (Json.nullable Json.string) none
  Fault.ofFields (id.getD freshId) fields

def decodeSubmission (freshId : String) (body : List UInt8) : Except Json.DecodeError Fault :=
  Json.decodeSymbols (submission freshId) (Text.decodeUtf8 body)

end ServiceMesh.Admin
