import ServiceMesh.Registry.Basic
import ServiceMesh.Json.Decoder
import ServiceMesh.Number.Integer
import ServiceMesh.Text.Utf8

/-! Requests for documents over HTTP, and what becomes of the answers. -/
namespace ServiceMesh

/-- An answer as it came in: its status, the value of its index header if there is one, and its body. -/
structure HttpAnswer where
  status : Nat
  index : Option String
  body : List UInt8
deriving DecidableEq

namespace HttpAnswer

/-- The value of the index header, if it is a number. White space around it does not count. -/
def indexValue (answer : HttpAnswer) : Option UInt64 := do
  let value ← answer.index
  Number.parseUInt64? (String.ofList (trimSpaces value.toList))
where
  trimSpaces (text : List Char) : List Char :=
    let isSpace (c : Char) : Bool := c == ' ' || c == '\t'
    ((text.dropWhile isSpace).reverse.dropWhile isSpace).reverse

end HttpAnswer

/-- The document in an answer. There is none without a complete answer, and none in an answer that
reports a failure. -/
def receive {α : Type} (decoder : Json.Decoder α) (answer : Option HttpAnswer) :
    Except RegistryError (Option UInt64 × α) :=
  match answer with
  | none => .error (.transport none)
  | some answer =>
      if answer.status < 200 || 300 ≤ answer.status then .error (.status answer.status)
      else
        match Json.decodeSymbols decoder (Text.decodeUtf8 answer.body) with
        | .ok value => .ok (answer.indexValue, value)
        | .error e => .error (.decode e.message)

end ServiceMesh
