import ServiceMesh.Registry.Exchange
import ServiceMesh.SortedMap

/-! The registry Consul: the paths of requests to it, and the documents with which it answers. -/
namespace ServiceMesh.Consul

open ServiceMesh.Json (Decoder Record)

/-- Bytes that stand for themselves in a path: letters, digits and four marks. -/
def isUnreserved (byte : UInt8) : Bool :=
  let c := Char.ofNat byte.toNat
  byte.toNat < 0x80 && (c.isAlpha || c.isDigit || c == '-' || c == '_' || c == '.' || c == '~')

/-- One of sixteen digits, with upper-case letters. -/
def hexDigit (n : Nat) : Char := ((Nat.toDigits 16 n).headD '0').toUpper

/-- A byte in a path: itself, or a percent sign and two digits. -/
def encodeByte (byte : UInt8) : List Char :=
  if isUnreserved byte then [Char.ofNat byte.toNat]
  else ['%', hexDigit (byte.toNat / 16), hexDigit (byte.toNat % 16)]

/-- A text as one segment of a path. -/
def encodeSegment (text : String) : String :=
  String.ofList ((Text.utf8 text).flatMap encodeByte)

def hexValue? (c : Char) : Option Nat :=
  if c.isDigit then some (c.toNat - '0'.toNat)
  else if 'A' ≤ c && c ≤ 'F' then some (c.toNat - 'A'.toNat + 10)
  else none

/-- The bytes that a segment of a path stands for; none if a percent sign lacks its digits or a
character may not stand there. -/
def decodeSegment? : List Char → Option (List UInt8)
  | [] => some []
  | '%' :: high :: low :: rest => do
      let byte := UInt8.ofNat ((← hexValue? high) * 16 + (← hexValue? low))
      return byte :: (← decodeSegment? rest)
  | c :: rest =>
      if c.toNat < 0x80 && isUnreserved (UInt8.ofNat c.toNat) then do
        return UInt8.ofNat c.toNat :: (← decodeSegment? rest)
      else none

def instancesPath (service : String) : String := "/v1/health/service/" ++ encodeSegment service

/-- Where a request for what has a path is sent. -/
def address (authority path : String) : String := "http://" ++ authority ++ path

def tagList : Decoder (Option (List String)) := Json.nullable (Json.sequence Json.string)

/-- The catalog, an object of tag lists by service. -/
def catalog (answer : Option HttpAnswer) : Except RegistryError Catalog := do
  let (index, entries) ← receive (Json.members tagList) answer
  let byName := SortedMap.ofList entries
  return ⟨index, byName.entries.map fun entry =>
    ⟨entry.1, SortedSet.ofList (entry.2.getD [])⟩⟩

def serviceRecord : Record :=
  ⟨"HealthService", [.required "ID" Json.string, .optional "Address" Json.string,
    .optional "Port" Json.word32, .optional "Tags" tagList]⟩

/-- An instance, healthy until its checks are known. -/
def healthService : Decoder RegistryInstance := fun json => do
  let fields ← serviceRecord.openFields json
  return {
    id := ← Json.value fields "ID" Json.string
    address := ← Json.valueOr fields "Address" Json.string ""
    port := ← Json.valueOr fields "Port" Json.word32 0
    tags := (← Json.valueOr fields "Tags" tagList none).getD []
    healthy := true }

def checkRecord : Record := ⟨"HealthCheck", [.required "Status" Json.string]⟩

/-- Whether a check passes. -/
def healthCheck : Decoder Bool := fun json => do
  let fields ← checkRecord.openFields json
  return (← Json.value fields "Status" Json.string) == "passing"

def entryRecord : Record :=
  ⟨"HealthEntry", [.required "Service" healthService,
    .optional "Checks" (Json.sequence healthCheck)]⟩

/-- An instance with its checks, healthy if all of them pass. -/
def healthEntry : Decoder RegistryInstance := fun json => do
  let fields ← entryRecord.openFields json
  let reported ← Json.value fields "Service" healthService
  let checks ← Json.valueOr fields "Checks" (Json.sequence healthCheck) []
  return { reported with healthy := checks.all id }

def instances (answer : Option HttpAnswer) : Except RegistryError InstanceList := do
  let (index, entries) ← receive (Json.sequence healthEntry) answer
  return ⟨index, entries⟩

end ServiceMesh.Consul
