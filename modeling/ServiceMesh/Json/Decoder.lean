import ServiceMesh.Duration.Parser
import ServiceMesh.Json.Reader
import ServiceMesh.Number.Shortest
import ServiceMesh.Text.Legible

/-! Decoding documents into values, with the first problem in the order of the text. -/
namespace ServiceMesh.Json

/-- What stood where something else was expected. -/
inductive Found where
  | null
  | bool (value : Bool)
  | number (value : Number)
  | text (value : String)
  | sequence
  | map

inductive DecodeError where
  | missingField (name : String)
  | duplicateField (name : String)
  | invalidType (found : Found) (expected : String)
  | invalidValue (found : Int) (expected : String)
  | invalidLength (length : Nat) (expected : String)
  | trailing
  | duration (cause : Duration.ParseError)
  | malformed

/-- A character in a quoted diagnostic: quotes, backslashes and what is not legible are escaped. -/
def quoteChar (c : Char) : List Char :=
  match c with
  | '"' => ['\\', '"']
  | '\\' => ['\\', '\\']
  | '\x00' => ['\\', '0']
  | '\t' => ['\\', 't']
  | '\r' => ['\\', 'r']
  | '\n' => ['\\', 'n']
  | c =>
      if Text.isLegible c then [c]
      else ['\\', 'u', '\x7b'] ++ Nat.toDigits 16 c.toNat ++ ['\x7d']

def quote (s : String) : String :=
  String.ofList ('"' :: s.toList.flatMap quoteChar ++ ['"'])

def Found.message : Found → String
  | .null => "null"
  | .bool value => "boolean `" ++ toString value ++ "`"
  | .number (.integer value) => "integer `" ++ toString value ++ "`"
  | .number (.real negative magnitude) =>
      "floating point `" ++ Number.renderBinary64 negative magnitude ++ "`"
  | .number .tooLarge => "number"
  | .text value => "string " ++ quote value
  | .sequence => "sequence"
  | .map => "map"

def DecodeError.message : DecodeError → String
  | .missingField name => "missing field `" ++ name ++ "`"
  | .duplicateField name => "duplicate field `" ++ name ++ "`"
  | .invalidType found expected => "invalid type: " ++ found.message ++ ", expected " ++ expected
  | .invalidValue found expected =>
      "invalid value: integer `" ++ toString found ++ "`, expected " ++ expected
  | .invalidLength length expected =>
      "invalid length " ++ toString length ++ ", expected " ++ expected
  | .trailing => "trailing characters"
  | .duration cause => cause.message
  | .malformed => "<malformed json>"

abbrev Decoder (α : Type) := Json → Except DecodeError α

/-- The complaint about a value of the wrong kind. What cannot be read at all is no value. -/
def wrongType {α : Type} (json : Json) (expected : String) : Except DecodeError α :=
  match json with
  | .null => .error (.invalidType .null expected)
  | .bool value => .error (.invalidType (.bool value) expected)
  | .number .tooLarge => .error .malformed
  | .number value => .error (.invalidType (.number value) expected)
  | .text content =>
      match characters? content with
      | some value => .error (.invalidType (.text value) expected)
      | none => .error .malformed
  | .array _ => .error (.invalidType .sequence expected)
  | .object _ => .error (.invalidType .map expected)

def string : Decoder String
  | .text content =>
      match characters? content with
      | some value => .ok value
      | none => .error .malformed
  | json => wrongType json "a string"

def boolean : Decoder Bool
  | .bool value => .ok value
  | json => wrongType json "a boolean"

def word32 : Decoder UInt32
  | .number (.integer value) =>
      if 0 ≤ value && value < UInt32.size then .ok (UInt32.ofNat value.toNat)
      else .error (.invalidValue value "u32")
  | json => wrongType json "u32"

/-- A duration, as its text. -/
def duration : Decoder Duration
  | .text content =>
      match characters? content with
      | some value => (Duration.parse value).mapError .duration
      | none => .error .malformed
  | json => wrongType json "a string in Go `time.Duration.String()` format"

def sequence {α : Type} (item : Decoder α) : Decoder (List α)
  | .array items => items.mapM item
  | json => wrongType json "a sequence"

/-- A value or null. -/
def nullable {α : Type} (value : Decoder α) : Decoder (Option α)
  | .null => .ok none
  | json => some <$> value json

/-- The members of an object in their order; keys can repeat. -/
def members {α : Type} (value : Decoder α) : Decoder (List (String × α))
  | .object members => members.mapM fun member =>
      match characters? member.1 with
      | none => .error .malformed
      | some key => do return (key, ← value member.2)
  | json => wrongType json "a map"

/-! ### Records -/

/-- A field of a record: its name, other names that it goes by, whether it may be missing, and what
its values have to satisfy. -/
structure Field where
  name : String
  aliases : List String
  isOptional : Bool
  check : Json → Except DecodeError Unit

def Field.answersTo (field : Field) (key : String) : Bool :=
  field.name == key || field.aliases.contains key

def Field.required {α : Type} (name : String) (decoder : Decoder α) : Field :=
  ⟨name, [], false, fun json => do discard (decoder json)⟩

def Field.optional {α : Type} (name : String) (decoder : Decoder α) : Field :=
  { Field.required name decoder with isOptional := true }

def Field.alsoCalled (field : Field) (name : String) : Field :=
  { field with aliases := name :: field.aliases }

/-- A record, which documents give as an object or as an array of the values of its fields. -/
structure Record where
  name : String
  fields : List Field

namespace Record

def expected (record : Record) : String := "struct " ++ record.name

/-- Takes members in their order: a field that comes twice and an unfit value are problems, unknown
members are none. -/
def collect (record : Record) (seen : List (String × Json)) :
    List (List Symbol × Json) → Except DecodeError (List (String × Json))
  | [] => .ok seen
  | (key, value) :: rest =>
      match characters? key with
      | none => .error .malformed
      | some key =>
          match record.fields.find? (·.answersTo key) with
          | none => record.collect seen rest
          | some field => do
              if seen.any (·.1 == field.name) then throw (.duplicateField field.name)
              field.check value
              record.collect ((field.name, value) :: seen) rest

/-- The first field that has to be there and is not. -/
def requireAll (values : List (String × Json)) : List Field → Except DecodeError Unit
  | [] => .ok ()
  | field :: rest =>
      if field.isOptional || values.any (·.1 == field.name) then requireAll values rest
      else .error (.missingField field.name)

/-- Gives values to fields by position; fields that may be missing may be left off the end. -/
def arrange (record : Record) (position : Nat) :
    List Field → List Json → Except DecodeError (List (String × Json))
  | [], [] => .ok []
  | [], _ :: _ => .error .trailing
  | field :: fields, [] =>
      if field.isOptional then record.arrange (position + 1) fields []
      else
        let elements := if record.fields.length = 1 then " element" else " elements"
        .error (.invalidLength position
          (record.expected ++ " with " ++ toString record.fields.length ++ elements))
  | field :: fields, value :: values => do
      field.check value
      return (field.name, value) :: (← record.arrange (position + 1) fields values)

/-- The values of the fields that are there, all of them fit. -/
def openFields (record : Record) : Decoder (List (String × Json))
  | .object members => do
      let values ← record.collect [] members
      requireAll values record.fields
      return values
  | .array items => record.arrange 0 record.fields items
  | json => wrongType json record.expected

end Record

/-- The value of a field, `fallback` if it is not there. -/
def valueOr {α : Type} (values : List (String × Json)) (name : String) (decoder : Decoder α)
    (fallback : α) : Except DecodeError α :=
  match values.find? (·.1 == name) with
  | some (_, json) => decoder json
  | none => .ok fallback

/-- The value of a field that is there. -/
def value {α : Type} (values : List (String × Json)) (name : String) (decoder : Decoder α) :
    Except DecodeError α :=
  match values.find? (·.1 == name) with
  | some (_, json) => decoder json
  | none => .error (.missingField name)

/-! ### Documents -/

/-- Decodes a text. A problem in a text that is no well-formed document is reported as just that. -/
def decodeSymbols {α : Type} (decoder : Decoder α) (input : List Symbol) : Except DecodeError α :=
  match read input with
  | none => .error .malformed
  | some json =>
      match decoder json with
      | .ok value => .ok value
      | .error e => if json.isWellFormed then .error e else .error .malformed

def decodeString {α : Type} (decoder : Decoder α) (input : String) : Except DecodeError α :=
  decodeSymbols decoder (input.toList.map some)

end ServiceMesh.Json
