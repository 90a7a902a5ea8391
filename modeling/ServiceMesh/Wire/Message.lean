import ServiceMesh.SortedMap
import ServiceMesh.Text.Utf8
import ServiceMesh.Wire.Varint

/-! Messages on the wire: sequences of numbered fields, each a number or a run of bytes. A field
that holds the default of its type is left out. -/
namespace ServiceMesh.Wire

inductive Value where
  | number (value : UInt64)
  | bytes (content : List UInt8)
deriving DecidableEq

def Value.number? : Value → Option UInt64
  | .number value => some value
  | .bytes _ => none

def Value.bytes? : Value → Option (List UInt8)
  | .number _ => none
  | .bytes content => some content

structure Field where
  number : Nat
  value : Value
deriving DecidableEq

abbrev Message := List Field

/-- The key tells the number of the field and which kind of value follows. -/
def Field.encode (field : Field) : List UInt8 :=
  match field.value with
  | .number value => encodeNumber (field.number * 8) ++ encodeNumber value.toNat
  | .bytes content =>
      encodeNumber (field.number * 8 + 2) ++ encodeNumber content.length ++ content

def encode (message : Message) : List UInt8 := message.flatMap Field.encode

/-- The field at the front and what follows it. -/
def decodeField? (bytes : List UInt8) : Option (Field × List UInt8) := do
  let (key, rest) ← decodeNumber? bytes
  let (n, rest) ← decodeNumber? rest
  match key % 8 with
  | 0 => return (⟨key / 8, .number (UInt64.ofNat n)⟩, rest)
  | 2 =>
      if rest.length < n then none
      else return (⟨key / 8, .bytes (rest.take n)⟩, rest.drop n)
  | _ => none

/-- Reads fields to the end of the bytes. Every field takes at least one byte, so `fuel` need not
exceed the number of bytes. -/
def decodeWithin? : Nat → List UInt8 → Option Message
  | _, [] => some []
  | 0, _ => none
  | fuel + 1, bytes => do
      let (field, rest) ← decodeField? bytes
      return field :: (← decodeWithin? fuel rest)

def decode? (bytes : List UInt8) : Option Message := decodeWithin? bytes.length bytes

/-! ### Writing fields -/

def number (n : Nat) (value : UInt64) : Message := if value = 0 then [] else [⟨n, .number value⟩]

/-- A number that is written even if it is zero. -/
def presentNumber (n : Nat) (value : Option UInt64) : Message :=
  match value with
  | none => []
  | some value => [⟨n, .number value⟩]

def flag (n : Nat) (value : Bool) : Message := if value then [⟨n, .number 1⟩] else []

def text (n : Nat) (value : String) : Message :=
  if value.isEmpty then [] else [⟨n, .bytes (Text.utf8 value)⟩]

def texts (n : Nat) (values : List String) : Message :=
  values.map fun value => ⟨n, .bytes (Text.utf8 value)⟩

def messages (n : Nat) (values : List Message) : Message :=
  values.map fun value => ⟨n, .bytes (encode value)⟩

/-- The entries of a map, each a message of its key and its value. -/
def entries (n : Nat) (map : SortedMap String String) : Message :=
  messages n (map.entries.map fun entry => text 1 entry.1 ++ text 2 entry.2)

/-! ### Reading fields -/

namespace Message

/-- The values of a field, in order. -/
def values (message : Message) (n : Nat) : List Value :=
  (message.filter (·.number == n)).map Field.value

/-- The last number in a field; none if the field is left out. -/
def presentNumber (message : Message) (n : Nat) : Option UInt64 :=
  ((message.values n).filterMap Value.number?).getLast?

def number (message : Message) (n : Nat) : UInt64 := (message.presentNumber n).getD 0

def flag (message : Message) (n : Nat) : Bool := message.number n != 0

def runs (message : Message) (n : Nat) : List (List UInt8) :=
  (message.values n).filterMap Value.bytes?

def texts? (message : Message) (n : Nat) : Option (List String) :=
  (message.runs n).mapM fun content => String.fromUTF8? ⟨content.toArray⟩

/-- The last text in a field, empty if the field is left out. -/
def text? (message : Message) (n : Nat) : Option String :=
  (message.texts? n).map fun found => found.getLast?.getD ""

def messages? {α : Type} (message : Message) (n : Nat) (read? : Message → Option α) :
    Option (List α) :=
  (message.runs n).mapM fun content => do read? (← decode? content)

def entries? (message : Message) (n : Nat) : Option (SortedMap String String) :=
  SortedMap.ofList <$> message.messages? n fun entry => do
    return (← entry.text? 1, ← entry.text? 2)

end Message

end ServiceMesh.Wire
