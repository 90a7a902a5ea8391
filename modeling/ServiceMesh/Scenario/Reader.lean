import ServiceMesh.Json.Reader
import ServiceMesh.SortedMap
import ServiceMesh.SortedSet

/-! Reading the documents that describe scenarios. A field that is left out, or null, takes a
default. -/
namespace ServiceMesh.Scenario

abbrev Read (α : Type) := Except String α

abbrev Reader (α : Type) := Json → Read α

/-! ### Values -/

def string : Reader String
  | .text content =>
      match Json.characters? content with
      | some value => .ok value
      | none => .error "not a text"
  | _ => .error "not a text"

def integer : Reader Int
  | .number (.integer value) => .ok value
  | _ => .error "not a whole number"

/-- A number, also one that is given as text because it may be large. -/
def natural : Reader Nat
  | .text content =>
      match (Json.characters? content).bind String.toNat? with
      | some value => .ok value
      | none => .error "not a number"
  | json => do
      let value ← integer json
      if value < 0 then throw "a negative number"
      return value.toNat

def boolean : Reader Bool
  | .bool value => .ok value
  | _ => .error "not a truth value"

def items : Reader (List Json)
  | .array items => .ok items
  | _ => .error "not a list"

def members : Reader (List (String × Json))
  | .object members => members.mapM fun member =>
      match Json.characters? member.1 with
      | some key => .ok (key, member.2)
      | none => .error "not a text"
  | _ => .error "not an object"

/-! ### Fields -/

def field? (json : Json) (key : String) : Option Json :=
  match json with
  | .object members =>
      match members.find? (·.1 == key.toList.map some) with
      | none | some (_, .null) => none
      | some (_, value) => some value
  | _ => none

def field (json : Json) (key : String) : Read Json :=
  match field? json key with
  | some value => .ok value
  | none => .error ("missing " ++ key)

/-- The value of a field; none if it is left out. -/
def opt {α : Type} (json : Json) (key : String) (read : Reader α) : Read (Option α) :=
  match field? json key with
  | some value => some <$> read value
  | none => .ok none

def optD {α : Type} (json : Json) (key : String) (read : Reader α) (fallback : α) : Read α := do
  return (← opt json key read).getD fallback

def text (json : Json) (key : String) : Read String := do string (← field json key)

def textD (json : Json) (key fallback : String) : Read String := optD json key string fallback

def natD (json : Json) (key : String) (fallback : Nat) : Read Nat := optD json key natural fallback

def boolD (json : Json) (key : String) (fallback : Bool) : Read Bool := optD json key boolean fallback

def word32D (json : Json) (key : String) (fallback : UInt32) : Read UInt32 := do
  return UInt32.ofNat (← natD json key fallback.toNat)

def word64D (json : Json) (key : String) : Read UInt64 := do return UInt64.ofNat (← natD json key 0)

/-- The items of a list, which is empty if it is left out. -/
def list {α : Type} (json : Json) (key : String) (read : Reader α) : Read (List α) := do
  (← optD json key items []).mapM read

def texts (json : Json) (key : String) : Read (List String) := list json key string

def textSet (json : Json) (key : String) : Read (SortedSet String) := SortedSet.ofList <$> texts json key

/-- A field that holds one of several texts. -/
def choice {α : Type} (json : Json) (key fallback : String) (choices : List (String × α)) : Read α := do
  let value ← textD json key fallback
  match choices.lookup value with
  | some found => return found
  | none => throw ("unknown " ++ key ++ " " ++ value)

end ServiceMesh.Scenario
