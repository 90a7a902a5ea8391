/-! JSON documents as they are written, before anybody asks what they mean. -/
namespace ServiceMesh

/-- A unit of text that came from outside: a character, or none where the source has something that
is no character, such as a lone surrogate escape or bytes that are not UTF-8. -/
abbrev Symbol := Option Char

namespace Json

/-- A number in range of 64-bit integers, or a float as its sign and its exact magnitude, or a
literal beyond the largest float. -/
inductive Number where
  | integer (value : Int)
  | real (negative : Bool) (magnitude : Rat)
  | tooLarge
deriving DecidableEq

end Json

/-- Members of objects keep their order, and keys may repeat. -/
inductive Json where
  | null
  | bool (value : Bool)
  | number (value : Json.Number)
  | text (content : List Symbol)
  | array (items : List Json)
  | object (members : List (List Symbol × Json))

namespace Json

def ofString (s : String) : Json := .text (s.toList.map some)

def ofNat (n : Nat) : Json := .number (.integer n)

/-- The members of an object, given with plain keys. -/
def record (members : List (String × Json)) : Json :=
  .object (members.map fun member => (member.1.toList.map some, member.2))

/-- The characters of a text, if it has nothing but characters. -/
def characters? (content : List Symbol) : Option String :=
  (content.mapM id).map String.ofList

mutual

/-- How deep arrays and objects are nested. -/
def depth : Json → Nat
  | .array items => depthOfItems items + 1
  | .object members => depthOfMembers members + 1
  | _ => 0

def depthOfItems : List Json → Nat
  | [] => 0
  | item :: rest => max item.depth (depthOfItems rest)

def depthOfMembers : List (List Symbol × Json) → Nat
  | [] => 0
  | (_, value) :: rest => max value.depth (depthOfMembers rest)

end

mutual

/-- Holds if all texts are made of characters and no number is too large. -/
def hasProperLeaves : Json → Bool
  | .number value => value != .tooLarge
  | .text content => (characters? content).isSome
  | .array items => haveProperLeaves items
  | .object members => membersHaveProperLeaves members
  | _ => true

def haveProperLeaves : List Json → Bool
  | [] => true
  | item :: rest => item.hasProperLeaves && haveProperLeaves rest

def membersHaveProperLeaves : List (List Symbol × Json) → Bool
  | [] => true
  | (key, value) :: rest =>
      (characters? key).isSome && value.hasProperLeaves && membersHaveProperLeaves rest

end

/-- The deepest nesting of a document that is read as a whole. -/
def maxDepth : Nat := 127

/-- Holds for documents that every reader accepts. -/
def isWellFormed (json : Json) : Bool := json.hasProperLeaves && json.depth ≤ maxDepth

end Json

end ServiceMesh
