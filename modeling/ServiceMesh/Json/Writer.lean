import ServiceMesh.Json.Basic
import ServiceMesh.Number.Shortest

/-! The compact text of a JSON document. -/
namespace ServiceMesh.Json

def hexDigit (n : Nat) : Char := (Nat.toDigits 16 n).headD '0'

/-- Quotes, backslashes and control characters are escaped, all else stands for itself. -/
def escape (c : Char) : List Char :=
  match c with
  | '"' => ['\\', '"']
  | '\\' => ['\\', '\\']
  | '\x08' => ['\\', 'b']
  | '\x0c' => ['\\', 'f']
  | '\n' => ['\\', 'n']
  | '\r' => ['\\', 'r']
  | '\t' => ['\\', 't']
  | c =>
      if c.toNat < 0x20 then ['\\', 'u', '0', '0', hexDigit (c.toNat / 16), hexDigit (c.toNat % 16)]
      else [c]

/-- What is no character is written as the replacement character. -/
def writeContent (content : List Symbol) : List Char :=
  '"' :: content.flatMap (fun symbol => escape (symbol.getD '\ufffd')) ++ ['"']

def writeNumber : Number → List Char
  | .integer value => (toString value).toList
  | .real negative magnitude => (Number.renderBinary64 negative magnitude).toList
  | .tooLarge => "null".toList

mutual

def write : Json → List Char
  | .null => "null".toList
  | .bool true => "true".toList
  | .bool false => "false".toList
  | .number value => writeNumber value
  | .text content => writeContent content
  | .array items => '[' :: writeItems items ++ [']']
  | .object members => '\x7b' :: writeMembers members ++ ['\x7d']

def writeItems : List Json → List Char
  | [] => []
  | [item] => write item
  | item :: rest => write item ++ ',' :: writeItems rest

def writeMembers : List (List Symbol × Json) → List Char
  | [] => []
  | [(key, value)] => writeContent key ++ ':' :: write value
  | (key, value) :: rest => writeContent key ++ ':' :: write value ++ ',' :: writeMembers rest

end

/-- The compact text, without any space. -/
def render (json : Json) : String := String.ofList json.write

end ServiceMesh.Json
