import ServiceMesh.Number.Decimal

/-! The texts of IP addresses. -/
namespace ServiceMesh

open ServiceMesh.Number (ofDigits digitValue)

/-- Four octets, or eight groups of sixteen bits. -/
inductive IpAddress where
  | v4 (octets : List Nat)
  | v6 (groups : List Nat)
deriving DecidableEq, Repr

namespace IpAddress

/-- What is read from the front of a text, and the rest of the text. -/
abbrev Reader (α : Type) := List Char → Option (α × List Char)

/-- A decimal number up to 255 without leading zeros. -/
def readOctet : Reader Nat := fun input =>
  let digits := input.takeWhile Char.isDigit
  if digits.isEmpty || 3 < digits.length || 255 < ofDigits digits then none
  else if digits.head? == some '0' && 1 < digits.length then none
  else some (ofDigits digits, input.dropWhile Char.isDigit)

def readDot : List Char → Option (List Char)
  | '.' :: rest => some rest
  | _ => none

def readV4 : Reader (List Nat) := fun input => do
  let (a, rest) ← readOctet input
  let (b, rest) ← readOctet (← readDot rest)
  let (c, rest) ← readOctet (← readDot rest)
  let (d, rest) ← readOctet (← readDot rest)
  return ([a, b, c, d], rest)

def isHexDigit (c : Char) : Bool := c.isDigit || ('a' ≤ c && c ≤ 'f') || ('A' ≤ c && c ≤ 'F')

def hexDigitValue (c : Char) : Nat :=
  if c.isDigit then digitValue c else (c.toNat - 'A'.toNat) % 32 + 10

/-- One to four hexadecimal digits. -/
def readGroup : Reader Nat := fun input =>
  let digits := input.takeWhile isHexDigit
  if digits.isEmpty || 4 < digits.length then none
  else some (digits.foldl (fun n c => 16 * n + hexDigitValue c) 0, input.dropWhile isHexDigit)

/-- Groups with colons between them, at most as many as there are slots. An IPv4 address takes the
place of the last two. Returns the groups, whether they end in an IPv4 address, and the rest. -/
def readGroups (isFirst : Bool) : Nat → List Char → List Nat × Bool × List Char
  | 0, input => ([], false, input)
  | slots + 1, input =>
      let body := if isFirst then some input else match input with
        | ':' :: rest => some rest
        | _ => none
      match body with
      | none => ([], false, input)
      | some body =>
          match (if slots = 0 then none else readV4 body) with
          | some ([a, b, c, d], rest) => ([256 * a + b, 256 * c + d], true, rest)
          | _ =>
              match readGroup body with
              | none => ([], false, input)
              | some (group, rest) =>
                  let (groups, embedded, rest) := readGroups false slots rest
                  (group :: groups, embedded, rest)

/-- Eight groups; two colons in a row stand for one or more groups of zeros. -/
def readV6 : Reader (List Nat) := fun input =>
  let (head, embedded, rest) := readGroups true 8 input
  if head.length = 8 then some (head, rest)
  else if embedded then none
  else
    match rest with
    | ':' :: ':' :: rest =>
        let (tail, _, rest) := readGroups true (7 - head.length) rest
        some (head ++ List.replicate (8 - head.length - tail.length) 0 ++ tail, rest)
    | _ => none

def parseChars? (text : List Char) : Option IpAddress :=
  match readV4 text with
  | some (octets, rest) => if rest.isEmpty then some (.v4 octets) else none
  | none =>
      match readV6 text with
      | some (groups, []) => some (.v6 groups)
      | _ => none

def parse? (text : String) : Option IpAddress := parseChars? text.toList

/-! ### Printing -/

def renderV4 (octets : List Nat) : String := String.intercalate "." (octets.map toString)

def renderGroups (groups : List Nat) : String :=
  String.intercalate ":" (groups.map fun group => String.ofList (Nat.toDigits 16 group))

/-- Where the first longest run of zeros begins, and its length. -/
def longestZeros (groups : List Nat) (position : Nat) (best : Nat × Nat) : Nat × Nat :=
  match groups with
  | [] => best
  | group :: rest =>
      let run := ((group :: rest).takeWhile (· == 0)).length
      longestZeros rest (position + 1) (if best.2 < run then (position, run) else best)

def renderV6 (groups : List Nat) : String :=
  match groups with
  | [0, 0, 0, 0, 0, 0xffff, high, low] =>
      "::ffff:" ++ renderV4 [high / 256, high % 256, low / 256, low % 256]
  | groups =>
      let (start, length) := longestZeros groups 0 (0, 0)
      if 1 < length then
        renderGroups (groups.take start) ++ "::" ++ renderGroups (groups.drop (start + length))
      else renderGroups groups

def render : IpAddress → String
  | .v4 octets => renderV4 octets
  | .v6 groups => renderV6 groups

end IpAddress

end ServiceMesh
