import ServiceMesh.Json.Basic
import ServiceMesh.Number.Binary64
import ServiceMesh.Number.Decimal

/-! Reading JSON text. Texts that hold something else than characters, numbers beyond the range of
floats and any depth of nesting are read; whether they are acceptable is for the consumer to say. -/
namespace ServiceMesh.Json

open ServiceMesh.Number (toBinary64 digitValue ofDigits)

def isSpace (c : Char) : Bool := c == ' ' || c == '\n' || c == '\t' || c == '\r'

def skipSpace : List Symbol → List Symbol
  | some c :: rest => if isSpace c then skipSpace rest else some c :: rest
  | input => input

/-! ### Numbers -/

/-- The parts of a number literal: an exponent is a sign and digits. -/
structure NumberLiteral where
  negative : Bool
  whole : List Char
  fraction : Option (List Char)
  exponent : Option (Bool × List Char)

/-- The longest run of ASCII digits at the front. -/
def takeDigits : List Symbol → List Char × List Symbol
  | some c :: rest =>
      if c.isDigit then ((c :: (takeDigits rest).1), (takeDigits rest).2) else ([], some c :: rest)
  | input => ([], input)

def readFraction : List Symbol → Option (Option (List Char) × List Symbol)
  | some '.' :: rest =>
      match takeDigits rest with
      | ([], _) => none
      | (digits, rest) => some (some digits, rest)
  | input => some (none, input)

def readExponentSign : List Symbol → Bool × List Symbol
  | some '-' :: rest => (true, rest)
  | some '+' :: rest => (false, rest)
  | input => (false, input)

def readExponent : List Symbol → Option (Option (Bool × List Char) × List Symbol)
  | some c :: rest =>
      if c == 'e' || c == 'E' then
        let (negative, rest) := readExponentSign rest
        match takeDigits rest with
        | ([], _) => none
        | (digits, rest) => some (some (negative, digits), rest)
      else some (none, some c :: rest)
  | input => some (none, input)

/-- A literal without its sign; a leading zero stands alone before the point. -/
def readUnsigned (negative : Bool) (input : List Symbol) : Option (NumberLiteral × List Symbol) := do
  let (whole, rest) ← match takeDigits input with
    | ([], _) => none
    | (['0'], rest) => some (['0'], rest)
    | ('0' :: _, _) => none
    | (digits, rest) => some (digits, rest)
  let (fraction, rest) ← readFraction rest
  let (exponent, rest) ← readExponent rest
  return (⟨negative, whole, fraction, exponent⟩, rest)

/-- Appends digits to a number as long as it stays below 2^64; tells how many it could append. -/
def appendDigits (n : Nat) : List Char → Nat × Nat
  | [] => (n, 0)
  | c :: rest =>
      if 10 * n + digitValue c < UInt64.size then
        let (result, count) := appendDigits (10 * n + digitValue c) rest
        (result, count + 1)
      else (n, 0)

/-- Powers of ten up to this one are floats. -/
def largestPower : Nat := 308

/-- `x * 10 ^ exponent` in float arithmetic: one multiplication or division by a power of ten, after
divisions by the largest one. -/
def scale (x : Rat) (exponent : Int) : Nat → Option Rat
  | 0 => some 0
  | fuel + 1 =>
      if exponent.natAbs ≤ largestPower then do
        let power ← toBinary64 ((10 : Rat) ^ exponent.natAbs)
        toBinary64 (if 0 ≤ exponent then x * power else x / power)
      else if x = 0 then some 0
      else if 0 ≤ exponent then none
      else do
        let power ← toBinary64 ((10 : Rat) ^ largestPower)
        scale (← toBinary64 (x / power)) (exponent + largestPower) fuel

def NumberLiteral.signedExponent (literal : NumberLiteral) : Int :=
  match literal.exponent with
  | none => 0
  | some (true, digits) => -(ofDigits digits : Int)
  | some (false, digits) => ofDigits digits

/-- The float of a literal, from its first digits as a 64-bit number and a power of ten. -/
def NumberLiteral.toReal (literal : NumberLiteral) : Number :=
  let (wholePart, used) := appendDigits 0 literal.whole
  let dropped : Int := literal.whole.length - used
  let (significand, places) := appendDigits wholePart (literal.fraction.getD [])
  let exponent := dropped - places + literal.signedExponent
  match toBinary64 significand >>= (scale · exponent 4) with
  | some magnitude => .real literal.negative magnitude
  | none => .tooLarge

/-- Literals without point and exponent are integers where 64 bits allow; `-0` is a float. -/
def NumberLiteral.toNumber (literal : NumberLiteral) : Number :=
  let n := ofDigits literal.whole
  if literal.fraction.isSome || literal.exponent.isSome || UInt64.size ≤ n then literal.toReal
  else if !literal.negative then .integer n
  else if n = 0 || 9_223_372_036_854_775_808 < n then literal.toReal
  else .integer (-n)

def readNumber : List Symbol → Option (Json × List Symbol)
  | some '-' :: rest => do
      let (literal, rest) ← readUnsigned true rest
      return (.number literal.toNumber, rest)
  | input => do
      let (literal, rest) ← readUnsigned false input
      return (.number literal.toNumber, rest)

/-! ### Texts -/

def hexValue? (c : Char) : Option Nat :=
  if c.isDigit then some (digitValue c)
  else if 'a' ≤ c && c ≤ 'f' then some (c.toNat - 'a'.toNat + 10)
  else if 'A' ≤ c && c ≤ 'F' then some (c.toNat - 'A'.toNat + 10)
  else none

/-- Four hexadecimal digits. -/
def readHex4 : List Symbol → Option (Nat × List Symbol)
  | some a :: some b :: some c :: some d :: rest => do
      let a ← hexValue? a
      let b ← hexValue? b
      let c ← hexValue? c
      let d ← hexValue? d
      return (((a * 16 + b) * 16 + c) * 16 + d, rest)
  | _ => none

def isHighSurrogate (n : Nat) : Bool := 0xD800 ≤ n && n ≤ 0xDBFF

def isLowSurrogate (n : Nat) : Bool := 0xDC00 ≤ n && n ≤ 0xDFFF

/-- Joins a pair of surrogates. -/
def joinSurrogates (high low : Nat) : Char :=
  Char.ofNat (0x10000 + (high - 0xD800) * 0x400 + (low - 0xDC00))

/-- The character of a one-letter escape. -/
def shortEscape? : Char → Option Char
  | '"' => some '"'
  | '\\' => some '\\'
  | '/' => some '/'
  | 'b' => some '\x08'
  | 'f' => some '\x0c'
  | 'n' => some '\n'
  | 'r' => some '\r'
  | 't' => some '\t'
  | _ => none

/-- Holds for what stands for itself in a text. -/
def isPlain : Symbol → Bool
  | none => true
  | some c => c != '"' && c != '\\' && 0x20 ≤ c.toNat

/-- What an escape stands for, read behind its backslash. A surrogate without partner stands for no
character. -/
def readEscape : List Symbol → Option (Symbol × List Symbol)
  | some 'u' :: rest => do
      let (first, rest) ← readHex4 rest
      if isLowSurrogate first then return (none, rest)
      if !isHighSurrogate first then return (some (Char.ofNat first), rest)
      match rest with
      | some '\\' :: some 'u' :: after =>
          let (second, after) ← readHex4 after
          if isLowSurrogate second then return (some (joinSurrogates first second), after)
          return (none, rest)
      | _ => return (none, rest)
  | some c :: rest => do return (some (← shortEscape? c), rest)
  | _ => none

/-- The text up to the closing quote: runs of plain symbols with escapes between them, which `fuel`
bounds. -/
def readContent (fuel : Nat) (input : List Symbol) : Option (List Symbol × List Symbol) :=
  match fuel, input.dropWhile isPlain with
  | _, some '"' :: rest => some (input.takeWhile isPlain, rest)
  | fuel + 1, some '\\' :: rest => do
      let (symbol, rest) ← readEscape rest
      let (content, rest) ← readContent fuel rest
      return (input.takeWhile isPlain ++ symbol :: content, rest)
  | _, _ => none

/-! ### Documents -/

/-- What follows `word`, if the input begins with it. -/
def readWord (word : String) (input : List Symbol) : Option (List Symbol) :=
  let symbols := word.toList.map some
  if symbols.isPrefixOf input then some (input.drop symbols.length) else none

mutual

/-- A value at the front of the input, which has no leading space. Each call uses up input, which
`fuel` bounds. -/
def readValue : Nat → List Symbol → Option (Json × List Symbol)
  | 0, _ => none
  | fuel + 1, input =>
      match input with
      | some '"' :: rest => do
          let (content, rest) ← readContent fuel rest
          return (.text content, rest)
      | some '[' :: rest =>
          match skipSpace rest with
          | some ']' :: rest => some (.array [], rest)
          | rest => do
              let (items, rest) ← readItems fuel rest
              return (.array items, rest)
      | some '\x7b' :: rest =>
          match skipSpace rest with
          | some '\x7d' :: rest => some (.object [], rest)
          | rest => do
              let (members, rest) ← readMembers fuel rest
              return (.object members, rest)
      | some 't' :: _ => do return (.bool true, ← readWord "true" input)
      | some 'f' :: _ => do return (.bool false, ← readWord "false" input)
      | some 'n' :: _ => do return (.null, ← readWord "null" input)
      | input => readNumber input

/-- The items of an array from one of them on, and the closing bracket. -/
def readItems : Nat → List Symbol → Option (List Json × List Symbol)
  | 0, _ => none
  | fuel + 1, input => do
      let (item, rest) ← readValue fuel input
      match skipSpace rest with
      | some ']' :: rest => return ([item], rest)
      | some ',' :: rest =>
          let (items, rest) ← readItems fuel (skipSpace rest)
          return (item :: items, rest)
      | _ => none

/-- The members of an object from one of them on, and the closing brace. -/
def readMembers : Nat → List Symbol → Option (List (List Symbol × Json) × List Symbol)
  | 0, _ => none
  | fuel + 1, input => do
      let some '"' :: rest := input | none
      let (key, rest) ← readContent fuel rest
      let some ':' :: rest := skipSpace rest | none
      let (value, rest) ← readValue fuel (skipSpace rest)
      match skipSpace rest with
      | some '\x7d' :: rest => return ([(key, value)], rest)
      | some ',' :: rest =>
          let (members, rest) ← readMembers fuel (skipSpace rest)
          return ((key, value) :: members, rest)
      | _ => none

end

/-- A whole document, with space around it. -/
def read (input : List Symbol) : Option Json := do
  let (json, rest) ← readValue (input.length + 1) (skipSpace input)
  if (skipSpace rest).isEmpty then some json else none

def readString (input : String) : Option Json := read (input.toList.map some)

end ServiceMesh.Json
