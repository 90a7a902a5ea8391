/-! Decimal literals without exponent: a sign, digits, and at most one point among them. -/
namespace ServiceMesh.Number

inductive DecimalError where
  | empty
  | malformed
deriving DecidableEq, Repr

def DecimalError.message : DecimalError → String
  | .empty => "cannot parse float from empty string"
  | .malformed => "invalid float literal"

/-- A literal's sign, and its digits before and after the point. -/
structure Decimal where
  negative : Bool
  whole : List Char
  fraction : List Char
deriving DecidableEq, Repr

def digitValue (c : Char) : Nat := c.toNat - '0'.toNat

/-- The number that a list of ASCII digits denotes. -/
def ofDigits (digits : List Char) : Nat :=
  digits.foldl (fun n c => 10 * n + digitValue c) 0

namespace Decimal

/-- The magnitude of the literal. -/
def magnitude (d : Decimal) : Rat :=
  (ofDigits (d.whole ++ d.fraction) : Rat) / (10 : Rat) ^ d.fraction.length

def splitSign : List Char → Bool × List Char
  | '-' :: rest => (true, rest)
  | '+' :: rest => (false, rest)
  | text => (false, text)

/-- Accepts digits with at most one point and at least one digit. -/
def ofUnsigned? (text : List Char) : Option (List Char × List Char) :=
  let whole := text.takeWhile Char.isDigit
  match text.dropWhile Char.isDigit with
  | [] => if whole.isEmpty then none else some (whole, [])
  | c :: fraction =>
      if c == '.' && fraction.all Char.isDigit && !(whole ++ fraction).isEmpty then
        some (whole, fraction)
      else none

def parse (text : List Char) : Except DecimalError Decimal :=
  if text.isEmpty then .error .empty
  else
    let (negative, unsigned) := splitSign text
    match ofUnsigned? unsigned with
    | some (whole, fraction) => .ok ⟨negative, whole, fraction⟩
    | none => .error .malformed

end Decimal

end ServiceMesh.Number
