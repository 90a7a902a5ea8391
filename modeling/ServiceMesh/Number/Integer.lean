import ServiceMesh.Number.Decimal

/-! Reading whole numbers that have to fit a given range. -/
namespace ServiceMesh.Number

inductive IntegerError where
  | empty
  | invalidDigit
  | tooLarge
  | tooSmall
deriving DecidableEq, Repr

def IntegerError.message : IntegerError → String
  | .empty => "cannot parse integer from empty string"
  | .invalidDigit => "invalid digit found in string"
  | .tooLarge => "number too large to fit in target type"
  | .tooSmall => "number too small to fit in target type"

/-- Appends digits to `n` as long as it stays at or below `limit`; the first problem from the left
is reported. -/
def readDigits (limit : Nat) (beyond : IntegerError) (n : Nat) : List Char → Except IntegerError Nat
  | [] => .ok n
  | c :: rest =>
      if !c.isDigit then .error .invalidDigit
      else if limit < 10 * n + digitValue c then .error beyond
      else readDigits limit beyond (10 * n + digitValue c) rest

/-- A number from 0 to `limit`, with an optional plus sign. -/
def parseNat (limit : Nat) (text : List Char) : Except IntegerError Nat :=
  match text with
  | [] => .error .empty
  | ['+'] => .error .invalidDigit
  | '+' :: digits => readDigits limit .tooLarge 0 digits
  | digits => readDigits limit .tooLarge 0 digits

/-- A number from `-(limit + 1)` to `limit`, with an optional sign. -/
def parseInt (limit : Nat) (text : List Char) : Except IntegerError Int :=
  match text with
  | ['-'] => .error .invalidDigit
  | '-' :: digits => return -(← readDigits (limit + 1) .tooSmall 0 digits : Nat)
  | text => return (← parseNat limit text : Nat)

def parseUInt64? (text : String) : Option UInt64 :=
  match parseNat (UInt64.size - 1) text.toList with
  | .ok n => some (UInt64.ofNat n)
  | .error _ => none

end ServiceMesh.Number
