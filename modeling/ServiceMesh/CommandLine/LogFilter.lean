import ServiceMesh.Number.Decimal
import ServiceMesh.Number.Integer
import ServiceMesh.Pattern.Parser
import ServiceMesh.Text.Blank
import ServiceMesh.Text.Numeric
import ServiceMesh.Text.Split

/-! Which texts are log filters: directives with commas between them, each a level, or a target with
spans in brackets and an optional level behind an equals sign. A span may name a field in braces
with a value that it must have. -/
namespace ServiceMesh.CommandLine

open ServiceMesh.Number (Decimal)
open ServiceMesh.Text (pieces trim)

def lowered (text : List Char) : String := String.ofList (text.map Char.toLower)

/-- A level is a number up to five or a name in letters of any case. -/
def isLevel (text : List Char) : Bool :=
  match Number.parseNat (UInt64.size - 1) text with
  | .ok n => n ≤ 5
  | .error _ => ["", "off", "error", "warn", "info", "debug", "trace"].contains (lowered text)

/-! ### Values of fields -/

/-- What may stand behind the digits of a number: nothing, or an exponent. -/
def isExponent : List Char → Bool
  | [] => true
  | _ :: text =>
      let digits := (Decimal.splitSign text).2
      !digits.isEmpty && digits.all Char.isDigit

def isNumber (text : List Char) : Bool :=
  let unsigned := (Decimal.splitSign text).2
  let behind (c : Char) := c == 'e' || c == 'E'
  ["inf", "infinity", "nan"].contains (lowered unsigned) ||
    ((Decimal.ofUnsigned? (unsigned.takeWhile (!behind ·))).isSome &&
      isExponent (unsigned.dropWhile (!behind ·)))

/-- A value is a number, or a pattern that does not look for words. -/
def isFieldValue (text : List Char) : Bool :=
  isNumber text || (Pattern.parseChars? text).any (!·.testsWords)

/-- A name, and a value if there is an equals sign; what follows a second one does not count. -/
def isField (text : List Char) : Bool :=
  !text.isEmpty && match pieces '=' text with
    | _ :: value :: _ => isFieldValue value
    | _ => true

/-! ### Directives -/

/-- A character of a directive without the blanks around it, and the one at the same place of the
directive as it was given. The former tell where the parts are, the latter what the field says. -/
abbrev Placed := Char × Char

def upTo (stop : Char) (text : List Placed) : List Char :=
  (text.takeWhile (·.1 != stop)).map (·.2)

/-- What follows a span, if it is well-formed. -/
def afterSpan? (text : List Placed) : Option (List Placed) :=
  match text.dropWhile fun placed => placed.1 != ']' && placed.1 != '\x7b' with
  | (']', _) :: rest => some rest
  | (_, _) :: field =>
      match field.dropWhile (·.1 != '\x7d') with
      | _ :: (']', _) :: rest => if isField (upTo '\x7d' field) then some rest else none
      | _ => none
  | [] => none

/-- What may stand behind a target: spans, no more than `most`, and a level, which must not have
blanks around the directive. -/
def isTail (blanks : Bool) : Nat → List Placed → Bool
  | _, [] => true
  | _, ('=', _) :: level => !blanks && isLevel (level.map (·.1))
  | most + 1, ('[', _) :: span =>
      match afterSpan? span with
      | some rest => isTail blanks most rest
      | none => false
  | _, _ => false

def startsTarget (c : Char) : Bool := "-:_".toList.contains c || Text.isAlphanumeric c

def isDirective (text : List Char) : Bool :=
  let trimmed := trim text
  let placed := trimmed.zip text
  match trimmed with
  | [] => false
  | c :: _ =>
      (c == '[' || startsTarget c) &&
        isTail (trimmed != text) text.length
          (placed.dropWhile fun placed => placed.1 != '=' && placed.1 != '[')

def isLogFilter (text : String) : Bool :=
  ((pieces ',' text.toList).filter (!·.isEmpty)).all isDirective

end ServiceMesh.CommandLine
