import ServiceMesh.Duration.Basic
import ServiceMesh.Number.Decimal
import ServiceMesh.Text.Alphabetic
import ServiceMesh.Text.Blank

/-! Reading durations such as `1h2m3.5s`: decimal numbers, each followed by its unit, whose values
are added up. -/
namespace ServiceMesh.Duration

open ServiceMesh.Number ServiceMesh.Text

inductive ParseError where
  | invalidUnit
  | noUnit
  | negative
  | notANumber (cause : DecimalError)
  | overflow
deriving DecidableEq, Repr

def expectedUnits : String := "expected one of 'ns', 'us', 'µs', 'ms', 's', 'm', or 'h'"

def ParseError.message : ParseError → String
  | .invalidUnit => "invalid unit: " ++ expectedUnits
  | .noUnit => "missing a unit: " ++ expectedUnits
  | .negative => "durations must not be negative"
  | .notANumber cause => "invalid floating-point number: " ++ cause.message
  | .overflow => "duration is too large"

/-- The length of a unit in seconds. -/
def unitSeconds? (unit : List Char) : Option Rat :=
  match String.ofList unit with
  | "ns" => some (1 / 1_000_000_000)
  | "us" | "\u00b5s" | "\u03bcs" => some (1 / 1_000_000)
  | "ms" => some (1 / 1_000)
  | "s" => some 1
  | "m" => some 60
  | "h" => some 3600
  | _ => none

/-- A maximal run of non-alphabetic characters and the maximal alphabetic run behind it. -/
structure Component where
  value : List Char
  unit : List Char
deriving DecidableEq, Repr

/-- Cuts a text into components; only the last one can lack its unit. -/
def components : List Char → List Component
  | [] => []
  | c :: rest =>
      let tail := (c :: rest).dropWhile (!isAlphabetic ·)
      ⟨(c :: rest).takeWhile (!isAlphabetic ·), tail.takeWhile isAlphabetic⟩ ::
        components (tail.dropWhile isAlphabetic)
termination_by text => text.length
decreasing_by
  simp only [List.dropWhile_cons]
  split
  · have first := (List.dropWhile_sublist (l := rest) (!isAlphabetic ·)).length_le
    have second := (List.dropWhile_sublist (l := rest.dropWhile (!isAlphabetic ·)) isAlphabetic).length_le
    simp only [List.length_cons]
    omega
  · rename_i letter
    have alphabetic : isAlphabetic c = true := by simpa using letter
    have second := (List.dropWhile_sublist (l := rest) isAlphabetic).length_le
    simp only [List.dropWhile_cons, alphabetic, ↓reduceIte, List.length_cons]
    omega

/-- The product of two floats as a duration. Both factors and the product are rounded to floats
before the product is rounded to whole nanoseconds. -/
def scaled? (magnitude unit : Rat) : Option Duration := do
  let value ← toBinary64 magnitude
  let unit ← toBinary64 unit
  let seconds ← toBinary64 (unit * value)
  ofSeconds? seconds

def Component.toDuration (part : Component) : Except ParseError Duration := do
  if part.unit.isEmpty then throw .noUnit
  let value ← (Decimal.parse part.value).mapError .notANumber
  if value.negative then throw .negative
  match unitSeconds? part.unit with
  | none => throw .invalidUnit
  | some unit =>
      match scaled? value.magnitude unit with
      | none => throw .overflow
      | some duration => return duration

/-- Adds up components from left to right; the first problem wins. -/
def sum (total : Duration) : List Component → Except ParseError Duration
  | [] => .ok total
  | part :: rest => do
      let duration ← part.toDuration
      match total.add? duration with
      | none => throw .overflow
      | some total => sum total rest

/-- A duration without sign. A lone zero needs no unit. -/
def parseUnsigned (text : List Char) : Except ParseError Duration :=
  let text := text.dropWhile (· == '+')
  if text = ['0'] then .ok zero
  else if text.isEmpty then .error .noUnit
  else sum zero (components text)

/-- White space around the text and leading plus signs are ignored; of the texts that begin with a
minus sign only `-0` denotes a duration. -/
def parseChars (text : List Char) : Except ParseError Duration :=
  match trim text with
  | '-' :: rest => if rest = ['0'] then .ok zero else .error .negative
  | text => parseUnsigned text

def parse (text : String) : Except ParseError Duration := parseChars text.toList

end ServiceMesh.Duration
