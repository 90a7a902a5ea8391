import ServiceMesh.Pattern.Basic

/-! What a group captures. A pattern matches where it first can, and of the ways to match there the
preferred one counts: one more round of a repetition rather than none, and the left alternative
rather than the right one. Repetitions are taken not to be lazy, and to read something in each
round. -/
namespace ServiceMesh

/-- The text from one place to a later one. -/
def Cursor.textTo (a b : Cursor) : List Char := a.after.take (a.after.length - b.after.length)

namespace Pattern

/-- How far a match has come, and what a group that captures has matched last. -/
structure Trace where
  cursor : Cursor
  captured : Option (List Char)
deriving DecidableEq

/-- The ways to go on with a repetition, those with further rounds first. There are no more than
`fuel` rounds. -/
def roundWays (step : Trace → List Trace) : Nat → Nat → Option Nat → Trace → List Trace
  | 0, least, _, trace => if least = 0 then [trace] else []
  | fuel + 1, least, most, trace =>
      let further :=
        if most = some 0 then []
        else (step trace).flatMap (roundWays step fuel (least - 1) (most.map (· - 1)))
      if least = 0 then further ++ [trace] else further

/-- The ways to go on with a pattern, the preferred one first. -/
def ways : Pattern → Trace → List Trace
  | .empty, trace => [trace]
  | .oneOf chars, trace =>
      match trace.cursor.after with
      | [] => []
      | x :: after =>
          if chars.mem x then [{ trace with cursor := ⟨x :: trace.cursor.before, after⟩ }] else []
  | .anchor condition, trace => if condition.holds trace.cursor then [trace] else []
  | .group captures body, trace =>
      if captures then
        (body.ways trace).map fun next => ⟨next.cursor, some (trace.cursor.textTo next.cursor)⟩
      else body.ways trace
  | .repeated body least most, trace =>
      roundWays body.ways (least + trace.cursor.after.length) least most trace
  | .seq first second, trace => (first.ways trace).flatMap second.ways
  | .alt left right, trace => left.ways trace ++ right.ways trace

/-- The preferred match from the first place behind `before` where there is one. -/
def firstMatch? (pattern : Pattern) (before : List Char) : List Char → Option Trace
  | [] => (pattern.ways ⟨⟨before, []⟩, none⟩).head?
  | c :: rest =>
      (pattern.ways ⟨⟨before, c :: rest⟩, none⟩).head?.or (firstMatch? pattern (c :: before) rest)

/-- What the group of a pattern captures in a text. -/
def capture? (pattern : Pattern) (text : List Char) : Option (List Char) := do
  (← pattern.firstMatch? [] text).captured

end Pattern

end ServiceMesh
