import ServiceMesh.Pattern.Form
import ServiceMesh.Text.ByteRange

/-! An estimate of the memory of the automaton that patterns are compiled to. An automaton reads
bytes; there is one for reading forward and one for reading backward. A state takes 32 bytes, 4 more
for each state that it branches to without reading, and 8 more for each range of bytes that it tells
apart. -/
namespace ServiceMesh.Pattern

open ServiceMesh.Text (ByteRange)

inductive Direction where
  | forward
  | backward
deriving DecidableEq

def stateSize : Nat := 32

/-- A state that branches to others without reading. -/
def branchSize (targets : Nat) : Nat := stateSize + 4 * targets

/-- A state that tells ranges of bytes apart. -/
def sortingSize (ranges : Nat) : Nat := stateSize + 8 * ranges

/-- What words begin with, each with the rests of the words that begin so. -/
def byFirst {α : Type} [DecidableEq α] (words : List (List α)) : List (α × List (List α)) :=
  (words.filterMap List.head?).eraseDups.map fun first =>
    (first, words.filterMap fun word =>
      if word.head? = some first then some word.tail else none)

/-! ### Sets of characters -/

/-- The states that read sequences of byte ranges, each given by what it still has to read: there is
one state for all that have the same to read. No sequence is longer than `length`. -/
def readers (sequences : List (List ByteRange)) : Nat → List (List (List ByteRange))
  | 0 => []
  | length + 1 =>
      let further := ((byFirst sequences).map (·.2)).filter (· != [[]])
      sequences :: further.flatMap (readers · length)

/-- The number of ranges behind what each sequence begins with in common with the one before it. -/
def newRanges (previous : List ByteRange) : List (List ByteRange) → Nat
  | [] => 0
  | next :: rest =>
      let shared := (previous.zip next).takeWhile fun pair => pair.1 == pair.2
      next.length - shared.length + newRanges next rest

/-- Reading forward, what sequences end with in common is read by one state. Reading backward, it is
what they begin with, and each sequence is a branch. -/
def CharSet.footprint (direction : Direction) (set : CharSet) : Nat :=
  if set.ranges.all (·.2 < 0x80) then sortingSize set.ranges.length + stateSize
  else
    let sequences := set.ranges.encodings
    match direction with
    | .forward =>
        (readers sequences 4).eraseDups.foldr
          (fun left total => sortingSize (byFirst left).length + total) stateSize
    | .backward => branchSize sequences.length + stateSize + stateSize * newRanges [] sequences

/-! ### Alternatives that are words -/

/-- Cuts words wherever one of them ends; `current` holds those since the last cut, last first.
Further ends count only behind a word that goes on. -/
def runs {α : Type} (cut goesOn : Bool) (current : List (List α)) :
    List (List α) → List (List (List α))
  | [] => [current.reverse]
  | [] :: rest =>
      if cut && !goesOn then runs cut goesOn current rest
      else current.reverse :: runs true goesOn [] rest
  | word :: rest => runs cut true (word :: current) rest

/-- The tree of words that are tried in order, none of them longer than `length`. -/
def treeFootprint (words : List (List UInt8)) : Nat → Nat
  | 0 => 0
  | length + 1 =>
      let all := runs false false [] words
      let reading := all.filter (!·.isEmpty)
      let ends := all.length - 1
      reading.foldr (fun run total =>
          let groups := byFirst run
          let state := if groups.length = 1 then stateSize else sortingSize groups.length
          let further := (groups.map (·.2)).filter fun rests => rests.any (!·.isEmpty)
          state + further.foldr (fun rests sum => treeFootprint rests length + sum) 0 + total)
        (branchSize (reading.length + ends))

def encoded (direction : Direction) (text : List Char) : List UInt8 :=
  match direction with
  | .forward => text.flatMap String.utf8EncodeChar
  | .backward => (text.flatMap String.utf8EncodeChar).reverse

def wordsFootprint (direction : Direction) (words : List (List Char)) : Nat :=
  let words := words.map (encoded direction)
  stateSize + treeFootprint words (words.foldr (fun word longest => max word.length longest) 0)

/-! ### Forms -/

namespace Form

def text? : Form → Option (List Char)
  | .literal text => some text
  | _ => none

/-- A repeated form whose body takes `one`. Where the body can be empty, a repetition needs a round
of its own to stop. -/
def roundsFootprint (body : Form) (one least : Nat) : Option Nat → Nat
  | some most =>
      if least = 0 && most = 1 then one + branchSize 2 + stateSize
      else if least = most then least * one
      else
        let front := if least = 0 then stateSize else least * one
        front + stateSize + (most - least) * (one + branchSize 2)
  | none =>
      if least = 0 && body.minLength.all (· = 0) then one + 2 * branchSize 2 + stateSize
      else max least 1 * one + branchSize 2

/-- The branches of an alternation together, given what each takes; words share what they begin
with. -/
def together (direction : Direction) (form : Form) (branches : List Nat) : Nat :=
  match branches, form.branches.mapM text? with
  | [only], _ => only
  | _, some words => wordsFootprint direction words
  | branches, none => branches.foldr (· + ·) (branchSize branches.length + stateSize)

def branchFootprints (direction : Direction) : Form → List Nat
  | .empty | .anchor _ => [stateSize]
  | .literal text => [stateSize * (encoded direction text).length]
  | .oneOf set => [set.footprint direction]
  | .group body => [together direction body (body.branchFootprints direction)]
  | .repeated body least most =>
      let one := together direction body (body.branchFootprints direction)
      [roundsFootprint body one least most]
  | .seq first rest =>
      [together direction first (first.branchFootprints direction) +
        together direction rest (rest.branchFootprints direction)]
  | .alt first rest =>
      together direction first (first.branchFootprints direction) :: rest.branchFootprints direction

def footprint (direction : Direction) (form : Form) : Nat :=
  form.together direction (form.branchFootprints direction)

end Form

/-- Holds if the form matches only where the text starts. -/
def Form.isAnchored : Form → Bool
  | .anchor condition => condition == .textStart
  | .group body => body.isAnchored
  | .repeated body least _ => 0 < least && body.isAnchored
  | .seq first rest => first.isAnchored || (first.isZeroWidth && rest.isAnchored)
  | .alt first rest => first.isAnchored && rest.isAnchored
  | .empty | .literal _ | .oneOf _ => false

/-- What comes before the patterns: any text at all, unless they all match at the start only. -/
def prefixSize (patterns : List Pattern) : Nat :=
  if patterns.all (·.form.isAnchored) then stateSize else branchSize 2 + stateSize

/-- The automaton of several patterns has a state to choose one of them, and one for each to match
in. -/
def footprint (direction : Direction) (patterns : List Pattern) : Nat :=
  match patterns with
  | [only] => only.form.footprint direction + stateSize + prefixSize patterns
  | patterns =>
      patterns.foldr (fun pattern total => pattern.form.footprint direction + stateSize + total)
        (branchSize patterns.length + stateSize + prefixSize patterns)

/-- Ten mebibytes. -/
def maxFootprint : Nat := 10_485_760

/-- Holds if the automata of the patterns are not too large, whichever way they read. -/
def fits (patterns : List Pattern) : Bool :=
  footprint .backward patterns ≤ maxFootprint && footprint .forward patterns ≤ maxFootprint

end ServiceMesh.Pattern
