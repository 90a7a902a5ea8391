import ServiceMesh.Text.Blank
import ServiceMesh.Text.CaseFold
import ServiceMesh.Text.Digit
import ServiceMesh.Text.Word

/-! Sets of characters as patterns write them. -/
namespace ServiceMesh.Pattern

open ServiceMesh.Text (CodePointRanges)

structure CharSet where
  ranges : CodePointRanges
deriving DecidableEq, Repr

namespace CharSet

def mem (c : Char) (set : CharSet) : Bool := set.ranges.contains c.toNat

def empty : CharSet := ⟨[]⟩

def digit : CharSet := ⟨Text.decimalDigits⟩

def space : CharSet := ⟨Text.blanks⟩

def word : CharSet := ⟨Text.wordCharacters⟩

def range (first last : Char) : CharSet := ⟨[(first.toNat, last.toNat)]⟩

def single (c : Char) : CharSet := range c c

def ofRanges (ranges : List (Char × Char)) : CharSet :=
  ⟨.ofList (ranges.map fun range => (range.1.toNat, range.2.toNat))⟩

def ofChars (chars : List Char) : CharSet := ofRanges (chars.map fun c => (c, c))

def union (left right : CharSet) : CharSet := ⟨left.ranges.union right.ranges⟩

def inter (left right : CharSet) : CharSet := ⟨left.ranges.inter right.ranges⟩

def without (left right : CharSet) : CharSet := ⟨left.ranges.diff right.ranges⟩

def complement (set : CharSet) : CharSet := ⟨set.ranges.complement⟩

/-- What is in exactly one of the two sets. -/
def symmetricDifference (left right : CharSet) : CharSet :=
  (left.without right).union (right.without left)

/-- The set with every character that differs from one of its characters in case only. -/
def folded (set : CharSet) : CharSet :=
  set.union (ofChars ((Text.casedCharacters.filter set.mem).flatMap Text.caseVariants))

/-- The only character of a set, if there is only one. -/
def only? (set : CharSet) : Option Char :=
  match set.ranges with
  | [(first, last)] => if first = last then some (Char.ofNat first) else none
  | _ => none

/-- The named sets of ASCII characters. -/
def named? (name : List Char) : Option CharSet :=
  match String.ofList name with
  | "alnum" => some (ofRanges [('0', '9'), ('A', 'Z'), ('a', 'z')])
  | "alpha" => some (ofRanges [('A', 'Z'), ('a', 'z')])
  | "ascii" => some (ofRanges [('\x00', '\x7f')])
  | "blank" => some (ofRanges [('\t', '\t'), (' ', ' ')])
  | "cntrl" => some (ofRanges [('\x00', '\x1f'), ('\x7f', '\x7f')])
  | "digit" => some (ofRanges [('0', '9')])
  | "graph" => some (ofRanges [('!', '~')])
  | "lower" => some (ofRanges [('a', 'z')])
  | "print" => some (ofRanges [(' ', '~')])
  | "punct" => some (ofRanges [('!', '/'), (':', '@'), ('[', '\x60'), ('\x7b', '~')])
  | "space" => some (ofRanges [('\t', '\r'), (' ', ' ')])
  | "upper" => some (ofRanges [('A', 'Z')])
  | "word" => some (ofRanges [('0', '9'), ('A', 'Z'), ('_', '_'), ('a', 'z')])
  | "xdigit" => some (ofRanges [('0', '9'), ('A', 'F'), ('a', 'f')])
  | _ => none

end CharSet

end ServiceMesh.Pattern
