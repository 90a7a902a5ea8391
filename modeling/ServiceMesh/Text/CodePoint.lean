/-! Tables of code points, as ascending inclusive ranges with gaps between them. -/
namespace ServiceMesh.Text

abbrev CodePointRanges := List (Nat × Nat)

namespace CodePointRanges

def contains (ranges : CodePointRanges) (code : Nat) : Bool :=
  ranges.any fun range => range.1 ≤ code && code ≤ range.2

def lastCodePoint : Nat := 0x10FFFF

/-- Adds a range; ranges that overlap or touch become one. -/
def insert (first last : Nat) : CodePointRanges → CodePointRanges
  | [] => [(first, last)]
  | (low, high) :: rest =>
      if last + 1 < low then (first, last) :: (low, high) :: rest
      else if high + 1 < first then (low, high) :: insert first last rest
      else insert (min first low) (max last high) rest

/-- The ranges in ascending order, whatever order they are given in. -/
def ofList (ranges : List (Nat × Nat)) : CodePointRanges :=
  ranges.foldr (fun range merged => merged.insert range.1 range.2) []

def union (left right : CodePointRanges) : CodePointRanges :=
  right.foldr (fun range merged => merged.insert range.1 range.2) left

/-- What the ranges leave out from a code point on. -/
def gapsFrom (start : Nat) : CodePointRanges → CodePointRanges
  | [] => if start ≤ lastCodePoint then [(start, lastCodePoint)] else []
  | (low, high) :: rest =>
      if start < low then (start, low - 1) :: gapsFrom (high + 1) rest else gapsFrom (high + 1) rest

def complement (ranges : CodePointRanges) : CodePointRanges := gapsFrom 0 ranges

def inter (left right : CodePointRanges) : CodePointRanges :=
  complement (union (complement left) (complement right))

def diff (left right : CodePointRanges) : CodePointRanges := inter left (complement right)

end CodePointRanges

end ServiceMesh.Text
