import ServiceMesh.Text.CodePoint

/-! The encodings of ranges of characters, as sequences of ranges of bytes. -/
namespace ServiceMesh.Text

/-- The bytes that may stand at one position, first and last. -/
abbrev ByteRange := Nat × Nat

/-- The encodings of the numbers from `first` to `last`: a first byte, counted from `base`, and
`more` bytes with six bits each. -/
def encodings (base first last : Nat) : Nat → List (List ByteRange)
  | 0 => [[(base + first, base + last)]]
  | more + 1 =>
      let block := Nat.pow 64 (more + 1)
      let low := first / block
      let high := last / block
      let under (lead : Nat) (first last : Nat) :=
        (encodings 0x80 first last more).map ((base + lead, base + lead) :: ·)
      if low = high then under low (first % block) (last % block)
      else
        let front := if first % block = 0 then [] else under low (first % block) (block - 1)
        let back := if last % block = block - 1 then [] else under high 0 (last % block)
        let low := if front.isEmpty then low else low + 1
        let high := if back.isEmpty then high + 1 else high
        let free := List.replicate (more + 1) (0x80, 0xBF)
        let middle := if low < high then [(base + low, base + (high - 1)) :: free] else []
        front ++ middle ++ back

/-- A stretch of code points whose encodings have one length: the base of the first byte and the
number of further bytes. -/
structure Stretch where
  first : Nat
  last : Nat
  base : Nat
  more : Nat

/-- All code points but surrogates, which have no encoding. -/
def stretches : List Stretch :=
  [
    ⟨0, 0x7F, 0, 0⟩, ⟨0x80, 0x7FF, 0xC0, 1⟩, ⟨0x800, 0xD7FF, 0xE0, 2⟩, ⟨0xE000, 0xFFFF, 0xE0, 2⟩,
    ⟨0x10000, 0x10FFFF, 0xF0, 3⟩]

/-- The encodings of the characters in a range of code points, in ascending order. -/
def rangeEncodings (range : Nat × Nat) : List (List ByteRange) :=
  stretches.flatMap fun stretch =>
    let first := max range.1 stretch.first
    let last := min range.2 stretch.last
    if first ≤ last then encodings stretch.base first last stretch.more else []

def CodePointRanges.encodings (ranges : CodePointRanges) : List (List ByteRange) :=
  ranges.flatMap rangeEncodings

end ServiceMesh.Text
