import ServiceMesh.Text.CodePoint

/-! The characters of the Unicode property White_Space, and what is left of a text without them at
its ends. -/
namespace ServiceMesh.Text

def blanks : CodePointRanges :=
  [
    (0x9, 0xD), (0x20, 0x20), (0x85, 0x85), (0xA0, 0xA0), (0x1680, 0x1680), (0x2000, 0x200A),
    (0x2028, 0x2029), (0x202F, 0x202F), (0x205F, 0x205F), (0x3000, 0x3000)]

/-- Holds for white space of every script. -/
def isBlank (c : Char) : Bool := blanks.contains c.toNat

def trimStart (text : List Char) : List Char := text.dropWhile isBlank

def trimEnd (text : List Char) : List Char := (text.reverse.dropWhile isBlank).reverse

/-- The text without the white space at its two ends. -/
def trim (text : List Char) : List Char := trimEnd (trimStart text)

end ServiceMesh.Text
