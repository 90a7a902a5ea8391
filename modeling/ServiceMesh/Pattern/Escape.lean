/-! Texts as patterns of themselves. -/
namespace ServiceMesh.Pattern

/-- Characters that mean something else than themselves in some part of a pattern. -/
def metaCharacters : List Char :=
  ['\\', '.', '+', '*', '?', '(', ')', '|', '[', ']', '\x7b', '\x7d', '^', '$', '#', '&', '-', '~']

/-- The text with a backslash before each character that could mean something else than itself. -/
def escape (text : List Char) : List Char :=
  text.flatMap fun c => if metaCharacters.contains c then ['\\', c] else [c]

end ServiceMesh.Pattern
