import ServiceMesh.Pattern.Library

/-! Patterns of service names that are kept out of the mesh. -/
namespace ServiceMesh

/-- A compiled set of patterns: the names in which it finds a match are kept out. -/
structure Denylist where
  excludes : String → Bool

namespace Denylist

/-- No patterns at all. -/
def empty : Denylist := ⟨fun _ => false⟩

/-- The text of a pattern with anchors at both ends. -/
def anchored (pattern : String) : String := "^(?:" ++ pattern ++ ")$"

/-- Has the library compile the patterns, each between its anchors. -/
def ofPatterns (library : PatternLibrary) (patterns : List String) : Except PatternError Denylist :=
  (library.compile (patterns.map anchored)).map Denylist.mk

end Denylist

end ServiceMesh
