/-! The library that compiles regular expressions. What it does with texts is up to it. -/
namespace ServiceMesh

/-- Why the library refuses texts: one of them is no pattern, or is nested too deep, or compiled they
exceed its limit on size. -/
inductive PatternError where
  | malformed
  | tooLarge
deriving DecidableEq, Repr

structure PatternLibrary where
  /-- Compiles texts into a set, which tells in which names one of them finds a match. -/
  compile : List String → Except PatternError (String → Bool)

end ServiceMesh
