import ServiceMesh.Pattern.CharSet

/-! Regular expressions with anchors, and when one matches a part of a text. -/
namespace ServiceMesh

/-- A place in a text: what stands before it, last character first, and what stands after it. -/
structure Cursor where
  before : List Char
  after : List Char
deriving DecidableEq, Repr

namespace Cursor

def start (text : List Char) : Cursor := ⟨[], text⟩

def wordBefore (cursor : Cursor) : Bool := cursor.before.head?.any Text.isWord

def wordAfter (cursor : Cursor) : Bool := cursor.after.head?.any Text.isWord

end Cursor

namespace Pattern

/-- Conditions on a place that use up no text. -/
inductive Anchor where
  | textStart
  | textEnd
  | lineStart
  | lineEnd
  | wordBoundary
  | noWordBoundary
  | wordStart
  | wordEnd
  | noWordBefore
  | noWordAfter
deriving DecidableEq, Repr

def Anchor.holds (cursor : Cursor) : Anchor → Bool
  | .textStart => cursor.before.isEmpty
  | .textEnd => cursor.after.isEmpty
  | .lineStart => cursor.before.head?.all (· == '\n')
  | .lineEnd => cursor.after.head?.all (· == '\n')
  | .wordBoundary => cursor.wordBefore != cursor.wordAfter
  | .noWordBoundary => cursor.wordBefore == cursor.wordAfter
  | .wordStart => !cursor.wordBefore && cursor.wordAfter
  | .wordEnd => cursor.wordBefore && !cursor.wordAfter
  | .noWordBefore => !cursor.wordBefore
  | .noWordAfter => !cursor.wordAfter

def Anchor.testsWords : Anchor → Bool
  | .textStart | .textEnd | .lineStart | .lineEnd => false
  | _ => true

end Pattern

/-- A group matches what its body does. A repetition has at most `most` rounds, if that is given. -/
inductive Pattern where
  | empty
  | oneOf (chars : Pattern.CharSet)
  | anchor (condition : Pattern.Anchor)
  | group (captures : Bool) (body : Pattern)
  | repeated (body : Pattern) (least : Nat) (most : Option Nat)
  | seq (first second : Pattern)
  | alt (left right : Pattern)
deriving DecidableEq, Repr

namespace Pattern

/-- The places up to which a pattern can match from a place. -/
inductive Matches : Pattern → Cursor → Cursor → Prop
  | empty {c : Cursor} : Matches .empty c c
  | oneOf {chars : CharSet} {x : Char} {before after : List Char} :
      chars.mem x = true → Matches (.oneOf chars) ⟨before, x :: after⟩ ⟨x :: before, after⟩
  | anchor {condition : Anchor} {c : Cursor} :
      condition.holds c = true → Matches (.anchor condition) c c
  | group {captures : Bool} {p : Pattern} {a b : Cursor} :
      Matches p a b → Matches (.group captures p) a b
  | repeatedDone {p : Pattern} {most : Option Nat} {c : Cursor} : Matches (.repeated p 0 most) c c
  | repeatedMore {p : Pattern} {least : Nat} {most : Option Nat} {a b c : Cursor} :
      most ≠ some 0 → Matches p a b → Matches (.repeated p (least - 1) (most.map (· - 1))) b c →
      Matches (.repeated p least most) a c
  | seq {p q : Pattern} {a b c : Cursor} : Matches p a b → Matches q b c → Matches (.seq p q) a c
  | altLeft {p q : Pattern} {a b : Cursor} : Matches p a b → Matches (.alt p q) a b
  | altRight {p q : Pattern} {a b : Cursor} : Matches q a b → Matches (.alt p q) a b

def concat (parts : List Pattern) : Pattern := parts.foldr .seq .empty

/-- Holds if somewhere it matters whether a character belongs to a word. A body that is repeated no
times at all does not matter. -/
def testsWords : Pattern → Bool
  | .anchor condition => condition.testsWords
  | .group _ body => body.testsWords
  | .repeated body _ most => most != some 0 && body.testsWords
  | .seq first second => first.testsWords || second.testsWords
  | .alt left right => left.testsWords || right.testsWords
  | .empty | .oneOf _ => false

/-- The first alternative, or one of the further ones. -/
def choice (first : Pattern) : List Pattern → Pattern
  | [] => first
  | second :: rest => .alt first (choice second rest)

end Pattern

end ServiceMesh
