import ServiceMesh.Pattern.Basic

/-! Patterns in a form without what makes no difference: neighbouring characters are one literal,
sequences and alternations do not nest, alternatives that are sets are one set, and what
alternatives begin with in common stands before them. A group that captures is left as it is
written, and repetitions are not told apart by their greed. -/
namespace ServiceMesh.Pattern

/-- The first of a sequence is no sequence and not empty, and the first of an alternation is no
alternation; a set does not consist of one character, which is a literal. -/
inductive Form where
  | empty
  | literal (text : List Char)
  | oneOf (chars : CharSet)
  | anchor (condition : Anchor)
  | group (body : Form)
  | repeated (body : Form) (least : Nat) (most : Option Nat)
  | seq (first rest : Form)
  | alt (first rest : Form)
deriving DecidableEq

namespace Form

/-- The parts of a sequence. -/
def parts : Form → List Form
  | .empty => []
  | .seq first rest => first :: rest.parts
  | form => [form]

/-- The branches of an alternation. -/
def branches : Form → List Form
  | .alt first rest => first :: rest.branches
  | form => [form]

def isSeq : Form → Bool
  | .seq _ _ => true
  | _ => false

/-- The number of nodes. -/
def size : Form → Nat
  | .group body | .repeated body _ _ => body.size + 1
  | .seq first rest | .alt first rest => first.size + rest.size + 1
  | _ => 1

def ofSet (set : CharSet) : Form :=
  match set.only? with
  | some c => .literal [c]
  | none => .oneOf set

/-- One form after another. -/
def join : Form → Form → Form
  | .empty, next => next
  | first, .empty => first
  | .seq first rest, next => join first (join rest next)
  | .literal text, .literal more => .literal (text ++ more)
  | .literal text, .seq (.literal more) rest => .seq (.literal (text ++ more)) rest
  | first, next => .seq first next

def ofParts (parts : List Form) : Form := parts.foldr join .empty

def ofBranches : List Form → Form
  | [] => .oneOf .empty
  | [only] => only
  | first :: rest => .alt first (ofBranches rest)

def char? : Form → Option Char
  | .literal [c] => some c
  | _ => none

def set? : Form → Option CharSet
  | .oneOf set => some set
  | _ => none

def hasGroup : Form → Bool
  | .group _ => true
  | .repeated body _ _ => body.hasGroup
  | .seq first rest | .alt first rest => first.hasGroup || rest.hasGroup
  | _ => false

/-- The parts that two sequences begin with in common. Groups that capture are never the same. -/
def sharedFront : List Form → List Form → List Form
  | first :: rest, other :: others =>
      if first = other && !first.hasGroup then first :: sharedFront rest others else []
  | _, _ => []

/-- The parts that all branches begin with, if each is a sequence. -/
def commonFront (branches : List Form) : List Form :=
  match branches with
  | first :: rest =>
      if branches.all isSeq then
        rest.foldl (fun front branch => sharedFront front branch.parts) first.parts
      else []
  | [] => []

/-- An alternation of branches. What they begin with in common is drawn to the front, `fuel` times
at most. -/
def choiceWithin : Nat → List Form → Form
  | fuel, given =>
      let flat := given.flatMap branches
      match flat.mapM char?, flat.mapM set? with
      | some chars, _ => ofSet (.ofChars chars)
      | none, some sets => ofSet (sets.foldl CharSet.union .empty)
      | none, none =>
          match fuel with
          | 0 => ofBranches flat
          | fuel + 1 =>
              match commonFront flat with
              | [] => ofBranches flat
              | front =>
                  let rests := flat.map fun branch => ofParts (branch.parts.drop front.length)
                  ofParts (front ++ [choiceWithin fuel rests])

def choice : List Form → Form
  | [only] => only
  | given => choiceWithin (given.foldr (fun form total => form.size + total) 0) given

/-- Holds if whatever the form matches is empty, so that more than one round makes no difference. -/
def isZeroWidth : Form → Bool
  | .empty | .anchor _ => true
  | .literal _ | .oneOf _ => false
  | .group body => body.isZeroWidth
  | .repeated body _ most => body.isZeroWidth && most.isSome
  | .seq first rest | .alt first rest => first.isZeroWidth && rest.isZeroWidth

/-- The least number of characters of a match, if there can be one. -/
def minLength : Form → Option Nat
  | .empty | .anchor _ => some 0
  | .literal text => some text.length
  | .oneOf set => if set.ranges.isEmpty then none else some 1
  | .group body => body.minLength
  | .repeated body least _ => body.minLength.map (· * least)
  | .seq first rest => do return (← first.minLength) + (← rest.minLength)
  | .alt first rest => do return min (← first.minLength) (← rest.minLength)

/-- A repetition. No rounds at all are empty, and one round is the body itself. -/
def rounds (body : Form) (least : Nat) (most : Option Nat) : Form :=
  let (least, most) :=
    if body.isZeroWidth then (min least 1, some (min (most.getD 1) 1)) else (least, most)
  if most = some 0 then .empty
  else if least = 1 && most = some 1 then body
  else .repeated body least most

end Form

/-- The forms of the branches of an alternation, or of the pattern alone. -/
def branchForms : Pattern → List Form
  | .empty => [.empty]
  | .oneOf set => [.ofSet set]
  | .anchor condition => [.anchor condition]
  | .group true body => [.group (.choice body.branchForms)]
  | .group false body => [.choice body.branchForms]
  | .repeated body least most => [Form.rounds (.choice body.branchForms) least most]
  | .seq first second => [(Form.choice first.branchForms).join (.choice second.branchForms)]
  | .alt left right => .choice left.branchForms :: right.branchForms

/-- The form of a pattern. -/
def form (pattern : Pattern) : Form := .choice pattern.branchForms

end ServiceMesh.Pattern
