import ServiceMesh.SortedSet
import ServiceMesh.Text.Blank
import ServiceMesh.Text.Split

/-! Consumer groups: proxies that share one snapshot, because they depend on the same services. -/
namespace ServiceMesh

open ServiceMesh.Text

/-- The zones whose endpoints a group sees. -/
inductive View where
  | global
  | «local»
deriving DecidableEq, Repr

def View.rank : View → Nat
  | .global => 0
  | .local => 1

instance : Ord View := ⟨compareOn View.rank⟩

instance : Std.TransOrd View := inferInstanceAs (Std.TransCmp (compareOn View.rank))

instance : Std.LawfulEqOrd View where
  eq_of_compare {a b} equal := by
    have same : a.rank = b.rank := Std.LawfulEqOrd.eq_of_compare equal
    cases a <;> cases b <;> simp_all [View.rank]

/-- The services that a group calls: all of them, or the ones it names. -/
inductive Dependencies where
  | all
  | services (names : SortedSet String)
deriving DecidableEq

/-- The named services, none for a wildcard. -/
def Dependencies.names? : Dependencies → Option (SortedSet String)
  | .all => none
  | .services names => some names

instance : Ord Dependencies := ⟨compareOn Dependencies.names?⟩

instance : Std.TransOrd Dependencies := inferInstanceAs (Std.TransCmp (compareOn Dependencies.names?))

instance : Std.LawfulEqOrd Dependencies where
  eq_of_compare {a b} equal := by
    have same : a.names? = b.names? := Std.LawfulEqOrd.eq_of_compare equal
    cases a <;> cases b <;> simp_all [Dependencies.names?]

structure ConsumerGroup where
  service : String
  view : View
  dependencies : Dependencies
deriving DecidableEq

namespace ConsumerGroup

/-- Groups are ordered by service, then view, then dependencies. -/
instance : Ord ConsumerGroup :=
  ⟨compareLex (compareOn service) (compareLex (compareOn view) (compareOn dependencies))⟩

instance : Std.TransOrd ConsumerGroup :=
  inferInstanceAs (Std.TransCmp
    (compareLex (compareOn service) (compareLex (compareOn view) (compareOn dependencies))))

instance : Std.LawfulEqOrd ConsumerGroup where
  eq_of_compare {a b} equal := by
    have equal : compareLex (compareOn service)
      (compareLex (compareOn view) (compareOn dependencies)) a b = .eq := equal
    simp only [compareLex_eq_eq, compareOn, Std.LawfulEqOrd.compare_eq_iff_eq] at equal
    obtain ⟨service, view, dependencies⟩ := equal
    cases a
    cases b
    simp_all

def isWildcard (group : ConsumerGroup) : Bool := group.dependencies == .all

def dependsOn (group : ConsumerGroup) (service : String) : Bool :=
  match group.dependencies with
  | .all => true
  | .services names => names.contains service

/-- The text of a group: `web`, `:local` unless the view is global, and the dependencies. -/
def render (group : ConsumerGroup) : String :=
  let view := match group.view with
    | .global => ""
    | .local => ":local"
  let dependencies := match group.dependencies with
    | .all => "*"
    | .services names => String.intercalate "+" names.toList
  group.service ++ view ++ "=" ++ dependencies

inductive ParseError where
  | missingName
  | unknownView (view : String)
deriving DecidableEq, Repr

def ParseError.message : ParseError → String
  | .missingName => "consumer group must name a service"
  | .unknownView view => "unknown view '" ++ view ++ "', expected 'global' or 'local'"

/-- Reads `name` or `name:view`. -/
def parseHead (head : List Char) : Except ParseError (List Char × View) :=
  match cut? ':' head with
  | none => .ok (head, .global)
  | some (name, view) =>
      match String.ofList view with
      | "global" => .ok (name, .global)
      | "local" => .ok (name, .local)
      | view => .error (.unknownView view)

/-- Reads `*`, or names joined by `+`. White space around names and empty names are ignored. -/
def parseDependencies (text : List Char) : Dependencies :=
  match trim text with
  | ['*'] => .all
  | text =>
      let names := ((pieces '+' text).map trim).filter (!·.isEmpty)
      .services (SortedSet.ofList (names.map String.ofList))

/-- Reads `name`, `name:view`, and either followed by `=` and dependencies; without them the group
depends on all services. -/
def parseChars (text : List Char) : Except ParseError ConsumerGroup := do
  let (head, dependencies) := match cut? '=' text with
    | some (head, dependencies) => (head, parseDependencies dependencies)
    | none => (text, .all)
  let (name, view) ← parseHead head
  let name := trim name
  if name.isEmpty then throw .missingName
  return ⟨String.ofList name, view, dependencies⟩

def parse (text : String) : Except ParseError ConsumerGroup := parseChars text.toList

end ConsumerGroup

end ServiceMesh
