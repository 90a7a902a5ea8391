import ServiceMesh.Pattern.Basic

/-! Searching all the places up to which a pattern matches. The places of a text are numbered from
its start, and sets of them are numbers whose bit `i` tells whether place `i` is in the set. -/
namespace ServiceMesh.Pattern

/-- The places of a text where a condition holds. -/
def placesWhere (holds : Cursor → Bool) (before : List Char) : List Char → Nat
  | [] => (holds ⟨before, []⟩).toNat
  | c :: rest => (holds ⟨before, c :: rest⟩).toNat + 2 * placesWhere holds (c :: before) rest

def everyPlace (text : List Char) : Nat := placesWhere (fun _ => true) [] text

/-- A pattern laid over a text: for each set of characters the places behind which one of them
follows, and for each anchor the places where it holds. Repetitions have become rounds: a number of
them, up to a number of them, or one and any number more, of which no more than `rounds` can make a
difference. -/
inductive Track where
  | stay
  | step (places : Nat)
  | check (places : Nat)
  | times (body : Track) (rounds : Nat)
  | upTo (body : Track) (rounds : Nat)
  | onward (body : Track) (rounds : Nat)
  | seq (first second : Track)
  | alt (left right : Track)

/-- A repetition without a limit leads from each place to new ones at most once. -/
def Track.repeated (text : List Char) (body : Track) (least : Nat) : Option Nat → Track
  | some most => .seq (.times body least) (.upTo body (most - least))
  | none =>
      let onward := .onward body (text.length + 1)
      match least with
      | 0 => .alt .stay onward
      | before + 1 => .seq (.times body before) onward

/-- The track of a pattern over a text. -/
def track (text : List Char) : Pattern → Track
  | .empty => .stay
  | .oneOf chars => .step (placesWhere (fun cursor => cursor.after.head?.any chars.mem) [] text)
  | .anchor condition => .check (placesWhere (fun cursor => condition.holds cursor) [] text)
  | .group _ body => body.track text
  | .repeated body least most => .repeated text (body.track text) least most
  | .seq first second => .seq (first.track text) (second.track text)
  | .alt left right => .alt (left.track text) (right.track text)

/-- The places of one set that are not in another. -/
def without (places others : Nat) : Nat := (places ||| others) ^^^ others

/-- Exactly so many rounds; further ones are left out when they change nothing. -/
def iterate (step : Nat → Nat) : Nat → Nat → Nat
  | 0, places => places
  | rounds + 1, places =>
      let next := step places
      if next = places then places else iterate step rounds next

/-- At most so many rounds, each from the places that the last one has added. -/
def spread (step : Nat → Nat) : Nat → Nat → Nat → Nat
  | 0, reached, _ => reached
  | rounds + 1, reached, latest =>
      let added := without (step latest) reached
      if added = 0 then reached else spread step rounds (reached ||| added) added

/-- One round or more, each from the places that no round has started from. -/
def advance (step : Nat → Nat) : Nat → Nat → Nat → Nat → Nat
  | 0, _, reached, _ => reached
  | rounds + 1, started, reached, latest =>
      let reached := reached ||| step latest
      let next := without reached started
      if next = 0 then reached else advance step rounds (started ||| next) reached next

/-- Every place up to which the pattern matches from one of some places. -/
def Track.ends : Track → Nat → Nat
  | .stay, places => places
  | .step following, places => 2 * (places &&& following)
  | .check holding, places => places &&& holding
  | .times body rounds, places => iterate body.ends rounds places
  | .upTo body rounds, places => spread body.ends rounds places places
  | .onward body rounds, places => advance body.ends rounds places 0 places
  | .seq first second, places => second.ends (first.ends places)
  | .alt left right, places => left.ends places ||| right.ends places

/-- Holds if the pattern matches some part of the text. -/
def occursIn (pattern : Pattern) (text : List Char) : Bool :=
  (pattern.track text).ends (everyPlace text) != 0

end ServiceMesh.Pattern
