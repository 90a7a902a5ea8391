import ServiceMesh.Number.Decimal
import ServiceMesh.Pattern.Basic
import ServiceMesh.Text.Numeric

/-! Reading patterns: literals, escapes, classes, groups, repetitions, alternations and flags. How
deep the parts of a pattern are nested is counted along the way, since it has a limit. Of the
language of the library, classes by Unicode properties are not read, nor are the flags that change
what a line or a character is or that let patterns have layout and comments in them. -/
namespace ServiceMesh.Pattern

open ServiceMesh.Number (digitValue ofDigits)

/-- What flags such as `(?i)` have set. Greed has no say in whether a pattern matches. -/
structure Flags where
  ignoreCase : Bool
  multiLine : Bool
  dotMatchesNewline : Bool

def Flags.default : Flags := ⟨false, false, false⟩

/-! ### Nesting -/

/-- Patterns nested deeper than this are refused. -/
def maxNesting : Nat := 250

/-- The nesting of a row of parts: two or more of them are one level deeper than the deepest. -/
def rowNesting : List Nat → Nat
  | [] => 0
  | [only] => only
  | parts => parts.foldr max 0 + 1

/-! ### Escapes -/

inductive Atom where
  | literal (c : Char)
  | set (chars : CharSet)
  | anchor (condition : Anchor)

def hexValue? (c : Char) : Option Nat :=
  if c.isDigit then some (digitValue c)
  else if 'a' ≤ c && c ≤ 'f' then some (c.toNat - 'a'.toNat + 10)
  else if 'A' ≤ c && c ≤ 'F' then some (c.toNat - 'A'.toNat + 10)
  else none

/-- The character of a hexadecimal code. -/
def charOfHex? (digits : List Char) : Option Char := do
  if digits.isEmpty then none
  let values ← digits.mapM hexValue?
  let code := values.foldl (fun n d => 16 * n + d) 0
  if code.isValidChar then some (Char.ofNat code) else none

/-- A code of exactly `count` digits, or of any number of digits in braces. -/
def hexEscape (count : Nat) : List Char → Option (Atom × List Char)
  | '\x7b' :: rest =>
      match rest.dropWhile (· != '\x7d') with
      | [] => none
      | _ :: after => do return (.literal (← charOfHex? (rest.takeWhile (· != '\x7d'))), after)
  | rest => do
      if rest.length < count then none
      return (.literal (← charOfHex? (rest.take count)), rest.drop count)

def isSpecialBoundaryChar (c : Char) : Bool := c.isAlpha || c == '-'

/-- A word boundary, of a special kind if a name in braces follows. Braces around something else
are left for a repetition. -/
def boundaryEscape (rest : List Char) : Option (Atom × List Char) :=
  match rest with
  | '\x7b' :: inner =>
      if inner.head?.any isSpecialBoundaryChar then
        match inner.dropWhile isSpecialBoundaryChar with
        | '\x7d' :: after =>
            match String.ofList (inner.takeWhile isSpecialBoundaryChar) with
            | "start" => some (.anchor .wordStart, after)
            | "end" => some (.anchor .wordEnd, after)
            | "start-half" => some (.anchor .noWordBefore, after)
            | "end-half" => some (.anchor .noWordAfter, after)
            | _ => none
        | _ => none
      else some (.anchor .wordBoundary, rest)
  | _ => some (.anchor .wordBoundary, rest)

/-- ASCII punctuation other than the two signs that stand for word boundaries can always be
escaped. -/
def isEscapable (c : Char) : Bool := c.toNat < 0x80 && !c.isAlphanum && c != '<' && c != '>'

/-- What an escape stands for, read behind its backslash. -/
def readEscape : List Char → Option (Atom × List Char)
  | [] => none
  | c :: rest =>
      match c with
      | 'x' => hexEscape 2 rest
      | 'u' => hexEscape 4 rest
      | 'U' => hexEscape 8 rest
      | 'd' => some (.set .digit, rest)
      | 's' => some (.set .space, rest)
      | 'w' => some (.set .word, rest)
      | 'D' => some (.set CharSet.digit.complement, rest)
      | 'S' => some (.set CharSet.space.complement, rest)
      | 'W' => some (.set CharSet.word.complement, rest)
      | 'a' => some (.literal '\x07', rest)
      | 'f' => some (.literal '\x0c', rest)
      | 't' => some (.literal '\t', rest)
      | 'n' => some (.literal '\n', rest)
      | 'r' => some (.literal '\r', rest)
      | 'v' => some (.literal '\x0b', rest)
      | 'A' => some (.anchor .textStart, rest)
      | 'z' => some (.anchor .textEnd, rest)
      | 'B' => some (.anchor .noWordBoundary, rest)
      | 'b' => boundaryEscape rest
      | '<' => some (.anchor .wordStart, rest)
      | '>' => some (.anchor .wordEnd, rest)
      | c => if isEscapable c then some (.literal c, rest) else none

/-! ### Classes -/

inductive ClassOp where
  | inter
  | difference
  | symmetricDifference

def Flags.fold (flags : Flags) (set : CharSet) : CharSet :=
  if flags.ignoreCase then set.folded else set

/-- A set with the nesting of its text. -/
structure ClassPart where
  set : CharSet
  nesting : Nat

/-- The items of a class since its last operator: all their characters, and the nesting of each. -/
structure ClassItems where
  set : CharSet
  nestings : List Nat

def ClassItems.none : ClassItems := ⟨.empty, []⟩

def ClassItems.add (items : ClassItems) (part : ClassPart) : ClassItems :=
  ⟨items.set.union part.set, part.nesting :: items.nestings⟩

def ClassItems.part (items : ClassItems) : ClassPart := ⟨items.set, rowNesting items.nestings⟩

/-- What stands before an operator, if one is pending. -/
abbrev Pending := Option (ClassOp × ClassPart)

/-- Joins what stands before an operator with what stands after it, one level deeper. -/
def Flags.combine (flags : Flags) (pending : Pending) (right : ClassPart) : ClassPart :=
  match pending with
  | none => right
  | some (op, left) =>
      let first := flags.fold left.set
      let second := flags.fold right.set
      let set := match op with
        | .inter => first.inter second
        | .difference => first.without second
        | .symmetricDifference => first.symmetricDifference second
      ⟨set, max left.nesting right.nesting + 1⟩

def Flags.finish (flags : Flags) (negated : Bool) (set : CharSet) : CharSet :=
  if negated then (flags.fold set).complement else flags.fold set

/-- A named set such as `[:alpha:]` behind its opening bracket. -/
def namedClass? (flags : Flags) (input : List Char) : Option (CharSet × List Char) :=
  match input with
  | ':' :: rest =>
      let (negated, rest) := match rest with
        | '^' :: rest => (true, rest)
        | rest => (false, rest)
      match rest.dropWhile (· != ':') with
      | ':' :: ']' :: after => do
          let set ← CharSet.named? (rest.takeWhile (· != ':'))
          return (flags.finish negated set, after)
      | _ => none
  | _ => none

def classAtom : List Char → Option (Atom × List Char)
  | [] => none
  | '\\' :: rest => readEscape rest
  | c :: rest => some (.literal c, rest)

def Atom.toSet? : Atom → Option CharSet
  | .literal c => some (.single c)
  | .set chars => some chars
  | .anchor _ => none

/-- One character, a range of characters, or an escaped set. -/
def classItem (input : List Char) : Option (CharSet × List Char) := do
  let (first, rest) ← classAtom input
  match rest with
  | '-' :: ']' :: _ | '-' :: '-' :: _ => return (← first.toSet?, rest)
  | '-' :: after => do
      let (last, rest) ← classAtom after
      let .literal low := first | none
      let .literal high := last | none
      if high < low then none
      return (.range low high, rest)
  | rest => return (← first.toSet?, rest)

/-- Hyphens at the front of a class, and a bracket that comes first, stand for themselves. -/
def leadingHyphens : List Char → Nat × List Char
  | '-' :: rest =>
      let (count, rest) := leadingHyphens rest
      (count + 1, rest)
  | input => (0, input)

def classFront (input : List Char) : ClassItems × List Char :=
  match leadingHyphens input with
  | (0, ']' :: rest) => (⟨.single ']', [0]⟩, rest)
  | (0, rest) => (.none, rest)
  | (count, rest) => (⟨.single '-', List.replicate count 0⟩, rest)

mutual

/-- A class behind its opening bracket; its brackets are a level of their own. -/
def readClass (flags : Flags) : Nat → List Char → Option (ClassPart × List Char)
  | 0, _ => none
  | fuel + 1, input =>
      let (negated, input) := match input with
        | '^' :: rest => (true, rest)
        | input => (false, input)
      let (front, rest) := classFront input
      do
        let (part, rest) ← readClassItems flags fuel none front rest
        return (⟨flags.finish negated part.set, part.nesting + 1⟩, rest)

/-- The further items of a class up to its closing bracket. -/
def readClassItems (flags : Flags) :
    Nat → Pending → ClassItems → List Char → Option (ClassPart × List Char)
  | 0, _, _, _ => none
  | fuel + 1, pending, items, input =>
      let continueBehind (op : ClassOp) (rest : List Char) :=
        readClassItems flags fuel (some (op, flags.combine pending items.part)) .none rest
      match input with
      | [] => none
      | ']' :: rest => some (flags.combine pending items.part, rest)
      | '[' :: rest =>
          match namedClass? flags rest with
          | some (named, rest) => readClassItems flags fuel pending (items.add ⟨named, 0⟩) rest
          | none => do
              let (nested, rest) ← readClass flags fuel rest
              readClassItems flags fuel pending (items.add nested) rest
      | '&' :: '&' :: rest => continueBehind .inter rest
      | '-' :: '-' :: rest => continueBehind .difference rest
      | '~' :: '~' :: rest => continueBehind .symmetricDifference rest
      | input => do
          let (set, rest) ← classItem input
          readClassItems flags fuel pending (items.add ⟨set, 0⟩) rest

end

/-! ### Repetitions -/

/-- A decimal number below 2^32, with white space around it. -/
def readCount (input : List Char) : Option (Nat × List Char) :=
  let input := input.dropWhile Text.isBlank
  let digits := input.takeWhile Char.isDigit
  if digits.isEmpty || UInt32.size ≤ ofDigits digits then none
  else some (ofDigits digits, (input.dropWhile Char.isDigit).dropWhile Text.isBlank)

/-- The counts of a repetition such as `{2,5}` behind its opening brace. -/
def readCounts (input : List Char) : Option (Nat × Option Nat × List Char) := do
  let (least, rest) ← readCount input
  match rest with
  | '\x7d' :: rest => return (least, some least, rest)
  | ',' :: '\x7d' :: rest => return (least, none, rest)
  | ',' :: rest => do
      let (most, rest) ← readCount rest
      let '\x7d' :: rest := rest | none
      if most < least then none
      return (least, some most, rest)
  | _ => none

/-- A question mark behind a repetition makes it lazy, which has no say here. -/
def skipLazy : List Char → List Char
  | '?' :: rest => rest
  | input => input

/-! ### Groups and flags -/

def isNameStart (c : Char) : Bool := c == '_' || Text.isAlphabetic c

def isNameChar (c : Char) : Bool :=
  Text.isAlphanumeric c || c == '_' || c == '.' || c == '[' || c == ']'

/-- The name of a group up to its closing angle bracket; a name can be used once. -/
def readGroupName (names : List (List Char)) (input : List Char) :
    Option (List Char × List Char) :=
  let name := input.takeWhile (· != '>')
  match input.dropWhile (· != '>') with
  | [] => none
  | _ :: rest =>
      if name.head?.any isNameStart && name.all isNameChar && !names.contains name then
        some (name, rest)
      else none

/-- One flag letter, switched on or off. -/
def Flags.set? (flags : Flags) (letter : Char) (value : Bool) : Option Flags :=
  match letter with
  | 'i' => some { flags with ignoreCase := value }
  | 'm' => some { flags with multiLine := value }
  | 's' => some { flags with dotMatchesNewline := value }
  | 'U' => some flags
  | 'u' => if value then some flags else none
  | _ => none

/-- Flag letters up to a colon or a closing parenthesis; those behind a hyphen are switched off.
No letter comes twice, and a hyphen has a letter behind it. Returns the letters, how many have been
read, and the rest from the closing sign on. -/
def readFlags (flags : Flags) (seen : List Char) (value : Bool) (last : Char) :
    List Char → Option (Flags × List Char × List Char)
  | [] => none
  | c :: rest =>
      if c == ':' || c == ')' then
        if last == '-' then none else some (flags, seen, c :: rest)
      else if seen.contains c then none
      else if c == '-' then readFlags flags ('-' :: seen) false '-' rest
      else do readFlags (← flags.set? c value) (c :: seen) value c rest

/-! ### Patterns -/

structure Scan where
  flags : Flags
  names : List (List Char)
  input : List Char

/-- A pattern with the nesting of its text. -/
structure Nested where
  pattern : Pattern
  nesting : Nat

/-- A part of a sequence; flags are no pattern that could be repeated. -/
structure Part extends Nested where
  repeatable : Bool

/-- The branches of an alternation that are complete, last first, and the parts of the current one,
last first. -/
structure Progress where
  branches : List Nested
  parts : List Part

def Progress.start : Progress := ⟨[], []⟩

def Progress.branch (progress : Progress) : Nested :=
  let parts := progress.parts.reverse
  ⟨Pattern.concat (parts.map (·.pattern)), rowNesting (parts.map (·.nesting))⟩

def Progress.push (progress : Progress) (pattern : Pattern) (nesting : Nat) : Progress :=
  { progress with parts := ⟨⟨pattern, nesting⟩, true⟩ :: progress.parts }

/-- Adds flags, which take a place in the row without being a pattern. -/
def Progress.pushFlags (progress : Progress) : Progress :=
  { progress with parts := ⟨⟨.empty, 0⟩, false⟩ :: progress.parts }

def Progress.next (progress : Progress) : Progress :=
  ⟨progress.branch :: progress.branches, []⟩

def Progress.finish (progress : Progress) : Nested :=
  let branches := progress.branch :: progress.branches
  let pattern := match branches.reverse with
    | [] => .empty
    | first :: rest => Pattern.choice first.pattern (rest.map (·.pattern))
  ⟨pattern, rowNesting (branches.map (·.nesting))⟩

/-- Repeats the last part, which nests it one level deeper. -/
def Progress.repeatLast (progress : Progress) (least : Nat) (most : Option Nat) : Option Progress :=
  match progress.parts with
  | ⟨⟨body, nesting⟩, true⟩ :: parts =>
      some { progress with parts := ⟨⟨.repeated body least most, nesting + 1⟩, true⟩ :: parts }
  | _ => none

def Flags.literal (flags : Flags) (c : Char) : Pattern := .oneOf (flags.fold (.single c))

def Flags.atom (flags : Flags) : Atom → Pattern
  | .literal c => flags.literal c
  | .set chars => .oneOf chars
  | .anchor condition => .anchor condition

def Flags.dot (flags : Flags) : Pattern :=
  .oneOf (if flags.dotMatchesNewline then CharSet.empty.complement
    else (CharSet.single '\n').complement)

def Flags.lineStart (flags : Flags) : Pattern :=
  .anchor (if flags.multiLine then .lineStart else .textStart)

def Flags.lineEnd (flags : Flags) : Pattern :=
  .anchor (if flags.multiLine then .lineEnd else .textEnd)

/-- What an opening parenthesis begins: a group with its flags, or flags for the rest of the group
around it. -/
inductive Opening where
  | group (captures : Bool) (flags : Flags)
  | flags (flags : Flags)

/-- What follows an opening parenthesis up to the content of the group. -/
def readOpening (scan : Scan) (input : List Char) : Option (Opening × Scan) :=
  let named (rest : List Char) := do
    let (name, rest) ← readGroupName scan.names rest
    return (Opening.group true scan.flags, { scan with names := name :: scan.names, input := rest })
  match input with
  | '?' :: 'P' :: '<' :: rest => named rest
  | '?' :: '<' :: rest =>
      match rest with
      | '=' :: _ | '!' :: _ => none
      | rest => named rest
  | '?' :: '=' :: _ | '?' :: '!' :: _ => none
  | '?' :: rest => do
      let (flags, seen, rest) ← readFlags scan.flags [] true ' ' rest
      match rest with
      | ')' :: rest =>
          if seen.isEmpty then none else return (.flags flags, { scan with input := rest })
      | _ :: rest => return (.group false flags, { scan with input := rest })
      | [] => none
  | rest => some (.group true scan.flags, { scan with input := rest })

/-- Reads on up to the parenthesis that closes the group at hand, or to the end. Each call uses up
input, which `fuel` bounds. -/
def readBranches : Nat → Progress → Scan → Option (Nested × Scan)
  | 0, _, _ => none
  | fuel + 1, progress, scan =>
      let continueWith (progress : Progress) (rest : List Char) :=
        readBranches fuel progress { scan with input := rest }
      match scan.input with
      | [] => some (progress.finish, { scan with input := [] })
      | ')' :: rest => some (progress.finish, { scan with input := ')' :: rest })
      | '|' :: rest => continueWith progress.next rest
      | '(' :: rest => do
          match ← readOpening scan rest with
          | (.flags flags, inner) =>
              readBranches fuel progress.pushFlags { inner with flags := flags }
          | (.group captures flags, inner) =>
              let (body, inner) ← readBranches fuel .start { inner with flags := flags }
              let ')' :: rest := inner.input | none
              readBranches fuel (progress.push (.group captures body.pattern) (body.nesting + 1))
                { inner with flags := scan.flags, input := rest }
      | '[' :: rest => do
          let (part, rest) ← readClass scan.flags fuel rest
          continueWith (progress.push (.oneOf part.set) part.nesting) rest
      | '*' :: rest => do continueWith (← progress.repeatLast 0 none) (skipLazy rest)
      | '+' :: rest => do continueWith (← progress.repeatLast 1 none) (skipLazy rest)
      | '?' :: rest => do continueWith (← progress.repeatLast 0 (some 1)) (skipLazy rest)
      | '\x7b' :: rest => do
          let (least, most, rest) ← readCounts rest
          continueWith (← progress.repeatLast least most) (skipLazy rest)
      | '\\' :: rest => do
          let (atom, rest) ← readEscape rest
          continueWith (progress.push (scan.flags.atom atom) 0) rest
      | '.' :: rest => continueWith (progress.push scan.flags.dot 0) rest
      | '^' :: rest => continueWith (progress.push scan.flags.lineStart 0) rest
      | '$' :: rest => continueWith (progress.push scan.flags.lineEnd 0) rest
      | c :: rest => continueWith (progress.push (scan.flags.literal c) 0) rest

def parseChars? (text : List Char) : Option Pattern := do
  let (nested, scan) ← readBranches (text.length + 1) .start ⟨.default, [], text⟩
  if scan.input.isEmpty && nested.nesting ≤ maxNesting then some nested.pattern else none

/-- The pattern that a text writes, if it is a valid one. -/
def parse? (text : String) : Option Pattern := parseChars? text.toList

end ServiceMesh.Pattern
