import ServiceMesh.Text.Split
import ServiceMesh.Text.Utf8

/-! The targets of requests: a path with an optional query, a whole address, an authority alone,
or an asterisk. Only the path of a target counts. -/
namespace ServiceMesh.Admin

open ServiceMesh.Text (cut?)

def isLetterOrDigit (c : Char) : Bool := c.isAlpha || c.isDigit

/-- The characters of a method's name. -/
def isTokenChar (c : Char) : Bool := isLetterOrDigit c || "!#$%&'*+-.^_`|~".toList.contains c

/-- Whatever is not ASCII may stand in paths and queries. -/
def isBeyondAscii (c : Char) : Bool := 0x80 ≤ c.toNat

def isPathChar (c : Char) : Bool :=
  isBeyondAscii c || isLetterOrDigit c || "!$%&'()*+,-./:;=@[\\]^_|~\"\x7b\x7d".toList.contains c

def isQueryChar (c : Char) : Bool :=
  isBeyondAscii c || (0x21 ≤ c.toNat && c.toNat ≤ 0x7e && !"\"#<>".toList.contains c)

/-- The characters of an authority, apart from the percent sign. -/
def isAuthorityChar (c : Char) : Bool :=
  isLetterOrDigit c || "!$&'()*+,-.:;=@[]_~".toList.contains c

def isSchemeChar (c : Char) : Bool := isLetterOrDigit c || "+-.~".toList.contains c

/-- The path at the front of a text, up to a query or a fragment; an empty one is the root. -/
def path? (text : List Char) : Option (List Char) :=
  let path := text.takeWhile fun c => c != '?' && c != '#'
  let query := match text.dropWhile fun c => c != '?' && c != '#' with
    | '?' :: rest => rest.takeWhile (· != '#')
    | _ => []
  if path.all isPathChar && query.all isQueryChar then
    some (if path.isEmpty then ['/'] else path)
  else none

/-- What is known of an authority while it is read. Colons and percent signs count from the last at
sign or bracket on. -/
structure AuthorityScan where
  colons : Nat
  opened : Bool
  closed : Bool
  percent : Bool
  endsWithAt : Bool

def AuthorityScan.start : AuthorityScan := ⟨0, false, false, false, false⟩

def AuthorityScan.read (scan : AuthorityScan) (c : Char) : Option AuthorityScan :=
  let scan := { scan with endsWithAt := c == '@' }
  match c with
  | ':' => if 8 ≤ scan.colons then none else some { scan with colons := scan.colons + 1 }
  | '[' => if scan.percent || scan.opened then none else some { scan with opened := true }
  | ']' =>
      if !scan.opened || scan.closed then none
      else some { scan with closed := true, colons := 0, percent := false }
  | '@' => some { scan with colons := 0, percent := false }
  | '%' => some { scan with percent := true }
  | c => if isAuthorityChar c then some scan else none

/-- Holds if a text is an authority: at most one colon behind an at sign or brackets, no percent
sign there, brackets in pairs, and something behind an at sign. -/
def isAuthority (text : List Char) : Bool :=
  match text.foldlM AuthorityScan.read AuthorityScan.start with
  | none => false
  | some scan => scan.opened == scan.closed && scan.colons ≤ 1 && !scan.endsWithAt && !scan.percent

/-- What follows the scheme of an address, if it has one. -/
def afterScheme? (text : List Char) : Option (List Char) :=
  match text.dropWhile isSchemeChar with
  | ':' :: '/' :: '/' :: rest =>
      if text.length ≤ 3 then none
      else if 64 < (text.takeWhile isSchemeChar).length then none
      else some rest
  | _ => none

/-- Where an authority ends. -/
def endsAuthority (c : Char) : Bool := c == '/' || c == '?' || c == '#'

/-- The path of a target, empty for an authority alone; none for a text that is no target. -/
def targetPath? (target : String) : Option String :=
  let text := target.toList
  if 65534 < target.utf8ByteSize then none
  else
    match text with
    | [] => none
    | ['*'] => some "*"
    | '/' :: _ => (path? text).map String.ofList
    | _ =>
        match afterScheme? text with
        | none => if isAuthority text then some "" else none
        | some rest =>
            let authority := rest.takeWhile (!endsAuthority ·)
            if authority.isEmpty || !isAuthority authority then none
            else (path? (rest.dropWhile (!endsAuthority ·))).map String.ofList

end ServiceMesh.Admin
