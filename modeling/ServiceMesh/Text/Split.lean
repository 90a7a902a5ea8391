/-! Cutting texts at a separating character. -/
namespace ServiceMesh.Text

/-- What stands before and after the first `separator`. -/
def cut? (separator : Char) (text : List Char) : Option (List Char × List Char) :=
  match text.dropWhile (· != separator) with
  | [] => none
  | _ :: rest => some (text.takeWhile (· != separator), rest)

/-- What stands before and after the last `separator`. -/
def cutLast? (separator : Char) (text : List Char) : Option (List Char × List Char) :=
  (cut? separator text.reverse).map fun (after, before) => (before.reverse, after.reverse)

/-- The pieces between the separators, at least one. -/
def pieces (separator : Char) : List Char → List (List Char)
  | [] => [[]]
  | c :: rest =>
      if c == separator then [] :: pieces separator rest
      else
        match pieces separator rest with
        | [] => [[c]]
        | first :: later => (c :: first) :: later

end ServiceMesh.Text
