import ServiceMesh.Json.Writer

/-! Values as JSON documents for those who operate the mesh. Numbers that need more than 53 bits
are given as text. -/
namespace ServiceMesh.Report

def texts (items : List String) : Json := .array (items.map .ofString)

def list {α : Type} (report : α → Json) (items : List α) : Json := .array (items.map report)

/-- A value, or null. -/
def orNull {α : Type} (report : α → Json) : Option α → Json
  | some value => report value
  | none => .null

def big (n : Nat) : Json := .ofString (toString n)

/-- A problem by its kind and, if it has one, its text. -/
def problem (kind : String) (message : Option String) : Json :=
  .record [("error", .ofString kind), ("message", orNull .ofString message)]

end ServiceMesh.Report
