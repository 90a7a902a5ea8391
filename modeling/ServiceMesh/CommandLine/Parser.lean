import ServiceMesh.CommandLine.Options

/-! Reading a command line of long options, whose values follow an equals sign or stand in the
next argument. -/
namespace ServiceMesh.CommandLine

inductive UsageError where
  | unknownArgument
  | missingValue
  | invalidValue (cause : ValueError)
  | repeated
  | unexpectedValue
deriving DecidableEq, Repr

def UsageError.message : UsageError → String
  | .unknownArgument => "unexpected argument"
  | .missingValue => "a value is required"
  | .invalidValue .notAChoice => "invalid value"
  | .invalidValue (.malformed message) => message
  | .repeated => "an option cannot be used multiple times"
  | .unexpectedValue => "unexpected value"

/-- The options so far, the names of the options given, and an option that waits for its value, or
whose value is not read yet. -/
structure Progress where
  options : Options
  given : List String
  pending : Option (OptionSpec × Option String)

def Progress.start : Progress := ⟨.default, [], none⟩

/-- Gives a value to an option; only repeatable ones take a second one. -/
def Progress.record (progress : Progress) (spec : OptionSpec) (value : String) :
    Except UsageError Progress := do
  if spec.arity != .many && progress.given.contains spec.name then throw .repeated
  let options ← (spec.store value progress.options).mapError .invalidValue
  return { progress with options := options, given := spec.name :: progress.given }

/-- Reads the value of the option that waits for it. -/
def Progress.settle (progress : Progress) : Except UsageError Progress :=
  match progress.pending with
  | none => .ok progress
  | some (_, none) => .error .missingValue
  | some (spec, some value) => { progress with pending := none }.record spec value

/-- An option, with its value if there is an equals sign. What stands in the argument itself goes
before what is wrong with the option before it. -/
def Progress.long (progress : Progress) (name : String) (value : Option String) :
    Except UsageError Progress := do
  match specs.find? (·.name == name) with
  | none => throw .unknownArgument
  | some spec =>
      match spec.arity, value with
      | .flag, some _ => throw .unexpectedValue
      | .flag, none => (← progress.settle).record spec ""
      | _, some value => (← progress.settle).record spec value
      | _, none => return { ← progress.settle with pending := some (spec, none) }

/-- An argument that is no option: a value that is waited for. -/
def Progress.plain (progress : Progress) (argument : String) : Except UsageError Progress :=
  match progress.pending with
  | some (spec, none) => .ok { progress with pending := some (spec, some argument) }
  | _ => .error .unknownArgument

def Progress.argument (progress : Progress) (argument : String) : Except UsageError Progress :=
  match argument.toList with
  | '-' :: '-' :: rest =>
      match Text.cut? '=' rest with
      | some (name, value) => progress.long (String.ofList name) (some (String.ofList value))
      | none => progress.long (String.ofList rest) none
  | '-' :: _ :: _ => .error .unknownArgument
  | _ => progress.plain argument

/-- Two hyphens end the options, and nothing may follow them. -/
def Progress.run (progress : Progress) : List String → Except UsageError Progress
  | [] => progress.settle
  | "--" :: rest => if rest.isEmpty then progress.settle else .error .unknownArgument
  | argument :: rest => do Progress.run (← progress.argument argument) rest

/-- The options that the arguments behind the program's name give. -/
def parse (arguments : List String) : Except UsageError Options := do
  return (← Progress.start.run arguments).options

end ServiceMesh.CommandLine
