import ServiceMesh.CommandLine.Launch
import ServiceMesh.CommandLine.Parser
import ServiceMesh.Pattern.Engine

/-! The control plane as a program that answers requests to its admin API. Each line of the input is a
request: its method, its target and, if it has one, its body, with spaces between them. -/
namespace ServiceMesh.Main

open ServiceMesh.CommandLine

/-- The method, the target and the body of a line. -/
def splitLine (line : List Char) : String × String × String :=
  let (method, rest) := (Text.cut? ' ' line).getD (line, [])
  let (target, body) := (Text.cut? ' ' rest).getD (rest, [])
  (String.ofList method, String.ofList target, String.ofList body)

def readRequest (line : String) : Option Admin.Request :=
  let (method, target, body) := splitLine (Text.trim line.toList)
  Admin.Request.of? method target (Text.utf8 body)

def renderBody : Admin.Body → String
  | .text content => content
  | .samples samples => String.join (samples.map fun sample => sample.render ++ "\n")

/-- The status of an answer, and its body below. -/
def renderResponse (response : Admin.Response) : String :=
  toString response.status ++ "\n" ++ renderBody response.body

/-- Answers the requests of the input one after the other. -/
partial def serve (input : IO.FS.Stream) (plane : ControlPlane) : IO Unit := do
  let line ← input.getLine
  if line.isEmpty then return
  match readRequest line with
  | none =>
      IO.println "invalid request"
      serve input plane
  | some request =>
      let freshId := toString (← IO.rand 0 1_000_000_000_000_000_000)
      let (response, plane) := plane.handle (← IO.monoNanosNow) freshId request
      IO.println (renderResponse response)
      serve input plane

end ServiceMesh.Main

/-- Ends with 2 if the command line is wrong and with 1 if the control plane does not come up. -/
def main (arguments : List String) : IO UInt32 := do
  match ServiceMesh.CommandLine.parse arguments with
  | .error problem =>
      IO.eprintln problem.message
      return 2
  | .ok options =>
      match options.launch .engine fun _ => true with
      | .error problem =>
          IO.eprintln problem.message
          return 1
      | .ok plane =>
          ServiceMesh.Main.serve (← IO.getStdin) plane
          return 0
