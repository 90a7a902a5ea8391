/-! Samples of counters and gauges. -/
namespace ServiceMesh

structure Sample where
  name : String
  labels : List (String × String)
  value : Nat
deriving DecidableEq

namespace Sample

def renderLabel (label : String × String) : String := label.1 ++ "=\"" ++ label.2 ++ "\""

/-- One line: the name, the labels in braces as they are, and the value. -/
def render (sample : Sample) : String :=
  let labels := match sample.labels with
    | [] => ""
    | labels => "\x7b" ++ String.intercalate "," (labels.map renderLabel) ++ "\x7d"
  sample.name ++ labels ++ " " ++ toString sample.value

def withPrefix (front : String) (sample : Sample) : Sample :=
  { sample with name := front ++ sample.name }

end Sample

end ServiceMesh
