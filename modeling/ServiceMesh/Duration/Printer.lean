import ServiceMesh.Duration.Basic

/-! The text of a duration: a decimal number of the largest of the units s, ms, µs and ns that it
reaches, without trailing zeros. -/
namespace ServiceMesh.Duration

/-- The decimal places of `rest / 10 ^ places`, without trailing zeros. -/
def fractionDigits (rest places : Nat) : List Char :=
  let digits := Nat.toDigits 10 rest
  let padded := List.replicate (places - digits.length) '0' ++ digits
  (padded.reverse.dropWhile (· == '0')).reverse

/-- `count / 10 ^ places` in positional notation. -/
def positional (count places : Nat) : String :=
  let whole := toString (count / Nat.pow 10 places)
  match fractionDigits (count % Nat.pow 10 places) places with
  | [] => whole
  | digits => whole ++ "." ++ String.ofList digits

def render (d : Duration) : String :=
  if 1_000_000_000 ≤ d.nanos then positional d.nanos 9 ++ "s"
  else if 1_000_000 ≤ d.nanos then positional d.nanos 6 ++ "ms"
  else if 1_000 ≤ d.nanos then positional d.nanos 3 ++ "µs"
  else positional d.nanos 0 ++ "ns"

end ServiceMesh.Duration
