/-! Rounding of exact rationals to whole numbers and to 64-bit binary floating point, to nearest
with ties to even. -/
namespace ServiceMesh.Number

/-- The nearest whole number; of two equally near ones, the even one. -/
def roundHalfEven (x : Rat) : Int :=
  let below := x.floor
  let rest := x - below
  if rest < 1 / 2 then below
  else if 1 / 2 < rest then below + 1
  else if below % 2 = 0 then below
  else below + 1

/-- For positive `x`, the largest `k` with `2 ^ k ≤ x`. -/
def floorLog2 (x : Rat) : Int :=
  let guess : Int := (x.num.natAbs.log2 : Int) - (x.den.log2 : Int)
  if (2 : Rat) ^ guess ≤ x then guess else guess - 1

/-- The exponent of the last binary place that a float near `x` can hold. -/
def lastPlace (x : Rat) : Int := max (floorLog2 x - 52) (-1074)

/-- The float nearest to a non-negative rational, as the rational it stands for; none beyond the
largest float. -/
def toBinary64 (x : Rat) : Option Rat :=
  if x = 0 then some 0
  else
    let unit := (2 : Rat) ^ lastPlace x
    let rounded := roundHalfEven (x / unit) * unit
    if rounded < (2 : Rat) ^ (1024 : Nat) then some rounded else none

end ServiceMesh.Number
