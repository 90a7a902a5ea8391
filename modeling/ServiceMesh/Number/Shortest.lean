import ServiceMesh.Number.Binary64

/-! The shortest decimal that reads back as a given float. -/
namespace ServiceMesh.Number

/-- Decimal digits with the exponent of the first one: `d.ddd * 10 ^ exponent`. -/
structure Scientific where
  digits : List Char
  exponent : Int

/-- For positive `x`, the largest `k` with `10 ^ k ≤ x`, searched downwards from `high`. -/
def floorLog10 (x : Rat) (high : Int) : Nat → Int
  | 0 => high
  | fuel + 1 => if (10 : Rat) ^ high ≤ x then high else floorLog10 x (high - 1) fuel

/-- The multiple of `unit` nearest to `x` among those that read back as `x`; of two equally near
ones the even one. -/
def readsBackOn (x unit : Rat) : Option Nat :=
  let below := (x / unit).floor.toNat
  let beyond := x / unit - below
  let near : List Nat :=
    if beyond < 1 / 2 || (beyond = 1 / 2 && below % 2 = 0) then [below, below + 1]
    else [below + 1, below]
  near.find? fun n => n != 0 && toBinary64 (n * unit) == some x

/-- Tries grids of more and more digits. -/
def shortestFrom (x : Rat) (exponent : Int) (count : Nat) : Nat → Scientific
  | 0 => ⟨[], 0⟩
  | fuel + 1 =>
      let unit := (10 : Rat) ^ (exponent - count)
      match readsBackOn x unit with
      | some n =>
          let digits := Nat.toDigits 10 n
          let trimmed := (digits.reverse.dropWhile (· == '0')).reverse
          ⟨trimmed, exponent - count + digits.length - 1⟩
      | none => shortestFrom x exponent (count + 1) fuel

/-- The fewest digits that read back as the positive float `x`, and of those the nearest. -/
def shortest (x : Rat) : Scientific := shortestFrom x (floorLog10 x 308 640) 0 17

/-- Positional notation between 10^-5 and 10^16, always with a point; otherwise an exponent with its
sign. -/
def Scientific.render (s : Scientific) : String :=
  let exponent := s.exponent
  let digits := s.digits
  if 0 ≤ exponent && exponent < 16 then
    let places := exponent.toNat + 1
    let padded := digits ++ List.replicate (places - digits.length) '0'
    let fraction := if padded.length = places then ['0'] else padded.drop places
    String.ofList (padded.take places ++ '.' :: fraction)
  else if -5 ≤ exponent && exponent < 0 then
    String.ofList ('0' :: '.' :: (List.replicate ((-exponent).toNat - 1) '0' ++ digits))
  else
    let power := (toString exponent.natAbs).toList
    let sign := if exponent < 0 then '-' else '+'
    let mantissa := match digits with
      | first :: second :: rest => first :: '.' :: second :: rest
      | few => few
    String.ofList (mantissa ++ 'e' :: sign :: power)

/-- The text of a float with the given sign and magnitude. -/
def renderBinary64 (negative : Bool) (magnitude : Rat) : String :=
  let sign := if negative then "-" else ""
  sign ++ if magnitude = 0 then "0.0" else (shortest magnitude).render

end ServiceMesh.Number
