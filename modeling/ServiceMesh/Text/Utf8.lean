import ServiceMesh.Json.Basic

/-! Bytes as text in UTF-8. A byte that is no part of a character stands for itself alone. -/
namespace ServiceMesh.Text

def utf8 (s : String) : List UInt8 := s.toUTF8.data.toList

/-- The six bits of a byte that continues a character. -/
def continuation? (byte : UInt8) : Option Nat :=
  if 0x80 ≤ byte.toNat && byte.toNat < 0xc0 then some (byte.toNat - 0x80) else none

/-- The character of a code point that takes no fewer bytes than it is written with. -/
def charOf? (least code : Nat) : Option Char :=
  if least ≤ code && code.isValidChar then some (Char.ofNat code) else none

/-- The character that begins with a byte, and how many further bytes it takes. -/
def decodeFirst? (byte : UInt8) (rest : List UInt8) : Option (Char × Nat) :=
  let lead := byte.toNat
  if lead < 0x80 then some (Char.ofNat lead, 0)
  else if lead < 0xc0 then none
  else if lead < 0xe0 then do
    let [a] ← (rest.take 1).mapM continuation? | none
    return (← charOf? 0x80 ((lead - 0xc0) * 64 + a), 1)
  else if lead < 0xf0 then do
    let [a, b] ← (rest.take 2).mapM continuation? | none
    return (← charOf? 0x800 (((lead - 0xe0) * 64 + a) * 64 + b), 2)
  else if lead < 0xf8 then do
    let [a, b, c] ← (rest.take 3).mapM continuation? | none
    return (← charOf? 0x10000 ((((lead - 0xf0) * 64 + a) * 64 + b) * 64 + c), 3)
  else none

/-- The symbols of some bytes; none stands for a byte that is no part of a character. -/
def decodeUtf8 : List UInt8 → List Symbol
  | [] => []
  | byte :: rest =>
      match decodeFirst? byte rest with
      | some (c, more) => some c :: decodeUtf8 (rest.drop more)
      | none => none :: decodeUtf8 rest
termination_by bytes => bytes.length

end ServiceMesh.Text
