/-! Numbers as bytes of seven bits each, lowest first, where every byte but the last has its high
bit set. -/
namespace ServiceMesh.Wire

def encodeNumber (n : Nat) : List UInt8 :=
  if n < 128 then [UInt8.ofNat n] else UInt8.ofNat (n % 128 + 128) :: encodeNumber (n / 128)
termination_by n

/-- The number at the front and what follows it; none if the bytes end within it. -/
def decodeNumber? : List UInt8 → Option (Nat × List UInt8)
  | [] => none
  | byte :: rest =>
      if byte.toNat < 128 then some (byte.toNat, rest)
      else (decodeNumber? rest).map fun (high, rest) => (byte.toNat - 128 + 128 * high, rest)

end ServiceMesh.Wire
