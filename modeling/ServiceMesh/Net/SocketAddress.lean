import ServiceMesh.Net.IpAddress

/-! The texts of socket addresses: an IP address, an optional scope, and a port. -/
namespace ServiceMesh

open ServiceMesh.Number (ofDigits)

structure SocketAddress where
  ip : IpAddress
  scope : Nat
  port : Nat
deriving DecidableEq, Repr

namespace SocketAddress

/-- A decimal number below `limit`, with any leading zeros. -/
def readNumber (limit : Nat) : IpAddress.Reader Nat := fun input =>
  let digits := input.takeWhile Char.isDigit
  if digits.isEmpty || limit ≤ ofDigits digits then none
  else some (ofDigits digits, input.dropWhile Char.isDigit)

def readPort? : List Char → Option Nat
  | ':' :: rest =>
      match readNumber UInt16.size rest with
      | some (port, []) => some port
      | _ => none
  | _ => none

def readScope : IpAddress.Reader Nat
  | '%' :: rest => readNumber UInt32.size rest
  | input => some (0, input)

def parse? (text : String) : Option SocketAddress :=
  match text.toList with
  | '[' :: rest => do
      let (groups, rest) ← IpAddress.readV6 rest
      let (scope, rest) ← readScope rest
      let ']' :: rest := rest | none
      return ⟨.v6 groups, scope, ← readPort? rest⟩
  | input => do
      let (octets, rest) ← IpAddress.readV4 input
      return ⟨.v4 octets, 0, ← readPort? rest⟩

def render (address : SocketAddress) : String :=
  let host := match address.ip with
    | .v4 octets => IpAddress.renderV4 octets
    | .v6 groups =>
        let scope := if address.scope = 0 then "" else "%" ++ toString address.scope
        "[" ++ IpAddress.renderV6 groups ++ scope ++ "]"
  host ++ ":" ++ toString address.port

end SocketAddress

end ServiceMesh
