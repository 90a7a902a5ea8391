import ServiceMesh.Registry.Exchange
import ServiceMesh.Service.Codec

/-! The control planes of another zone, asked in turn for the services of their zone. -/
namespace ServiceMesh

/-- Addresses of peers, and how many requests were sent so far. -/
structure PeerRing where
  peers : List String
  asked : Nat
deriving DecidableEq

namespace PeerRing

def ofList (peers : List String) : PeerRing := ⟨peers, 0⟩

/-- The number of the peer whose turn it is; none if there are no peers. -/
def turn? (ring : PeerRing) : Option Nat :=
  if ring.peers.isEmpty then none else some (ring.asked % ring.peers.length)

/-- Asks the next peer, given how each of them answers. -/
def ask (ring : PeerRing) (answer : Nat → Option HttpAnswer) :
    Except RegistryError Services × PeerRing :=
  match ring.turn? with
  | none => (.error (.transport (some "no peers configured")), ring)
  | some peer =>
      ((receive Services.decoder (answer peer)).map (·.2), { ring with asked := ring.asked + 1 })

end PeerRing

end ServiceMesh
