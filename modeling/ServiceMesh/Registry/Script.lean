import ServiceMesh.Registry.Polling
import ServiceMesh.Zone.Remote

/-! Registries and peers that follow a script, to try out the control plane without a network. -/
namespace ServiceMesh

/-- How scripted requests go: the index the answers carry, how long they take, and the failure in
their place, which is none if no answer ever comes. -/
structure Behaviour where
  index : Option UInt64
  latency : Nat
  failure : Option (Option RegistryError)
deriving DecidableEq

namespace Behaviour

def usual : Behaviour := ⟨none, 0, none⟩

def reply {α : Type} (behaviour : Behaviour) (value : Option UInt64 → α) : Reply α :=
  match behaviour.failure with
  | none => ⟨some behaviour.latency, .ok (value behaviour.index)⟩
  | some (some problem) => ⟨some behaviour.latency, .error problem⟩
  | some none => ⟨none, .ok (value behaviour.index)⟩

end Behaviour

/-- The tags and the instances of each registered service, and how requests go. -/
structure RegistryScript where
  registered : SortedMap String (SortedSet String × List RegistryInstance)
  catalog : Behaviour
  services : SortedMap String Behaviour
deriving DecidableEq

namespace RegistryScript

def empty : RegistryScript := ⟨∅, .usual, ∅⟩

def catalogReply (script : RegistryScript) : Reply Catalog :=
  script.catalog.reply fun index =>
    ⟨index, script.registered.entries.map fun entry => ⟨entry.1, entry.2.1⟩⟩

/-- A service that is not registered has no instances. -/
def instancesReply (script : RegistryScript) (name : String) : Reply InstanceList :=
  ((script.services.get? name).getD .usual).reply fun index =>
    ⟨index, ((script.registered.get? name).map (·.2)).getD []⟩

end RegistryScript

/-- A registry whose script changes over time. -/
def Registry.scripted (scriptAt : Time → RegistryScript) : Registry :=
  ⟨fun time => (scriptAt time).catalogReply, fun time => (scriptAt time).instancesReply⟩

/-- The services that a peer knows, and how requests go. -/
structure PeerScript where
  services : Services
  behaviour : Behaviour
deriving DecidableEq

namespace PeerScript

def empty : PeerScript := ⟨∅, .usual⟩

def reply (script : PeerScript) : Reply Services := script.behaviour.reply fun _ => script.services

end PeerScript

/-- What holds at each time, given how it starts and the times from which on something else holds, the
last of them first. -/
def timeline {σ : Type} (start : σ) (changes : List (Time × σ)) (now : Time) : σ :=
  match changes.find? fun change => change.1 ≤ now with
  | some change => change.2
  | none => start

end ServiceMesh
