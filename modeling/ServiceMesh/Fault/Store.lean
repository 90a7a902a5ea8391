import ServiceMesh.Fault.Basic
import ServiceMesh.Registry.Activity
import ServiceMesh.SortedMap

/-! The faults that are in force. Each lasts from its submission for as long as it says. -/
namespace ServiceMesh

/-- A fault and the time from which on it is in force no longer; none if it never ends. -/
structure TimedFault where
  fault : Fault
  expiresAt : Option Time
deriving DecidableEq

/-- The first time that the clock cannot tell, 2^63 seconds. -/
def clockLimit : Time := 9_223_372_036_854_775_808 * 1_000_000_000

/-- A fault that is submitted now. One that lasts beyond the range of the clock never ends. -/
def TimedFault.submitted (now : Time) (fault : Fault) : TimedFault :=
  let expiresAt := now + fault.duration.nanos
  ⟨fault, if expiresAt < clockLimit then some expiresAt else none⟩

def TimedFault.isLive (now : Time) (entry : TimedFault) : Bool :=
  match entry.expiresAt with
  | some time => now < time
  | none => true

structure FaultStore where
  byId : SortedMap String TimedFault
deriving DecidableEq

namespace FaultStore

instance : EmptyCollection FaultStore := ⟨⟨∅⟩⟩

/-- A fault replaces an earlier one of the same id. -/
def save (store : FaultStore) (now : Time) (fault : Fault) : FaultStore :=
  ⟨store.byId.insert fault.id (.submitted now fault)⟩

def delete (store : FaultStore) (id : String) : FaultStore := ⟨store.byId.erase id⟩

/-- Without the faults that have ended. -/
def purge (store : FaultStore) (now : Time) : FaultStore :=
  ⟨store.byId.filter fun _ entry => entry.isLive now⟩

/-- The faults that are in force, by id. -/
def live (store : FaultStore) (now : Time) : List Fault :=
  (store.purge now).byId.values.map TimedFault.fault

end FaultStore

/-- The store of faults cannot be reached, for some cause. -/
structure FaultStoreError where
  cause : String
deriving DecidableEq

def FaultStoreError.message (e : FaultStoreError) : String :=
  "fault store unavailable: " ++ e.cause

/-- The faults behind a service. Every submission and every deletion raises the revision. `outage`
holds the cause while the store cannot be reached. -/
structure FaultService where
  store : FaultStore
  revision : Nat
  outage : Option FaultStoreError
deriving DecidableEq

namespace FaultService

def start : FaultService := ⟨∅, 0, none⟩

instance : Inhabited FaultService := ⟨start⟩

def submit (service : FaultService) (now : Time) (fault : Fault) :
    Except FaultStoreError FaultService :=
  match service.outage with
  | some e => .error e
  | none => .ok { service with
      store := service.store.save now fault, revision := service.revision + 1 }

/-- Deletes a fault. An unknown id is no problem. -/
def delete (service : FaultService) (id : String) : Except FaultStoreError FaultService :=
  match service.outage with
  | some e => .error e
  | none => .ok { service with store := service.store.delete id, revision := service.revision + 1 }

/-- The faults in force, with the service behind the call, which has dropped the others. -/
def list (service : FaultService) (now : Time) :
    Except FaultStoreError (List Fault × FaultService) :=
  match service.outage with
  | some e => .error e
  | none => .ok (service.store.live now, { service with store := service.store.purge now })

end FaultService

end ServiceMesh
