/-! Values that others watch. Every change gives the value a new revision, and a watcher knows by
the revision it saw last whether there is news. -/
namespace ServiceMesh

structure Watched (α : Type) where
  value : α
  revision : Nat
deriving DecidableEq

namespace Watched

variable {α : Type}

def start (value : α) : Watched α := ⟨value, 0⟩

instance [Inhabited α] : Inhabited (Watched α) := ⟨start default⟩

/-- A new value, which counts as news even if it equals the old one. -/
def set (watched : Watched α) (value : α) : Watched α := ⟨value, watched.revision + 1⟩

/-- A new value, which is news only if it differs from the old one. -/
def offer [DecidableEq α] (watched : Watched α) (value : α) : Watched α :=
  if watched.value = value then watched else watched.set value

/-- Holds if somebody who last saw revision `seen` has missed a change. -/
def isNewsSince (watched : Watched α) (seen : Nat) : Bool := watched.revision != seen

end Watched

end ServiceMesh
