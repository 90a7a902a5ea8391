import ServiceMesh.Registry.Activity
import ServiceMesh.Registry.Mapping
import ServiceMesh.Watched

/-! What a watcher of one registry knows, and what it learns from an answer. A failed request
teaches it nothing, so it stays with what it knew last. -/
namespace ServiceMesh

/-- The knowledge of a watcher. `catalogMark` holds the index of the last catalog with the services
chosen from it, and `marks` the index of the last answer about each service, both only where the
registry sent one. `awaited` holds the services of the first catalog that nothing is known about yet,
and is none before the first catalog. -/
structure Watcher where
  services : Services
  catalogMark : Option (UInt64 × SortedSet String)
  marks : SortedMap String UInt64
  awaited : Option (SortedSet String)
  nextRequest : Option Time
  published : Watched (Option Services)
deriving DecidableEq

/-- The services that are watched out of a catalog. -/
def WatchPolicy.choose (policy : WatchPolicy) (catalog : Catalog) : SortedSet String :=
  SortedSet.ofList ((catalog.services.filter policy.admits).map CatalogEntry.service)

namespace Watcher

def start : Watcher := ⟨∅, none, ∅, none, none, .start none⟩

instance : Inhabited Watcher := ⟨start⟩

/-- The services to watch, as they were if the index says that nothing changed. -/
def choose (watcher : Watcher) (policy : WatchPolicy) (catalog : Catalog) : SortedSet String :=
  match watcher.catalogMark with
  | some (index, watched) =>
      if catalog.index = some index then watched else policy.choose catalog
  | none => policy.choose catalog

/-- Holds if something is known of a service that is watched no longer. -/
def hasLost (watcher : Watcher) (watched : SortedSet String) : Bool :=
  watcher.services.names.any fun name => !watched.contains name

/-- Takes the services to watch from a catalog and forgets all others. -/
def learnCatalog (watcher : Watcher) (index : Option UInt64) (watched : SortedSet String) :
    Watcher :=
  { watcher with
    services := ⟨watcher.services.byName.filter fun name _ => watched.contains name⟩
    catalogMark := index.map (·, watched)
    marks := watcher.marks.filter fun name _ => watched.contains name
    awaited := some ((watcher.awaited.getD watched).filter watched.contains) }

/-- Holds if the index says that nothing changed since the last answer about a service. -/
def isUnchanged (watcher : Watcher) (name : String) (answer : InstanceList) : Bool :=
  answer.index.isSome && watcher.marks.get? name == answer.index

/-- Takes an answer about a service, and tells whether it changed what is known of it. -/
def learnInstances (watcher : Watcher) (mapping : InstanceMapping) (name : String)
    (answer : InstanceList) : Bool × Watcher :=
  let marked := { watcher with
    awaited := watcher.awaited.map (·.erase name)
    marks := match answer.index with
      | some index => watcher.marks.insert name index
      | none => watcher.marks.erase name }
  if watcher.isUnchanged name answer then (false, marked)
  else
    let (changed, services) := watcher.services.change (mapping.mapService name answer.instances)
    (changed, { marked with services := services })

/-- Holds once something is known of every service of the first catalog that is still there. -/
def isLoaded (watcher : Watcher) : Bool := watcher.awaited == some ∅

/-- Publishes what is known, if all is loaded and there is something new to tell. -/
def publish (watcher : Watcher) (changed : Bool) : Watcher :=
  if watcher.isLoaded && (watcher.published.value.isNone || changed) then
    { watcher with published := watcher.published.set (some watcher.services) }
  else watcher

end Watcher

end ServiceMesh
