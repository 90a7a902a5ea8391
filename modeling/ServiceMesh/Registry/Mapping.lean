import ServiceMesh.Number.Integer
import ServiceMesh.Pattern.Capture
import ServiceMesh.Pattern.Escape
import ServiceMesh.Pattern.Library
import ServiceMesh.Pattern.Parser
import ServiceMesh.Registry.Basic
import ServiceMesh.Service.Basic

/-! From what a registry reports to services of the mesh. -/
namespace ServiceMesh

/-- Which tags make an instance a canary and give its weight. Empty tags switch this off. -/
structure InstanceMapping where
  canaryTag : String
  weightTag : String
  defaultWeight : UInt32
deriving DecidableEq

namespace InstanceMapping

/-- How the tags are written that are the weight tag, a colon and digits; the digits are captured. -/
def weightText (mapping : InstanceMapping) : List Char :=
  '^' :: (Pattern.escape mapping.weightTag.toList ++ ":(\\d+)$".toList)

def weightPattern? (mapping : InstanceMapping) : Option Pattern :=
  Pattern.parseChars? mapping.weightText

/-- There is nothing to compile without a weight tag. -/
def isAccepted (library : PatternLibrary) (mapping : InstanceMapping) : Bool :=
  mapping.weightTag.isEmpty || (library.compile [String.ofList mapping.weightText]).isOk

/-- The number that a tag captures, if it is one of 32 bits in ASCII digits. -/
def weightOfTag? (pattern : Pattern) (tag : String) : Option UInt32 := do
  match Number.parseNat (UInt32.size - 1) (← pattern.capture? tag.toList) with
  | .ok n => some (UInt32.ofNat n)
  | .error _ => none

/-- The first weight among the tags, at least 1. -/
def weight (mapping : InstanceMapping) (tags : List String) : UInt32 :=
  let found :=
    if mapping.weightTag.isEmpty then none
    else mapping.weightPattern?.bind fun pattern => tags.findSome? (weightOfTag? pattern)
  max 1 (found.getD mapping.defaultWeight)

def mapInstance (mapping : InstanceMapping) (reported : RegistryInstance) : Instance where
  id := reported.id
  tags := SortedSet.ofList reported.tags
  address := reported.address
  port := reported.port
  healthy := reported.healthy
  regular := true
  canary := !mapping.canaryTag.isEmpty && reported.tags.contains mapping.canaryTag
  weight := mapping.weight reported.tags

def mapService (mapping : InstanceMapping) (name : String) (reported : List RegistryInstance) :
    Service :=
  ⟨name, SortedSet.ofList (reported.map mapping.mapInstance)⟩

end InstanceMapping

/-- Services with one of the excluded tags are not watched. -/
structure WatchPolicy where
  excludedTags : SortedSet String
deriving DecidableEq

def WatchPolicy.admits (policy : WatchPolicy) (entry : CatalogEntry) : Bool :=
  entry.tags.toList.all fun tag => !policy.excludedTags.contains tag

end ServiceMesh
