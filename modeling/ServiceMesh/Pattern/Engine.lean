import ServiceMesh.Pattern.Footprint
import ServiceMesh.Pattern.Library
import ServiceMesh.Pattern.Matcher
import ServiceMesh.Pattern.Parser

/-! A library of regular expressions to run with. -/
namespace ServiceMesh.PatternLibrary

/-- Takes the texts that `Pattern.parse?` reads, whose size is estimated. -/
def engine : PatternLibrary where
  compile texts :=
    match texts.mapM Pattern.parse? with
    | none => .error .malformed
    | some patterns =>
        if Pattern.fits patterns then
          .ok fun name => patterns.any fun pattern => pattern.occursIn name.toList
        else .error .tooLarge

end ServiceMesh.PatternLibrary
