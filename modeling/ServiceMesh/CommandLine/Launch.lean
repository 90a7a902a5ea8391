import ServiceMesh.CommandLine.LogFilter
import ServiceMesh.CommandLine.Options
import ServiceMesh.ControlPlane

/-! Starting the control plane that some options describe. -/
namespace ServiceMesh.CommandLine

/-- Why a control plane does not come up. -/
inductive LaunchError where
  | logLevel
  | weightTag
  | excludedServices
  | adminServer
deriving DecidableEq

def LaunchError.message : LaunchError → String
  | .logLevel => "invalid log level"
  | .weightTag => "invalid weight tag"
  | .excludedServices => "invalid excluded services"
  | .adminServer => "admin server failed"

namespace Options

def millis (n : Nat) : Duration := .ofMillis (UInt64.ofNat n)

def sourceConfig (options : Options) : SourceConfig where
  watcher := {
    requestDelay := millis options.subscriptionDelay
    pollInterval := millis options.pollInterval
    requestTimeout := millis options.readTimeout
    policy := ⟨SortedSet.ofList options.excludedServiceTags⟩
    mapping := ⟨options.canaryTag, options.weightTag, UInt32.ofNat options.defaultWeight⟩ }
  remote := {
    pollInterval := millis options.syncInterval
    requestTimeout := millis options.syncReadTimeout
    cacheDuration := millis options.syncCache }

def builderConfig (options : Options) : BuilderConfig where
  clusterConnectTimeout := millis options.clusterConnectTimeout
  http2Tag := if options.http2Tag.isEmpty then none else some options.http2Tag
  wildcardExcludedPrefixes := options.wildcardExcludedPrefixes
  neverRemoveClusters := options.neverRemoveClusters

/-- The local zone, the zones with a registry of their own, and the zones that peers serve, each of
the latter once. -/
def feeds (options : Options) : List (Feed × ZoneSource) :=
  let peerZones := SortedSet.ofList (options.remoteZones.map ZoneAddress.zone)
  (.start options.zone .local, .registry .start) ::
    options.remoteRegistries.map (fun remote => (.start remote.zone .remote, .registry .start)) ++
    peerZones.toList.map fun zone => (.start zone .remote, .peer .start)

/-- The patterns of excluded services, none if there are none. -/
def denylist (options : Options) (library : PatternLibrary) :
    Except PatternError (Option Denylist) :=
  if options.excludedServices.isEmpty then .ok none
  else (Denylist.ofPatterns library options.excludedServices).map some

/-- The control plane of some options, with the groups that are followed from the start. `canListen`
tells where the admin API can be served. The first problem wins. -/
def launch (options : Options) (library : PatternLibrary) (canListen : SocketAddress → Bool) :
    Except LaunchError ControlPlane := do
  unless isLogFilter options.logLevel do throw .logLevel
  unless options.sourceConfig.watcher.mapping.isAccepted library do throw .weightTag
  let denylist ← (options.denylist library).mapError fun _ => .excludedServices
  unless canListen options.adminAddress do throw .adminServer
  let plane := ControlPlane.start options.sourceConfig options.feeds (.standard denylist)
    options.builderConfig
  let store := options.consumerGroups.foldl (fun store group => (store.subscribe group).2)
    plane.updater.store
  return { plane with updater := { plane.updater with store := store } }

end Options

end ServiceMesh.CommandLine
