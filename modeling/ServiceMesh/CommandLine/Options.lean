import ServiceMesh.CommandLine.ZoneAddress
import ServiceMesh.ConsumerGroup
import ServiceMesh.Net.SocketAddress

/-! The options of the control plane, their defaults, and how the text of each is read. -/
namespace ServiceMesh.CommandLine

inductive LogFormat where
  | plain
  | json
deriving DecidableEq, Repr

/-- Times are in milliseconds. -/
structure Options where
  logLevel : String
  logFormat : LogFormat
  adminAddress : SocketAddress
  registryHost : String
  registryPort : Nat
  zone : String
  remoteRegistries : List ZoneAddress
  remoteZones : List ZoneAddress
  syncInterval : Nat
  syncConnectTimeout : Nat
  syncReadTimeout : Nat
  syncCache : Nat
  subscriptionDelay : Nat
  pollInterval : Nat
  connectTimeout : Nat
  readTimeout : Nat
  maxPoolSize : Nat
  poolKeepAlive : Nat
  maxConnections : Nat
  excludedServices : List String
  excludedServiceTags : List String
  weightTag : String
  defaultWeight : Nat
  canaryTag : String
  http2Tag : String
  clusterConnectTimeout : Nat
  wildcardExcludedPrefixes : List String
  stateSample : Nat
  neverRemoveClusters : Bool
  consumerGroups : List ConsumerGroup
deriving DecidableEq

def Options.default : Options where
  logLevel := "mesh_control=info,warn"
  logFormat := .plain
  adminAddress := ⟨.v4 [0, 0, 0, 0], 0, 9990⟩
  registryHost := "localhost"
  registryPort := 8500
  zone := "local"
  remoteRegistries := []
  remoteZones := []
  syncInterval := 1000
  syncConnectTimeout := 1000
  syncReadTimeout := 500
  syncCache := 120000
  subscriptionDelay := 20
  pollInterval := 1000
  connectTimeout := 2000
  readTimeout := 360000
  maxPoolSize := 2000
  poolKeepAlive := 30000
  maxConnections := 64
  excludedServices := []
  excludedServiceTags := []
  weightTag := "weight"
  defaultWeight := 50
  canaryTag := "canary"
  http2Tag := "envoy"
  clusterConnectTimeout := 1000
  wildcardExcludedPrefixes := []
  stateSample := 1000
  neverRemoveClusters := false
  consumerGroups := []

/-- What can be wrong with the value of an option. -/
inductive ValueError where
  | notAChoice
  | malformed (message : String)
deriving DecidableEq, Repr

abbrev ValueReader (α : Type) := String → Except ValueError α

def readText : ValueReader String := .ok

/-- A 64-bit number. -/
def readWord64 : ValueReader Nat := fun text =>
  (Number.parseNat (UInt64.size - 1) text.toList).mapError (.malformed ·.message)

/-- A number up to `limit`, read as a signed 64-bit number. -/
def readUpTo (limit : Nat) : ValueReader Nat := fun text => do
  let value ← (Number.parseInt 9_223_372_036_854_775_807 text.toList).mapError (.malformed ·.message)
  if 0 ≤ value && value ≤ limit then return value.toNat
  throw (.malformed (toString value ++ " is not in 0..=" ++ toString limit))

def readLogFormat : ValueReader LogFormat
  | "plain" => .ok .plain
  | "json" => .ok .json
  | _ => .error .notAChoice

def readSocketAddress : ValueReader SocketAddress := fun text =>
  match SocketAddress.parse? text with
  | some address => .ok address
  | none => .error (.malformed "invalid socket address syntax")

def readZoneAddress : ValueReader ZoneAddress := fun text =>
  match ZoneAddress.parse? text with
  | some address => .ok address
  | none => .error (.malformed (ZoneAddress.invalidMessage text))

def readGroup : ValueReader ConsumerGroup := fun text =>
  (ConsumerGroup.parse text).mapError (.malformed ·.message)

/-- A list with commas between its items. -/
def readItems : ValueReader (List String) := fun text =>
  .ok ((Text.pieces ',' text.toList).map String.ofList)

/-- How an option is given: alone, or with a value, once or any number of times. -/
inductive Arity where
  | flag
  | one
  | many
deriving DecidableEq, Repr

/-- An option: its name without hyphens, and what a value does. A flag gets the empty text. -/
structure OptionSpec where
  name : String
  arity : Arity
  store : String → Options → Except ValueError Options

def OptionSpec.flag (name : String) (set : Options → Options) : OptionSpec :=
  ⟨name, .flag, fun _ options => .ok (set options)⟩

def OptionSpec.one {α : Type} (name : String) (read : ValueReader α) (set : α → Options → Options) :
    OptionSpec :=
  ⟨name, .one, fun text options => do return set (← read text) options⟩

def OptionSpec.many {α : Type} (name : String) (read : ValueReader α) (add : α → Options → Options) :
    OptionSpec :=
  ⟨name, .many, fun text options => do return add (← read text) options⟩

def specs : List OptionSpec := [
  .one "log-level" readText fun v o => { o with logLevel := v },
  .one "log-format" readLogFormat fun v o => { o with logFormat := v },
  .one "admin-addr" readSocketAddress fun v o => { o with adminAddress := v },
  .one "registry-host" readText fun v o => { o with registryHost := v },
  .one "registry-port" (readUpTo 65535) fun v o => { o with registryPort := v },
  .one "zone" readText fun v o => { o with zone := v },
  .many "remote-registry" readZoneAddress
    fun v o => { o with remoteRegistries := o.remoteRegistries ++ [v] },
  .many "remote-zone" readZoneAddress fun v o => { o with remoteZones := o.remoteZones ++ [v] },
  .one "sync-interval-ms" readWord64 fun v o => { o with syncInterval := v },
  .one "sync-connect-timeout-ms" readWord64 fun v o => { o with syncConnectTimeout := v },
  .one "sync-read-timeout-ms" readWord64 fun v o => { o with syncReadTimeout := v },
  .one "sync-cache-ms" readWord64 fun v o => { o with syncCache := v },
  .one "subscription-delay-ms" readWord64 fun v o => { o with subscriptionDelay := v },
  .one "poll-interval-ms" readWord64 fun v o => { o with pollInterval := v },
  .one "connect-timeout-ms" readWord64 fun v o => { o with connectTimeout := v },
  .one "read-timeout-ms" readWord64 fun v o => { o with readTimeout := v },
  .one "max-pool-size" readWord64 fun v o => { o with maxPoolSize := v },
  .one "pool-keep-alive-ms" readWord64 fun v o => { o with poolKeepAlive := v },
  .one "max-connections" readWord64 fun v o => { o with maxConnections := v },
  .many "excluded-services" readItems
    fun v o => { o with excludedServices := o.excludedServices ++ v },
  .many "excluded-service-tags" readItems
    fun v o => { o with excludedServiceTags := o.excludedServiceTags ++ v },
  .one "weight-tag" readText fun v o => { o with weightTag := v },
  .one "default-weight" (readUpTo 4294967295) fun v o => { o with defaultWeight := v },
  .one "canary-tag" readText fun v o => { o with canaryTag := v },
  .one "http2-tag" readText fun v o => { o with http2Tag := v },
  .one "cluster-connect-timeout-ms" readWord64 fun v o => { o with clusterConnectTimeout := v },
  .many "wildcard-excluded-prefixes" readItems
    fun v o => { o with wildcardExcludedPrefixes := o.wildcardExcludedPrefixes ++ v },
  .one "state-sample-ms" readWord64 fun v o => { o with stateSample := v },
  .flag "never-remove-clusters" fun o => { o with neverRemoveClusters := true },
  .many "consumer-group" readGroup fun v o => { o with consumerGroups := o.consumerGroups ++ [v] }]

end ServiceMesh.CommandLine
