import ServiceMesh.Pipeline.Basic
import ServiceMesh.Watched
import ServiceMesh.Zone

/-! The state of the mesh put together from what each zone publishes. Nothing is known of the mesh
before every local zone has published something; remote zones can join later. -/
namespace ServiceMesh

/-- What a zone publishes: its latest services, none before there are any, which revision of them was
taken into account, and whether nothing more will come. -/
structure Feed where
  zone : String
  locality : Locality
  latest : Watched (Option Services)
  seen : Nat
  closed : Bool
deriving DecidableEq

namespace Feed

def start (zone : String) (locality : Locality) : Feed := ⟨zone, locality, .start none, 0, false⟩

def hasNews (feed : Feed) : Bool := feed.latest.isNewsSince feed.seen

def markSeen (feed : Feed) : Feed := { feed with seen := feed.latest.revision }

end Feed

/-- The services of a zone behind the pipeline, each under its own name. -/
def Pipeline.applyTo (pipeline : Pipeline) (services : Services) : Services :=
  Services.ofList (pipeline.apply services.toList)

structure Zones where
  feeds : List Feed
  pipeline : Pipeline
  published : Watched (Option MultiZone)
  localServices : Watched (Option Services)

namespace Zones

def start (feeds : List Feed) (pipeline : Pipeline) : Zones := ⟨feeds, pipeline, .start none, .start none⟩

/-- Takes the feeds into account from first to last, up to a local one that has nothing yet. -/
def takeFeeds (pipeline : Pipeline) : List Feed → List Feed × Option (List ZoneState)
  | [] => ([], some [])
  | feed :: rest =>
      let feed := feed.markSeen
      match feed.latest.value, feed.locality with
      | none, .local => (feed :: rest, none)
      | none, .remote =>
          let (rest, zones) := takeFeeds pipeline rest
          (feed :: rest, zones)
      | some services, locality =>
          let (rest, zones) := takeFeeds pipeline rest
          (feed :: rest, zones.map (⟨feed.zone, locality, pipeline.applyTo services⟩ :: ·))

/-- Publishes a state of the mesh, and the services of its first local zone, where they differ from
what was published before. -/
def publish (zones : Zones) (mesh : MultiZone) : Zones :=
  let localServices := match mesh.zones.find? (·.locality == .local) with
    | some zone => zones.localServices.offer (some zone.services)
    | none => zones.localServices
  { zones with published := zones.published.offer (some mesh), localServices := localServices }

/-- Takes all feeds into account. -/
def aggregate (zones : Zones) : Zones :=
  let (feeds, states) := takeFeeds zones.pipeline zones.feeds
  let zones := { zones with feeds := feeds }
  match states with
  | none => zones
  | some states => zones.publish (MultiZone.ofList states)

/-- What ends the wait for a feed. -/
inductive Wakeup where
  | news (index : Nat)
  | closed
deriving DecidableEq

/-- The first feed that has news or is closed without any; none if there is nothing to do. -/
def wakeup (zones : Zones) : Option Wakeup :=
  match zones.feeds.findIdx? fun feed => feed.hasNews || feed.closed with
  | none => none
  | some index =>
      if (zones.feeds[index]?.map Feed.hasNews).getD false then some (.news index) else some .closed

/-- Aggregates as long as feeds have news, and tells whether more can come. A round takes at least one
piece of news into account, so `fuel` need not exceed the number of feeds. -/
def settleWithin : Nat → Zones → Bool × Zones
  | 0, zones => (true, zones)
  | fuel + 1, zones =>
      match zones.wakeup with
      | none => (true, zones)
      | some .closed => (false, zones)
      | some (.news index) =>
          settleWithin fuel { zones with feeds := zones.feeds.modify index Feed.markSeen }.aggregate

def settle (zones : Zones) : Bool × Zones := settleWithin (zones.feeds.length + 1) zones

end Zones

end ServiceMesh
