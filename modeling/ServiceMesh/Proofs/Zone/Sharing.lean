import ServiceMesh.Proofs.ControlPlane
import ServiceMesh.Proofs.Pipeline.Standard
import ServiceMesh.Proofs.Service.RoundTrip
import ServiceMesh.Proofs.Text.Utf8
import ServiceMesh.Proofs.Zone.Remote
import ServiceMesh.Registry.Peers

/-! Two control planes with the same standard pipeline, one of which asks the other for the services
of its zone. What it makes of the answer are the services of the other that have instances, as they
are there: nothing is lost on the way as text, and the pipeline has nothing more to do. -/
namespace ServiceMesh

namespace ControlPlane

variable {plane : ControlPlane} {shared : Services}

/-- What a peer receives that asks for the services of the zone, its body as it was sent. -/
def answerPeer (plane : ControlPlane) (now : Time) (freshId : String) : Option HttpAnswer :=
  let response := (plane.handle now freshId ⟨"GET", Admin.statePath, []⟩).1
  match response.body with
  | .text content => some ⟨response.status, none, Text.utf8 content⟩
  | .samples _ => none

theorem answerPeer_of_held (held : plane.zones.localServices.value = some shared) (now : Time)
    (freshId : String) :
    plane.answerPeer now freshId = some ⟨200, none, Text.utf8 shared.toJson.render⟩ := by
  have response : (plane.handle now freshId ⟨"GET", Admin.statePath, []⟩).1 =
      .json shared.toJson.render := by
    have place : Admin.Place.of Admin.statePath = .services := rfl
    have reads : Admin.isReading "GET" = true := rfl
    simp only [handle, Admin.Api.handle, place, reads, Admin.Api.showServices, admin, held, if_true]
  rw [answerPeer, response]
  rfl

end ControlPlane

/-- Services that were sent are received as they are. -/
theorem receive_render (shared : Services) :
    receive Services.decoder (some ⟨200, none, Text.utf8 shared.toJson.render⟩) =
      .ok (none, shared) := by
  simp only [receive, Text.decodeUtf8_utf8, Services.decodeSymbols_render]
  rfl

/-- A request for the services of another control plane, which is the one of some peers whose turn
it is. -/
structure Exchange (there : ControlPlane) where
  ring : PeerRing
  /-- What each of the peers answers. -/
  answers : Nat → Option HttpAnswer
  turn : Nat
  isTurn : ring.turn? = some turn
  handled : Time
  freshId : String
  answered : answers turn = there.answerPeer handled freshId
  latency : Option Nat

namespace Exchange

variable {there : ControlPlane} {shared : Services}

def reply (exchange : Exchange there) : Reply Services :=
  ⟨exchange.latency, (exchange.ring.ask exchange.answers).1⟩

theorem reply_eq (exchange : Exchange there)
    (held : there.zones.localServices.value = some shared) :
    exchange.reply = ⟨exchange.latency, .ok shared⟩ := by
  rw [reply, PeerRing.ask, exchange.isTurn]
  simp only [exchange.answered, ControlPlane.answerPeer_of_held held, receive_render]
  rfl

end Exchange

/-- A peer that has services to tell is asked with success exactly if it answers in time. -/
theorem RemoteZone.poll_shared (zone : RemoteZone) (config : RemoteZoneConfig) {peer : Peer}
    {now : Time} {latency : Option Nat} {shared : Services}
    (reply : peer now = ⟨latency, .ok shared⟩) :
    let pass := zone.poll config peer now
    (pass.problem = none ↔ ∃ time ≤ config.requestTimeout.nanos, latency = some time) ∧
      (pass.problem = none → pass.zone.published.value = some shared.withoutEmpty) := by
  have succeeds := poll_problem_eq_none_iff zone config ⟨peer, now⟩
  have inTime : (zone.poll config peer now).problem = none ↔
      ∃ time ≤ config.requestTimeout.nanos, latency = some time := by
    rw [succeeds]
    simp [reply]
  refine ⟨inTime, fun success => ?_⟩
  obtain ⟨time, soon, rfl⟩ := inTime.mp success
  have answered : Attempt.answer ⟨peer, now⟩ config = .ok shared :=
    Attempt.answer_eq_ok_iff.mpr ⟨time, soon, reply⟩
  rw [(poll_ok zone answered).2]
  exact Watched.value_offer _ _

namespace Zones

variable {zones : Zones} {index : Nat} {feed : Feed} {services : Services}

/-- The states of zones, seen from one of them. -/
theorem states_around (pipeline : Pipeline) {feeds : List Feed}
    (known : feeds[index]? = some feed) (told : feed.latest.value = some services) :
    states pipeline feeds = states pipeline (feeds.take index) ++
      ⟨feed.zone, feed.locality, pipeline.applyTo services⟩ ::
        states pipeline (feeds.drop (index + 1)) := by
  have state : feed.state? pipeline =
      some ⟨feed.zone, feed.locality, pipeline.applyTo services⟩ := by
    rw [Feed.state?, told, Option.map_some]
  conv_lhs => rw [eq_around known, states, List.filterMap_append, List.filterMap_cons, state]
  rfl

theorem aggregate_around (ready : Ready zones.feeds) (known : zones.feeds[index]? = some feed)
    (told : feed.latest.value = some services) :
    zones.aggregate.published.value = some (MultiZone.ofList
      (states zones.pipeline (zones.feeds.take index) ++
        ⟨feed.zone, feed.locality, zones.pipeline.applyTo services⟩ ::
          states zones.pipeline (zones.feeds.drop (index + 1)))) := by
  rw [aggregate_of_ready zones ready, publish_published, Watched.value_offer,
    states_around zones.pipeline known told]

end Zones

namespace ControlPlane

/-- Two control planes with the same standard pipeline, of which one polls the other. The poll is a
success exactly if the answer comes in time, and from then on, until the next poll of that zone and
whatever else happens, an aggregation publishes for it just those services of the other that have
instances, with all of them as they are. -/
theorem publishes_shared {denylist : Option Denylist} {here there : ControlPlane}
    (asks : here.Standard denylist) (shares : there.Standard denylist) {shared : Services}
    (held : there.zones.localServices.value = some shared) (exchange : Exchange there)
    {index : Nat} {zone : RemoteZone} (source : here.sources[index]? = some (.peer zone))
    {feed : Feed} (fed : here.zones.feeds[index]? = some feed)
    {around : Surroundings} {now : Time} (reply : around.peer now = exchange.reply) :
    ∃ pass next, here.poll index around now = some (pass, next) ∧
      (pass.problem = none ↔
        ∃ time ≤ here.config.remote.requestTimeout.nanos, exchange.latency = some time) ∧
      (pass.problem = none → ∀ later, (∀ event ∈ later, ¬ event.Asks index) →
        let after := next.run later
        Zones.Ready after.zones.feeds → ∃ services : Services,
          after.aggregate.zones.published.value = some (MultiZone.ofList
            (Zones.states (.standard denylist) (after.zones.feeds.take index) ++
              ⟨feed.zone, feed.locality, services⟩ ::
                Zones.states (.standard denylist) (after.zones.feeds.drop (index + 1)))) ∧
          ∀ name service, services.get? name = some service ↔
            shared.get? name = some service ∧ service.isEmpty = false) := by
  obtain ⟨next, polled, brought⟩ := poll_told source fed around now
  obtain ⟨inTime, published⟩ :=
    zone.poll_shared here.config.remote (reply.trans (exchange.reply_eq held))
  refine ⟨_, next, polled, inTime, fun success later others ready => ?_⟩
  refine ⟨shared.withoutEmpty, ?_, fun name service => Services.get?_withoutEmpty⟩
  obtain ⟨same, current, found, zoneName, locality, latest⟩ := brought later others
  have told : current.latest.value = some shared.withoutEmpty := by
    rw [latest]
    exact published success
  -- The pipeline has been at these services on the other side.
  have unchanged : (Pipeline.standard denylist).applyTo shared.withoutEmpty =
      shared.withoutEmpty := by
    obtain ⟨raw, rfl⟩ := shares.screened shared held
    rw [shares.pipeline]
    exact Pipeline.applyTo_withoutEmpty denylist raw
  have mesh := Zones.aggregate_around ready found told
  rw [same, asks.pipeline, zoneName, locality, unchanged] at mesh
  exact mesh

end ControlPlane

/-- A registry with one service, whose two instances share a target. -/
def Registry.twins : Registry where
  catalog _ := ⟨some 0, .ok ⟨none, [⟨"web", ∅⟩]⟩⟩
  instances _ _ :=
    ⟨some 0, .ok ⟨none, [⟨"a", "10.0.0.1", 80, [], true⟩, ⟨"b", "10.0.0.1", 80, [], true⟩]⟩⟩

/-- A control plane of one zone, from its start. -/
def ControlPlane.ofZone (feed : Feed) (source : ZoneSource) : ControlPlane :=
  start ⟨⟨.zero, .zero, .zero, ⟨∅⟩, ⟨"", "", 1⟩⟩, ⟨.zero, .zero, .zero⟩⟩ [(feed, source)]
    (.standard none) ⟨.zero, none, [], false⟩

/-- A control plane that has asked a registry and put its mesh together. -/
def ControlPlane.ofRegistry (registry : Registry) : ControlPlane :=
  (ofZone (.start "home" .local) (.registry .start)).run
    [.poll 0 ⟨registry, fun _ => ⟨none, .ok ∅⟩⟩ 0, .aggregate]

/-- A request to the one peer there is, which answers at once. -/
def Exchange.only (there : ControlPlane) : Exchange there :=
  ⟨.ofList ["10.0.0.9:80"], fun _ => there.answerPeer 0 "", 0, rfl, 0, "", rfl, some 0⟩

/-- The two instances that share a target are one here and there. -/
theorem ControlPlane.publishes_shared_twins :
    let here := ofZone (.start "away" .remote) (.peer .start)
    let around : Surroundings := ⟨.twins, fun _ => (Exchange.only (ofRegistry .twins)).reply⟩
    ∃ pass next services, here.poll 0 around 0 = some (pass, next) ∧ pass.problem = none ∧
      next.aggregate.zones.published.value =
        some (MultiZone.ofList [⟨"away", .remote, services⟩]) ∧
      services.get? "web" =
        some ⟨"web", SortedSet.ofList [⟨"a,b", ∅, "10.0.0.1", 80, true, true, false, 2⟩]⟩ := by
  intro here around
  have held : (ofRegistry .twins).zones.localServices.value = some (Services.ofList
      [⟨"web", SortedSet.ofList [⟨"a,b", ∅, "10.0.0.1", 80, true, true, false, 2⟩]⟩]) := by
    decide +kernel
  have asks : here.Standard none := ⟨_, _, _, [], rfl⟩
  have shares : (ofRegistry .twins).Standard none := ⟨_, _, _, _, rfl⟩
  have source : here.sources[0]? = some (.peer .start) := rfl
  have fed : here.zones.feeds[0]? = some (.start "away" .remote) := rfl
  have reply : around.peer 0 = (Exchange.only (ofRegistry .twins)).reply := rfl
  obtain ⟨pass, next, polled, success, brings⟩ :=
    publishes_shared asks shares held (Exchange.only _) source fed reply
  have succeeded : pass.problem = none := success.mpr ⟨0, Nat.le_refl 0, rfl⟩
  obtain ⟨_, again, zones⟩ := poll_eq source fed around 0
  obtain rfl := (Prod.mk.inj (Option.some.inj (polled.symm.trans again))).2
  have remote : Zones.Ready next.zones.feeds := by
    rw [zones]
    intro feed member isLocal
    obtain rfl := List.mem_singleton.mp member
    contradiction
  obtain ⟨services, mesh, same⟩ := brings succeeded [] (by simp) remote
  have alone : next.zones.feeds.drop 1 = [] := by
    rw [zones]
    rfl
  refine ⟨pass, next, services, polled, succeeded, ?_, ?_⟩
  · rw [show next.run [] = next from rfl, alone] at mesh
    exact mesh
  · rw [same]
    decide +kernel

end ServiceMesh
