import Mathlib.Data.List.TakeWhile
import ServiceMesh.Proofs.Admin.Target
import ServiceMesh.Proofs.ControlPlane.Following
import ServiceMesh.Proofs.Fault.Store
import ServiceMesh.Proofs.Service.RoundTrip

/-! How the things that the admin API shows are addressed: by a path that ends in their name, written
as a segment. The API takes the segment for the name as it stands there. -/
namespace ServiceMesh

namespace Admin

open ServiceMesh.Consul (IsPlain encodeSegment isSegmentChar_of_mem slash_not_mem_encodeSegment)

variable {base name segment method target path : String}

/-! ### Targets -/

/-- The path of what is found under a name. -/
def entryPath (base name : String) : String := base ++ "/" ++ encodeSegment name

theorem toList_entryPath (base name : String) :
    (entryPath base name).toList = base.toList ++ '/' :: (encodeSegment name).toList := by
  rw [entryPath, String.toList_append, String.toList_append, List.append_assoc]
  rfl

/-- The parameter of a path is what it adds to its base and a slash: something in one segment. -/
theorem parameter?_eq_some_iff : parameter? base path = some segment ↔
    path = base ++ "/" ++ segment ∧ segment ≠ "" ∧ '/' ∉ segment.toList := by
  have slash : (base ++ "/").toList = base.toList ++ ['/'] := String.toList_append
  unfold parameter?
  dsimp only
  rw [← slash]
  constructor
  · intro found
    split at found
    case isFalse => contradiction
    case isTrue below =>
      obtain rfl := Option.some.inj found
      rw [Bool.and_eq_true, Bool.and_eq_true, Bool.not_eq_true', Bool.not_eq_true'] at below
      obtain ⟨⟨front, filled⟩, single⟩ := below
      obtain ⟨rest, whole⟩ := List.isPrefixOf_iff_prefix.mp front
      rw [← whole, List.drop_left] at filled single ⊢
      refine ⟨String.toList_injective ?_, ?_, ?_⟩
      · rw [String.toList_append, String.toList_ofList, whole]
      · rwa [ne_eq, ← String.toList_eq_nil_iff, String.toList_ofList, ← ne_eq,
          ← List.isEmpty_eq_false_iff]
      · rwa [String.toList_ofList, ← List.contains_iff_mem, Bool.not_eq_true]
  · rintro ⟨rfl, filled, single⟩
    have whole : (base ++ "/" ++ segment).toList = (base ++ "/").toList ++ segment.toList :=
      String.toList_append
    have front : (base ++ "/").toList.isPrefixOf (base ++ "/" ++ segment).toList = true := by
      rw [whole]
      exact List.isPrefixOf_iff_prefix.mpr (List.prefix_append _ _)
    have filled : segment.toList.isEmpty = false := by
      rwa [List.isEmpty_eq_false_iff, ne_eq, String.toList_eq_nil_iff]
    have single : segment.toList.contains '/' = false := by
      rwa [← Bool.not_eq_true, List.contains_iff_mem]
    rw [front, whole, List.drop_left, filled, single, String.ofList_toList]
    rfl

theorem parameter?_entryPath (base : String) (filled : name ≠ "") :
    parameter? base (entryPath base name) = some (encodeSegment name) :=
  parameter?_eq_some_iff.mpr
    ⟨rfl, Consul.encodeSegment_ne_empty filled, slash_not_mem_encodeSegment⟩

/-- A path below a base is none of the paths that are not. -/
theorem ne_of_parameter? {other : String} (below : parameter? base path = some segment)
    (apart : parameter? base other = none) : path ≠ other := by
  rintro rfl
  rw [below] at apart
  contradiction

theorem Place.of_service (filled : name ≠ "") :
    Place.of (entryPath statePath name) = .service (encodeSegment name) := by
  have below := parameter?_entryPath statePath filled
  have apart (other : String) :
      parameter? statePath other = none → entryPath statePath name ≠ other := ne_of_parameter? below
  rw [Place.of, if_neg (apart _ (by decide)), if_neg (apart _ (by decide)),
    if_neg (apart _ (by decide)), if_neg (apart _ (by decide)), if_neg (apart _ (by decide)), below]

theorem Place.of_eq_fault_iff {id : String} :
    Place.of path = .fault id ↔ parameter? faultsPath path = some id := by
  constructor
  · intro place
    unfold Place.of at place
    split_ifs at place
    split at place
    case h_2 found =>
      obtain rfl := Place.fault.inj place
      exact found
    all_goals contradiction
  · intro below
    have apart (other : String) : parameter? faultsPath other = none → path ≠ other :=
      ne_of_parameter? below
    have elsewhere : parameter? statePath path = none := by
      obtain ⟨rfl, -, -⟩ := parameter?_eq_some_iff.mp below
      unfold parameter?
      rw [String.toList_append, String.toList_append]
      rfl
    rw [Place.of, if_neg (apart _ (by decide)), if_neg (apart _ (by decide)),
      if_neg (apart _ (by decide)), if_neg (apart _ (by decide)), if_neg (apart _ (by decide)),
      elsewhere, below]

theorem Place.of_fault (filled : name ≠ "") :
    Place.of (entryPath faultsPath name) = .fault (encodeSegment name) :=
  Place.of_eq_fault_iff.mpr (parameter?_entryPath faultsPath filled)

/-- A request for what is found under a name is well-formed, unless its path is too long. -/
theorem of?_entryPath_eq_some_iff
    (token : (method.isEmpty || !method.toList.all isTokenChar) = false)
    (absolute : base.toList.head? = some '/') (stays : base.toList.all staysInPath = true)
    {request : Request} :
    Request.of? method (entryPath base name) [] = some request ↔
      (entryPath base name).utf8ByteSize ≤ 65534 ∧
        request = ⟨method, entryPath base name, []⟩ := by
  have first : (entryPath base name).toList.head? = some '/' := by
    rw [toList_entryPath, List.head?_append, absolute]
    rfl
  have segment : (encodeSegment name).toList.all staysInPath = true :=
    List.all_eq_true.mpr fun c member => staysInPath_of_isSegmentChar (isSegmentChar_of_mem member)
  have all : (entryPath base name).toList.all staysInPath = true := by
    rw [toList_entryPath, List.all_append, List.all_cons, stays, segment]
    rfl
  rw [Request.of?, token, if_neg Bool.false_ne_true, targetPath?_eq first all]
  split
  case isTrue long => simp [Nat.not_le.mpr long]
  case isFalse short => simp [Nat.le_of_not_lt short, eq_comm]

theorem of?_service_eq_some_iff {request : Request} :
    Request.of? "GET" (entryPath statePath name) [] = some request ↔
      (entryPath statePath name).utf8ByteSize ≤ 65534 ∧
        request = ⟨"GET", entryPath statePath name, []⟩ :=
  of?_entryPath_eq_some_iff (by decide) (by decide) (by decide)

theorem of?_fault_eq_some_iff {request : Request} :
    Request.of? "DELETE" (entryPath faultsPath name) [] = some request ↔
      (entryPath faultsPath name).utf8ByteSize ≤ 65534 ∧
        request = ⟨"DELETE", entryPath faultsPath name, []⟩ :=
  of?_entryPath_eq_some_iff (by decide) (by decide) (by decide)

/-! ### Answers -/

variable {services : Services} {now : Time} {freshId : String}

/-- What is shown under a name is the service that is filed under the segment of that name. -/
theorem Api.handle_service (api : Api) (held : api.localServices = some services)
    (filled : name ≠ "") :
    (api.handle now freshId ⟨"GET", entryPath statePath name, []⟩).1 =
      (services.get? (encodeSegment name)).elim .notFound fun found =>
        .json found.toJson.render := by
  unfold Api.handle
  dsimp only
  rw [Place.of_service filled]
  dsimp only
  unfold Api.showServices
  rw [held]
  dsimp only
  cases services.get? (encodeSegment name) <;> rfl

/-- The service of a name is shown exactly if the name is its own segment. -/
theorem Api.handle_service_eq_iff (api : Api) (held : api.localServices = some services)
    (keyed : services.Keyed) {service : Service} (known : services.get? name = some service)
    (filled : name ≠ "") :
    (api.handle now freshId ⟨"GET", entryPath statePath name, []⟩).1 =
      .json service.toJson.render ↔ IsPlain name := by
  rw [Api.handle_service api held filled, ← Consul.encodeSegment_eq_self_iff]
  constructor
  · intro shown
    cases found : services.get? (encodeSegment name) with
    | none =>
        rw [found] at shown
        cases shown
    | some other =>
        rw [found] at shown
        obtain ⟨-, -, body⟩ := Response.mk.inj shown
        obtain rfl := Service.eq_of_render_eq (Body.text.inj body)
        exact (keyed _ _ found).symm.trans (keyed _ _ known)
  · intro plain
    rw [plain, known]
    rfl

theorem Api.handle_faults (api : Api) (sound : api.faults.Sound) :
    api.handle now freshId ⟨"GET", faultsPath, []⟩ =
      (.json (faultListJson (api.faults.store.live now)).render,
        { api.faults with store := api.faults.store.purge now }) := by
  have place : Place.of faultsPath = .faults := by decide
  unfold Api.handle
  dsimp only
  rw [place]
  dsimp only
  rw [if_pos rfl, Api.listFaults, sound.list_eq]

/-- A deletion under an id deletes the segment of that id. -/
theorem Api.handle_fault (api : Api) (sound : api.faults.Sound) {id : String} (filled : id ≠ "") :
    api.handle now freshId ⟨"DELETE", entryPath faultsPath id, []⟩ =
      (.bare 204, { api.faults with
        store := api.faults.store.delete (encodeSegment id)
        revision := api.faults.revision + 1 }) := by
  unfold Api.handle
  dsimp only
  rw [Place.of_fault filled]
  dsimp only
  rw [if_pos rfl, Api.deleteFault, sound.delete_eq]

theorem Api.submitFault_sound (api : Api) (sound : api.faults.Sound) (body : List UInt8) :
    (api.submitFault now freshId body).2.Sound := by
  unfold Api.submitFault
  split
  · exact sound
  · split
    · exact sound
    · split
      case h_1 accepted => exact sound.submit accepted
      case h_2 => exact sound

theorem Api.handle_sound (api : Api) (sound : api.faults.Sound) (request : Request) :
    (api.handle now freshId request).2.Sound := by
  unfold Api.handle
  dsimp only
  cases Place.of request.path with
  | ready => exact sound
  | live => exact sound
  | metrics => exact sound
  | services => exact sound
  | service name => exact sound
  | nowhere => exact sound
  | faults =>
      dsimp only
      split
      · rw [Api.listFaults, sound.list_eq]
        exact sound.list (sound.list_eq now)
      · split
        · exact Api.submitFault_sound api sound request.body
        · exact sound
  | fault id =>
      dsimp only
      split
      · rw [Api.deleteFault, sound.delete_eq]
        exact sound.delete (sound.delete_eq id)
      · exact sound

end Admin

namespace ControlPlane

open ServiceMesh.Admin (Request entryPath statePath faultsPath faultListJson)
open ServiceMesh.Consul (encodeSegment IsPlain)

variable {plane : ControlPlane}

theorem perform_sound (sound : plane.faults.Sound) (event : Event) :
    (plane.perform event).faults.Sound := by
  cases event with
  | aggregate => exact sound
  | handle now freshId request => exact Admin.Api.handle_sound plane.admin sound request
  | poll index around now =>
      rcases plane.perform_poll index around now with same | ⟨source, feed, -, -, polled⟩
      · rwa [same]
      · rwa [polled]
  | update now =>
      rcases plane.updater.update_faults plane.zones.published plane.faults now with
        same | ⟨listed, lists⟩
      · have kept : (plane.perform (.update now)).faults = plane.faults := same
        rwa [kept]
      · exact sound.list lists

theorem run_sound (sound : plane.faults.Sound) (events : List Event) :
    (plane.run events).faults.Sound := by
  induction events using List.reverseRecOn with
  | nil => exact sound
  | append_singleton events event ih =>
      rw [run_snoc]
      exact perform_sound ih event

/-- The local services are filed under their own names. -/
theorem keyed_of_screened (screened : plane.zones.Screened) {services : Services}
    (held : plane.zones.localServices.value = some services) : services.Keyed := by
  obtain ⟨raw, rfl⟩ := screened services held
  exact Services.keyed_ofList _

theorem handle_faults (sound : plane.faults.Sound) {now : Time} {freshId : String} :
    plane.handle now freshId ⟨"GET", faultsPath, []⟩ =
      (.json (faultListJson (plane.faults.store.live now)).render, { plane with
        faults := { plane.faults with store := plane.faults.store.purge now } }) := by
  rw [handle, Admin.Api.handle_faults plane.admin sound]
  rfl

theorem handle_fault (sound : plane.faults.Sound) {now : Time} {freshId id : String}
    (filled : id ≠ "") :
    plane.handle now freshId ⟨"DELETE", entryPath faultsPath id, []⟩ =
      (.bare 204, { plane with faults := { plane.faults with
        store := plane.faults.store.delete (encodeSegment id)
        revision := plane.faults.revision + 1 } }) := by
  rw [handle, Admin.Api.handle_fault plane.admin sound filled]
  rfl

/-- A loaded service of the local zone is asked for by its name written as a segment, unless that makes
a path too long. The answer is what is filed under the segment as it stands there; it is the service if
and only if all bytes of the name may stand for themselves. In the same way, the deletion of a fault
that is listed takes away what is listed under the segment of its id, which is just that fault if and
only if all bytes of the id may stand for themselves. -/
theorem addressed_iff_plain (config : SourceConfig) (known : List (Feed × ZoneSource))
    (pipeline : Pipeline) (builder : BuilderConfig) (events : List Event) (now : Time)
    (freshId : String) :
    let plane := (start config known pipeline builder).run events
    (∀ services name service, plane.zones.localServices.value = some services →
      services.get? name = some service → name ≠ "" →
      ((Request.of? "GET" (entryPath statePath name) []).isSome = true ↔
        (entryPath statePath name).utf8ByteSize ≤ 65534) ∧
      ∀ request, Request.of? "GET" (entryPath statePath name) [] = some request →
        let answer := (plane.handle now freshId request).1
        answer = (services.get? (encodeSegment name)).elim .notFound
          (fun found => .json found.toJson.render) ∧
        (answer = .json service.toJson.render ↔ IsPlain name)) ∧
    ∃ listed rest, plane.faults.list now = .ok (listed, rest) ∧
      (plane.handle now freshId ⟨"GET", faultsPath, []⟩).1 =
        .json (faultListJson listed).render ∧
      ∀ fault ∈ listed, fault.id ≠ "" →
        ((Request.of? "DELETE" (entryPath faultsPath fault.id) []).isSome = true ↔
          (entryPath faultsPath fault.id).utf8ByteSize ≤ 65534) ∧
        ∀ request, Request.of? "DELETE" (entryPath faultsPath fault.id) [] = some request →
          let behind := plane.handle now freshId request
          let left := listed.filter (·.id ≠ encodeSegment fault.id)
          behind.1 = .bare 204 ∧
          (behind.2.handle now freshId ⟨"GET", faultsPath, []⟩).1 =
            .json (faultListJson left).render ∧
          (left = listed.filter (· ≠ fault) ↔ IsPlain fault.id) := by
  intro plane
  have sound : plane.faults.Sound := run_sound .start events
  have screened : plane.zones.Screened := screened_run (fun _ held => by contradiction) events
  refine ⟨fun services name service held found filled => ⟨?_, fun request made => ?_⟩,
    plane.faults.store.live now, _, sound.list_eq now, ?_, fun fault member filled =>
      ⟨?_, fun request made => ?_⟩⟩
  · simp [Option.isSome_iff_exists, Admin.of?_service_eq_some_iff]
  · obtain ⟨-, rfl⟩ := Admin.of?_service_eq_some_iff.mp made
    exact ⟨Admin.Api.handle_service plane.admin held filled,
      Admin.Api.handle_service_eq_iff plane.admin held
        (keyed_of_screened screened held) found filled⟩
  · rw [handle_faults sound]
  · simp [Option.isSome_iff_exists, Admin.of?_fault_eq_some_iff]
  · obtain ⟨-, rfl⟩ := Admin.of?_fault_eq_some_iff.mp made
    have removed := sound.delete (sound.delete_eq (encodeSegment fault.id))
    rw [handle_fault sound filled]
    dsimp only
    rw [handle_faults removed]
    dsimp only
    rw [sound.keyed.live_delete, sound.keyed.filter_id_eq_iff member,
      Consul.encodeSegment_eq_self_iff]
    exact ⟨rfl, rfl, Iff.rfl⟩

/-- A service of one instance. -/
def lone (name : String) : Service :=
  ⟨name, SortedSet.ofList [⟨"1", ∅, "10.0.0.1", 80, true, true, false, 1⟩]⟩

/-- A fault that lasts a minute. -/
def minuteFault (id : String) : Fault := ⟨id, ⟨"*"⟩, ⟨"api"⟩, .ofMillis 1_000, .ofMillis 60_000⟩

/-- A control plane that was told of a service, and to which a fault of the same name was submitted. -/
def ofName (name : String) : ControlPlane :=
  let around : Surroundings := ⟨⟨fun _ => ⟨none, .error (.status 500)⟩,
    fun _ _ => ⟨none, .error (.status 500)⟩⟩, fun _ => ⟨some 0, .ok (.ofList [lone name])⟩⟩
  (start ⟨⟨.zero, .zero, .zero, ⟨∅⟩, ⟨"", "", 1⟩⟩, ⟨.zero, .zero, .zero⟩⟩
    [(.start "home" .local, .peer .start)] ⟨[]⟩ ⟨.zero, none, [], false⟩).run
    [.poll 0 around 0, .aggregate,
      .handle 0 "" ⟨"POST", faultsPath, Text.utf8 (minuteFault name).toJson.render⟩]

/-- A service and a fault of a plain name are found under it. -/
theorem addressed_iff_plain_api :
    let deleted := (ofName "api").handle 0 "" ⟨"DELETE", entryPath faultsPath "api", []⟩
    ((ofName "api").handle 0 "" ⟨"GET", entryPath statePath "api", []⟩).1 =
      .json (lone "api").toJson.render ∧
    deleted.1 = .bare 204 ∧
    (deleted.2.handle 0 "" ⟨"GET", faultsPath, []⟩).1 = .json (faultListJson []).render := by
  obtain ⟨config, known, pipeline, builder, events, ran⟩ : ∃ config known pipeline builder events,
      ofName "api" = (start config known pipeline builder).run events := ⟨_, _, _, _, _, rfl⟩
  have held : (ofName "api").zones.localServices.value = some (.ofList [lone "api"]) := by
    decide +kernel
  have live : (ofName "api").faults.store.live 0 = [minuteFault "api"] := by decide +kernel
  have addressed := addressed_iff_plain config known pipeline builder events 0 ""
  rw [← ran] at addressed
  obtain ⟨shows, listed, rest, lists, -, deletes⟩ := addressed
  have plain : IsPlain "api" := by decide +kernel
  obtain ⟨-, shown⟩ := shows _ "api" (lone "api") held (by decide) (by decide)
  obtain ⟨-, found⟩ := shown _ (Admin.of?_service_eq_some_iff.mpr ⟨by decide, rfl⟩)
  obtain ⟨-, rfl, -⟩ := FaultService.list_eq_ok_iff.mp lists
  rw [live] at deletes
  obtain ⟨-, deleted⟩ := deletes (minuteFault "api") (List.mem_singleton_self _) (by decide)
  obtain ⟨gone, left, only⟩ :=
    deleted _ (Admin.of?_fault_eq_some_iff.mpr ⟨by decide, rfl⟩)
  refine ⟨found.mpr plain, gone, left.trans ?_⟩
  rw [only.mpr plain]
  rfl

/-- A service and a fault with a space in their name are not found under it: the service is unknown
under its own path, and the fault outlives its deletion. -/
theorem spaced_names_missed :
    let shown : Request := ⟨"GET", "/state/a%20b", []⟩
    let deletion : Request := ⟨"DELETE", "/chaos/fault/read-network-delay/a%20b", []⟩
    let deleted := (ofName "a b").handle 0 "" deletion
    ((ofName "a b").zones.localServices.value.bind (·.get? "a b") = some (lone "a b") ∧
      Request.of? "GET" (entryPath statePath "a b") [] = some shown ∧
      ((ofName "a b").handle 0 "" shown).1 = .notFound) ∧
    (ofName "a b").faults.store.live 0 = [minuteFault "a b"] ∧
      Request.of? "DELETE" (entryPath faultsPath "a b") [] = some deletion ∧
      deleted.1 = .bare 204 ∧ deleted.2.faults.store.live 0 = [minuteFault "a b"] := by
  decide +kernel

end ControlPlane

end ServiceMesh
