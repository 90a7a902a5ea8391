import Mathlib.Data.List.Forall2
import ServiceMesh.Proofs.Services
import ServiceMesh.Proofs.Snapshot.Alignment
import ServiceMesh.Proofs.Snapshot.BuilderSession

/-! The order in which things are told makes no difference: neither that of the zones, nor that of the
services of a zone, nor that of the instances of a service, nor that of the faults. Resources that are
made again from the same things in another order are the same, and so are their handles and versions. -/
namespace ServiceMesh

/-- A service and its instances, as they are listed. -/
structure ServiceListing where
  name : String
  instances : List Instance
deriving DecidableEq

/-- A zone and its services, as they are listed. -/
structure ZoneListing where
  zone : String
  locality : Locality
  services : List ServiceListing
deriving DecidableEq

def ServiceListing.service (listing : ServiceListing) : Service :=
  ⟨listing.name, SortedSet.ofList listing.instances⟩

def ZoneListing.state (listing : ZoneListing) : ZoneState :=
  ⟨listing.zone, listing.locality, Services.ofList (listing.services.map ServiceListing.service)⟩

def MultiZone.ofListings (listings : List ZoneListing) : MultiZone :=
  .ofList (listings.map ZoneListing.state)

/-- The elements of one list in another order, each of them told in another way. -/
def Rearranged {α : Type} (same : α → α → Prop) (list other : List α) : Prop :=
  ∃ middle, list.Perm middle ∧ List.Forall₂ same middle other

/-- The same service, with its instances in another order. -/
structure ServiceListing.Same (listing other : ServiceListing) : Prop where
  name : listing.name = other.name
  instances : listing.instances.Perm other.instances

/-- The same zone, with its services in another order. -/
structure ZoneListing.Same (listing other : ZoneListing) : Prop where
  zone : listing.zone = other.zone
  locality : listing.locality = other.locality
  services : Rearranged ServiceListing.Same listing.services other.services

/-- No zone is listed twice, and no service twice in a zone. -/
structure ListedOnce (listings : List ZoneListing) : Prop where
  zones : (listings.map fun listing => (listing.locality, listing.zone)).Nodup
  services : ∀ listing ∈ listings, (listing.services.map ServiceListing.name).Nodup

/-! ### What listings come to -/

/-- Where elements come to the same however they are told, lists come to the same but for the order. -/
theorem Rearranged.map_perm {α β : Type} {same : α → α → Prop} {list other : List α}
    (rearranged : Rearranged same list other) (f : α → β)
    (told : ∀ a ∈ list, ∀ b, same a b → f a = f b) : (list.map f).Perm (other.map f) := by
  obtain ⟨middle, perm, each⟩ := rearranged
  have listed : ∀ a ∈ middle, a ∈ list := fun a member => perm.mem_iff.mpr member
  have pairs : List.Forall₂ (fun a b => f a = f b) middle other :=
    ((List.forall₂_and_left middle other).mpr ⟨listed, each⟩).imp
      fun a b ⟨member, same⟩ => told a member b same
  have equal : middle.map f = other.map f := by
    rw [← List.forall₂_eq_eq_eq, List.forall₂_map_left_iff, List.forall₂_map_right_iff]
    exact pairs
  exact equal ▸ perm.map f

instance : Std.TransCmp ZoneState.order :=
  inferInstanceAs (Std.TransCmp (compareLex (compareOn ZoneState.locality) (compareOn ZoneState.zone)))

/-- Zones that come at the same place have the same locality and name. -/
theorem ZoneState.eq_of_order {a b : ZoneState} (equal : a.order b = .eq) :
    (a.locality, a.zone) = (b.locality, b.zone) := by
  obtain ⟨localities, zones⟩ := compareLex_eq_eq.mp equal
  have near : a.locality = b.locality :=
    Locality.priority_injective (Std.LawfulEqOrd.eq_of_compare localities)
  rw [near, Std.LawfulEqOrd.eq_of_compare zones]

theorem MultiZone.ofList_eq_of_perm {zones others : List ZoneState} (perm : zones.Perm others)
    (distinct : (zones.map fun zone => (zone.locality, zone.zone)).Nodup) :
    ofList zones = ofList others := by
  refine congrArg MultiZone.mk (Sorting.mergeSort_eq_of_perm perm ?_)
  intro a one b two equal
  exact List.inj_on_of_nodup_map distinct one two (ZoneState.eq_of_order equal)

theorem ServiceListing.Same.service_eq {listing other : ServiceListing} (same : listing.Same other) :
    listing.service = other.service := by
  rw [service, service, same.name, SortedSet.ofList_eq_of_perm same.instances]

theorem ZoneListing.Same.state_eq {listing other : ZoneListing} (same : listing.Same other)
    (distinct : (listing.services.map ServiceListing.name).Nodup) : listing.state = other.state := by
  have perm : (listing.services.map ServiceListing.service).Perm
      (other.services.map ServiceListing.service) :=
    same.services.map_perm _ fun _ _ _ same => same.service_eq
  have named : ((listing.services.map ServiceListing.service).map Service.name).Nodup := by
    rw [List.map_map]
    exact distinct
  rw [state, state, same.zone, same.locality, Services.ofList_eq_of_perm perm named]

/-- The state of the mesh does not tell in which order its parts were listed. -/
theorem MultiZone.ofListings_eq {listings others : List ZoneListing} (once : ListedOnce listings)
    (rearranged : Rearranged ZoneListing.Same listings others) :
    ofListings others = ofListings listings := by
  have perm : (listings.map ZoneListing.state).Perm (others.map ZoneListing.state) :=
    rearranged.map_perm _ fun listing member _ same => same.state_eq (once.services listing member)
  have distinct : ((listings.map ZoneListing.state).map fun zone =>
      (zone.locality, zone.zone)).Nodup := by
    rw [List.map_map]
    exact once.zones
  exact (ofList_eq_of_perm perm distinct).symm

theorem BuilderConfig.content_eq_of_perm {config : BuilderConfig} {group : ConsumerGroup}
    {global : GlobalSnapshot} {faults others : List Fault} (perm : faults.Perm others)
    (distinct : (faults.map Fault.id).Nodup) :
    config.content group global others = config.content group global faults := by
  have hosts : virtualHost others = virtualHost faults := by
    funext service
    rw [virtualHost, virtualHost, faultRules_eq_of_perm service perm distinct]
  rw [content, content, hosts]

/-! ### Building again -/

/-- The order in which zones, services, instances and faults are listed makes no difference. The
resources of all services are the same, whatever they are made from besides, and also if they are made
from those before; a group receives the same clusters, endpoints and routes. A builder that has built a
group from one listing and does so from another one, whatever it did meanwhile for other groups, finds
the same collections under their handles, computes no wire form and gives out no version. -/
theorem BuilderSession.listed_in_any_order (config : BuilderConfig) (earlier : List BuilderEvent)
    {later : List BuilderEvent} {group : ConsumerGroup}
    (spared : ∀ event ∈ later, event.Spares group)
    {listings others : List ZoneListing} (once : ListedOnce listings)
    (rearranged : Rearranged ZoneListing.Same listings others)
    {faults faults' : List Fault} (distinct : (faults.map Fault.id).Nodup)
    (perm : faults.Perm faults') (previous : Option GlobalSnapshot) (generation generation' : Nat) :
    let global := config.global (.ofListings listings) previous
    let global' := config.global (.ofListings others) previous
    let first := ((start config).run earlier).build group global faults generation
    let between := first.2.run later
    global' = global ∧
    config.global (.ofListings others) (some global) = global ∧
    config.content group global' faults' = config.content group global faults ∧
    between.Repeats first.1 (between.build group global' faults' generation') := by
  have mesh : MultiZone.ofListings others = .ofListings listings :=
    MultiZone.ofListings_eq once rearranged
  have sound : ((start config).run earlier).Sound := (Sound.start config).run earlier
  have configured : ((start config).run earlier).builder.config = config := config_run _ earlier
  -- How the builder came about has no part in what follows.
  generalize (start config).run earlier = session at sound configured ⊢
  subst configured
  rw [mesh]
  intro global global' first between
  have received : session.builder.config.content group global' faults' =
      session.builder.config.content group global faults :=
    BuilderConfig.content_eq_of_perm perm distinct
  refine ⟨rfl, ?_, received, sound.build_again spared received generation generation'⟩
  exact BuilderConfig.global_again session.builder.config _ previous

/-- Everything is listed backwards the second time, after the first snapshot was given back. -/
theorem BuilderSession.listed_in_any_order_backwards :
    let config : BuilderConfig := ⟨.zero, none, [], false⟩
    let group : ConsumerGroup := ⟨"web", .global, .all⟩
    let api (ids : List String) : ServiceListing :=
      ⟨"api", ids.map fun id => ⟨id, ∅, "10.0.0.1", 80, true, true, false, 1⟩⟩
    let listings : List ZoneListing :=
      [⟨"home", .local, [api ["a-1", "a-2"], ⟨"web", []⟩]⟩, ⟨"away", .remote, [⟨"web", []⟩]⟩]
    let others : List ZoneListing :=
      [⟨"away", .remote, [⟨"web", []⟩]⟩, ⟨"home", .local, [⟨"web", []⟩, api ["a-2", "a-1"]]⟩]
    let fault (id target : String) : Fault := ⟨id, ⟨"*"⟩, ⟨target⟩, .zero, .zero⟩
    let faults := [fault "f-1" "*", fault "f-2" "api"]
    let earlier := [.build ⟨"api", .local, .all⟩ (config.global (.ofListings listings) none) [] 0]
    let first := ((start config).run earlier).build group
      (config.global (.ofListings listings) none) faults 1
    let between := first.2.run [.giveBack 0, .giveBack 0, .purge]
    listings ≠ others ∧ between.Repeats first.1
      (between.build group (config.global (.ofListings others) none) faults.reverse 2) := by
  intro config group api listings others fault faults earlier first between
  have spared : ∀ event ∈ [.giveBack 0, .giveBack 0, .purge], BuilderEvent.Spares group event := by
    simp [BuilderEvent.Spares]
  have once : ListedOnce listings := ⟨by decide, by decide⟩
  have services : Rearranged ServiceListing.Same [api ["a-1", "a-2"], ⟨"web", []⟩]
      [⟨"web", []⟩, api ["a-2", "a-1"]] :=
    ⟨_, .swap _ _ _, .cons ⟨rfl, .refl _⟩ (.cons ⟨rfl, .swap _ _ _⟩ .nil)⟩
  have rearranged : Rearranged ZoneListing.Same listings others :=
    ⟨_, .swap _ _ _, .cons ⟨rfl, rfl, _, .refl _, .cons ⟨rfl, .refl _⟩ .nil⟩
      (.cons ⟨rfl, rfl, services⟩ .nil)⟩
  have distinct : (faults.map Fault.id).Nodup := by decide
  obtain ⟨-, -, -, repeats⟩ := listed_in_any_order config earlier spared once rearranged distinct
    (List.reverse_perm faults).symm none 1 2
  exact ⟨by decide, repeats⟩

end ServiceMesh
