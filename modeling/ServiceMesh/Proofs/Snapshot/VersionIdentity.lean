import Mathlib.Data.List.Induction
import ServiceMesh.Proofs.Snapshot.VersionOrder

/-! A version tells what it was given to: the group, the kind of collection and the resources. That holds
over any calls, those included in which groups are forgotten and come up again. Versions are counted without
a limit here, so no count ever starts again. -/
namespace ServiceMesh

/-- What can be asked of the versions: those of a group for its collections, and to forget all groups but
some. -/
inductive VersionCall where
  | assign (group : ConsumerGroup) (clusters : Handle Cluster) (endpoints : Handle LoadAssignment)
      (routes : Handle RouteConfiguration)
  | retain (groups : SortedSet ConsumerGroup)

/-- What one call has given versions to. -/
structure Assigned where
  group : ConsumerGroup
  content : SnapshotContent
  versions : Versions
deriving DecidableEq

/-- The same collection of the same group, as far as its resources go. -/
def Assigned.SameCollection (a b : Assigned) (kind other : ResourceKind) : Prop :=
  a.group = b.group ∧ kind = other ∧ a.content.Agrees b.content kind

theorem Assigned.SameCollection.symm {a b : Assigned} {kind other : ResourceKind}
    (same : a.SameCollection b kind other) : b.SameCollection a other kind := by
  obtain ⟨group, rfl, agrees⟩ := same
  exact ⟨group.symm, rfl, agrees.symm⟩

/-- Versions, and all that they were given to so far. -/
structure VersionLedger where
  versions : SnapshotVersions
  given : List Assigned

namespace VersionLedger

def start : VersionLedger := ⟨.start, []⟩

def handle (ledger : VersionLedger) : VersionCall → VersionLedger
  | .assign group clusters endpoints routes =>
      let (versions, next) := ledger.versions.assign group clusters endpoints routes
      let content := ⟨clusters.resources, endpoints.resources, routes.resources⟩
      ⟨next, ledger.given ++ [⟨group, content, versions⟩]⟩
  | .retain groups => { ledger with versions := ledger.versions.retain groups }

def run (calls : List VersionCall) : VersionLedger := calls.foldl handle start

theorem run_snoc (calls : List VersionCall) (call : VersionCall) :
    run (calls ++ [call]) = (run calls).handle call := by
  simp only [run, List.foldl_append, List.foldl_cons, List.foldl_nil]

/-- What is shown was given out, and no version was given to two different things. -/
structure Sound (ledger : VersionLedger) : Prop where
  within : ∀ a ∈ ledger.given, a.versions.Within ledger.versions.issued
  shown : ∀ group versions content, ledger.versions.shown? group = some (versions, content) →
    ⟨group, content, versions⟩ ∈ ledger.given
  apart : ∀ a ∈ ledger.given, ∀ b ∈ ledger.given, ∀ kind other,
    a.versions.of kind = b.versions.of other → a.SameCollection b kind other

variable {ledger : VersionLedger} {group : ConsumerGroup} {content : SnapshotContent}

theorem sound_start : start.Sound where
  within _ member := absurd member List.not_mem_nil
  shown _ _ _ found := by contradiction
  apart _ member := absurd member List.not_mem_nil

/-- The next version of a collection is one that the same collection has, or it is fresh; fresh ones of
several kinds have numbers of their own. -/
theorem Sound.next_cases (sound : ledger.Sound) (group : ConsumerGroup) (content : SnapshotContent)
    (kind : ResourceKind) :
    let shown := ledger.versions.shown? group
    let fresh := freshKinds shown content
    let next := (nextVersions shown ledger.versions.issued content).1
    (∃ old ∈ ledger.given, old.SameCollection ⟨group, content, next⟩ kind kind ∧
        next.of kind = old.versions.of kind) ∨
      kind ∈ fresh ∧ next.of kind = versionText (ledger.versions.issued + fresh.idxOf kind + 1) := by
  intro shown fresh next
  by_cases new : kind ∈ fresh
  · exact .inr ⟨new, (nextVersions_fresh shown ledger.versions.issued content).2 kind new⟩
  · rcases (nextVersions_of shown ledger.versions.issued content).2 kind with
      ⟨versions, before, found, agrees, kept⟩ | ⟨differs, -⟩
    · exact .inl ⟨⟨group, before, versions⟩, sound.shown group versions before found,
        ⟨rfl, rfl, agrees⟩, kept⟩
    · exact absurd (mem_freshKinds.mpr differs) new

/-- What a call gives versions to is told from all else by them. -/
theorem Sound.apart_next (sound : ledger.Sound) (group : ConsumerGroup) (content : SnapshotContent) :
    let next := (nextVersions (ledger.versions.shown? group) ledger.versions.issued content).1
    (∀ b ∈ ledger.given, ∀ kind other, next.of kind = b.versions.of other →
      Assigned.SameCollection ⟨group, content, next⟩ b kind other) ∧
    ∀ kind other, next.of kind = next.of other → kind = other := by
  intro next
  have known (b : Assigned) (member : b ∈ ledger.given) (kind other : ResourceKind)
      (same : next.of kind = b.versions.of other) :
      Assigned.SameCollection ⟨group, content, next⟩ b kind other := by
    rcases sound.next_cases group content kind with ⟨old, given, ⟨own, -, agrees⟩, kept⟩ | ⟨-, fresh⟩
    · obtain ⟨groups, rfl, alike⟩ := sound.apart old given b member kind other (kept.symm.trans same)
      exact ⟨own.symm.trans groups, rfl, agrees.symm.trans alike⟩
    · exact absurd (same.symm.trans fresh) ((sound.within b member).ne (by omega) other)
  refine ⟨known, fun kind other same => ?_⟩
  rcases sound.next_cases group content other with ⟨old, given, -, kept⟩ | ⟨new, fresh⟩
  · exact (known old given kind other (same.trans kept)).2.1
  · rcases sound.next_cases group content kind with ⟨old, given, -, kept⟩ | ⟨new', fresh'⟩
    · exact (known old given other kind (same.symm.trans kept)).2.1.symm
    · have numbers := versionText_injective (fresh'.symm.trans (same.trans fresh))
      exact (List.idxOf_inj new').mp (by omega)

theorem Sound.assign (sound : ledger.Sound) (group : ConsumerGroup) (clusters : Handle Cluster)
    (endpoints : Handle LoadAssignment) (routes : Handle RouteConfiguration) :
    (ledger.handle (.assign group clusters endpoints routes)).Sound := by
  set content : SnapshotContent := ⟨clusters.resources, endpoints.resources, routes.resources⟩
  obtain ⟨named, issued, shown⟩ := ledger.versions.assign_shown group clusters endpoints routes
  obtain ⟨older, own⟩ := sound.apart_next group content
  obtain ⟨grows, told⟩ := nextVersions_of (ledger.versions.shown? group) ledger.versions.issued content
  simp only [handle]
  generalize ledger.versions.assign group clusters endpoints routes = assigned at named issued shown ⊢
  obtain ⟨versions, after⟩ := assigned
  dsimp only at named issued shown ⊢
  subst named
  rw [← issued] at grows told
  have now : Versions.Within _ after.issued := fun kind => by
    rcases told kind with ⟨before, old, found, -, kept⟩ | ⟨-, n, -, below, fresh⟩
    · obtain ⟨n, below, earlier⟩ := sound.within _ (sound.shown group before old found) kind
      exact ⟨n, below.trans grows, kept.trans earlier⟩
    · exact ⟨n, below, fresh⟩
  refine ⟨fun a member => ?_, fun other versions old found => ?_, fun a one b two kind other same => ?_⟩
  · rcases List.mem_append.mp member with before | new
    · exact (sound.within a before).mono grows
    · obtain rfl := List.mem_singleton.mp new
      exact now
  · rw [shown] at found
    split at found
    case isTrue here =>
      cases found
      exact here ▸ List.mem_append_right _ List.mem_cons_self
    case isFalse => exact List.mem_append_left _ (sound.shown other versions old found)
  · rcases List.mem_append.mp one with before | new <;> rcases List.mem_append.mp two with before' | new'
    · exact sound.apart a before b before' kind other same
    · obtain rfl := List.mem_singleton.mp new'
      exact (older a before other kind same.symm).symm
    · obtain rfl := List.mem_singleton.mp new
      exact older b before' kind other same
    · obtain rfl := List.mem_singleton.mp new
      obtain rfl := List.mem_singleton.mp new'
      exact ⟨rfl, own kind other same, .refl _ _⟩

theorem Sound.handle (sound : ledger.Sound) (call : VersionCall) : (ledger.handle call).Sound := by
  cases call with
  | assign group clusters endpoints routes => exact sound.assign group clusters endpoints routes
  | retain groups =>
      refine ⟨sound.within, fun group versions content found => ?_, sound.apart⟩
      rw [VersionLedger.handle, SnapshotVersions.shown?_retain] at found
      split at found
      case isTrue => exact sound.shown group versions content found
      case isFalse => contradiction

theorem run_sound (calls : List VersionCall) : (run calls).Sound := by
  induction calls using List.reverseRecOn with
  | nil => exact sound_start
  | append_singleton calls call ih =>
      rw [run_snoc]
      exact ih.handle call

/-- Where two versions are the same, of whatever calls and kinds, the collections are of the same group and
kind, and their resources are the same. -/
theorem versions_identify (calls : List VersionCall) {a b : Assigned} (one : a ∈ (run calls).given)
    (two : b ∈ (run calls).given) {kind other : ResourceKind}
    (same : a.versions.of kind = b.versions.of other) :
    a.group = b.group ∧ kind = other ∧ a.content.Agrees b.content kind :=
  (run_sound calls).apart a one b two kind other same

/-- A group changes its clusters and is forgotten. When it comes up again with the first ones, it gets
versions that nothing had; its other collections keep theirs only until then. -/
theorem versions_identify_forgotten :
    let web : ConsumerGroup := ⟨"web", .global, .all⟩
    let assign (names : List String) : VersionCall :=
      .assign web ⟨0, names.map fun name => ⟨name, 0, false⟩⟩ ⟨0, []⟩ ⟨0, []⟩
    let calls := [assign ["a"], assign ["b"], .retain ∅, assign ["a"]]
    ∃ first second third, (run calls).given = [first, second, third] ∧
      first.versions.of .routes = second.versions.of .routes ∧
      first.content.Agrees second.content .routes ∧
      first.versions.of .clusters ≠ second.versions.of .clusters ∧
      third.versions = ⟨"5", "6", "7"⟩ := by
  intro web assign calls
  let content (names : List String) : SnapshotContent := ⟨names.map fun name => ⟨name, 0, false⟩, [], []⟩
  let first : Assigned := ⟨web, content ["a"], ⟨"1", "2", "3"⟩⟩
  let second : Assigned := ⟨web, content ["b"], ⟨"4", "2", "3"⟩⟩
  let third : Assigned := ⟨web, content ["a"], ⟨"5", "6", "7"⟩⟩
  have ran : (run calls).given = [first, second, third] := by decide
  have one : first ∈ (run calls).given := by simp [ran]
  have two : second ∈ (run calls).given := by simp [ran]
  have same : first.versions.of .routes = second.versions.of .routes := rfl
  have agrees := versions_identify calls one two same
  exact ⟨first, second, third, ran, same, agrees.2.2, by decide, rfl⟩

end VersionLedger

end ServiceMesh
