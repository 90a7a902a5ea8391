import Mathlib.Tactic.Set
import ServiceMesh.Proofs.Snapshot.Rebuild

/-! No version is given out twice. A collection has the version of the one built before it for its
group if the two are equal, and else a version that nothing had until then. -/
namespace ServiceMesh

theorem digitChar_injective {m n : Nat} (small : m < 16) (small' : n < 16)
    (same : Nat.digitChar m = Nat.digitChar n) : m = n := by
  have all : ∀ i j : Fin 16, Nat.digitChar i = Nat.digitChar j → i = j := by decide
  exact congrArg Fin.val (all ⟨m, small⟩ ⟨n, small'⟩ same)

/-- A number of at least two digits is told from its last digit and the rest. -/
theorem toDigits_eq (n : Nat) :
    Nat.toDigits 16 n =
      (if n < 16 then [] else Nat.toDigits 16 (n / 16)) ++ [Nat.digitChar (n % 16)] := by
  split
  case isTrue small => rw [Nat.toDigits_of_lt_base small, Nat.mod_eq_of_lt small, List.nil_append]
  case isFalse large => exact Nat.toDigits_of_base_le (by decide) (Nat.not_lt.mp large)

theorem toDigits_injective {m n : Nat} (same : Nat.toDigits 16 m = Nat.toDigits 16 n) : m = n := by
  have nonempty (n : Nat) : Nat.toDigits 16 n ≠ [] := by
    rw [toDigits_eq]
    exact List.append_ne_nil_of_right_ne_nil _ (List.cons_ne_nil _ _)
  induction m using Nat.strongRecOn generalizing n with
  | ind m ih =>
      rw [toDigits_eq m, toDigits_eq n] at same
      obtain ⟨fronts, lasts⟩ := List.append_inj' same rfl
      have low : m % 16 = n % 16 := digitChar_injective (Nat.mod_lt _ (by decide))
        (Nat.mod_lt _ (by decide)) (List.singleton_inj.mp lasts)
      have high : m / 16 = n / 16 := by
        split at fronts
        case isTrue small =>
          split at fronts
          case isTrue small' => rw [Nat.div_eq_of_lt small, Nat.div_eq_of_lt small']
          case isFalse => exact absurd fronts.symm (nonempty _)
        case isFalse large =>
          split at fronts
          case isTrue => exact absurd fronts (nonempty _)
          case isFalse => exact ih (m / 16) (by omega) fronts
      omega

theorem versionText_injective {m n : Nat} (same : versionText m = versionText n) : m = n :=
  toDigits_injective (String.ofList_injective same)

/-- The kinds of collections in a snapshot. -/
inductive ResourceKind where
  | clusters
  | endpoints
  | routes
deriving DecidableEq

namespace Versions

def of (versions : Versions) : ResourceKind → String
  | .clusters => versions.clusters
  | .endpoints => versions.endpoints
  | .routes => versions.routes

theorem ext_of {versions others : Versions} (same : ∀ kind, versions.of kind = others.of kind) :
    versions = others := by
  have clusters := same .clusters
  have endpoints := same .endpoints
  have routes := same .routes
  cases versions
  cases others
  simp_all [of]

/-- All of some versions are among the first that were given out. -/
def Within (versions : Versions) (issued : Nat) : Prop :=
  ∀ kind, ∃ n ≤ issued, versions.of kind = versionText n

theorem Within.mono {versions : Versions} {issued later : Nat} (within : versions.Within issued)
    (more : issued ≤ later) : versions.Within later := by
  intro kind
  obtain ⟨n, old, named⟩ := within kind
  exact ⟨n, old.trans more, named⟩

/-- A version that is given out later is none of those before. -/
theorem Within.ne {versions : Versions} {issued n : Nat} (within : versions.Within issued)
    (later : issued < n) (kind : ResourceKind) : versions.of kind ≠ versionText n := by
  obtain ⟨number, old, named⟩ := within kind
  intro same
  have := versionText_injective (named.symm.trans same)
  omega

end Versions

namespace SnapshotContent

/-- Two contents have the same collection of a kind. -/
def Agrees (content other : SnapshotContent) : ResourceKind → Prop
  | .clusters => content.clusters = other.clusters
  | .endpoints => content.endpoints = other.endpoints
  | .routes => content.routes = other.routes

variable {content other third : SnapshotContent} {kind : ResourceKind}

theorem Agrees.refl (content : SnapshotContent) (kind : ResourceKind) :
    content.Agrees content kind := by
  cases kind <;> rfl

theorem Agrees.symm (agrees : content.Agrees other kind) : other.Agrees content kind := by
  cases kind <;> exact Eq.symm agrees

theorem Agrees.trans (agrees : content.Agrees other kind) (again : other.Agrees third kind) :
    content.Agrees third kind := by
  cases kind <;> exact Eq.trans agrees again

end SnapshotContent

/-- An equal collection keeps its version; any other gets one that was never given out. -/
theorem nextVersion_of {α : Type} [DecidableEq α] (version : String) (before after : List α)
    (issued : Nat) :
    let next := nextVersion version before after issued
    issued ≤ next.2 ∧ (before = after ∧ next.1 = version ∨
      before ≠ after ∧ ∃ n, issued < n ∧ n ≤ next.2 ∧ next.1 = versionText n) := by
  intro next
  unfold next nextVersion
  split
  case isTrue same => exact ⟨Nat.le_refl _, .inl ⟨same, rfl⟩⟩
  case isFalse differs =>
    exact ⟨Nat.le_succ _, .inr ⟨differs, _, Nat.lt_succ_self _, Nat.le_refl _, rfl⟩⟩

/-- The count of versions grows, and the version of a kind is the one that is shown if its
collection is the same, and else one that was never given out. -/
theorem nextVersions_of (shown : Option (Versions × SnapshotContent)) (issued : Nat)
    (content : SnapshotContent) :
    let next := nextVersions shown issued content
    issued ≤ next.2 ∧ ∀ kind,
      (∃ versions before, shown = some (versions, before) ∧ before.Agrees content kind ∧
        next.1.of kind = versions.of kind) ∨
      ((∀ versions before, shown = some (versions, before) → ¬ before.Agrees content kind) ∧
        ∃ n, issued < n ∧ n ≤ next.2 ∧ next.1.of kind = versionText n) := by
  intro next
  cases shown with
  | none =>
      refine ⟨Nat.le_add_right _ _, fun kind => .inr ⟨nofun, ?_⟩⟩
      cases kind with
      | clusters => exact ⟨issued + 1, by omega, Nat.add_le_add_left (by decide) _, rfl⟩
      | endpoints => exact ⟨issued + 2, by omega, Nat.add_le_add_left (by decide) _, rfl⟩
      | routes => exact ⟨issued + 3, by omega, Nat.le_refl _, rfl⟩
  | some shown =>
      obtain ⟨versions, before⟩ := shown
      set clusters := nextVersion versions.clusters before.clusters content.clusters issued
      set endpoints := nextVersion versions.endpoints before.endpoints content.endpoints clusters.2
      set routes := nextVersion versions.routes before.routes content.routes endpoints.2
      have behind : next = (⟨clusters.1, endpoints.1, routes.1⟩, routes.2) := rfl
      obtain ⟨first, ofClusters⟩ : issued ≤ clusters.2 ∧ _ := nextVersion_of _ _ _ _
      obtain ⟨second, ofEndpoints⟩ : clusters.2 ≤ endpoints.2 ∧ _ := nextVersion_of _ _ _ _
      obtain ⟨third, ofRoutes⟩ : endpoints.2 ≤ routes.2 ∧ _ := nextVersion_of _ _ _ _
      rw [behind]
      refine ⟨first.trans (second.trans third), fun kind => ?_⟩
      simp only [Option.some.injEq, Prod.mk.injEq]
      cases kind with
      | clusters =>
          refine ofClusters.imp (fun ⟨same, kept⟩ => ⟨_, _, ⟨rfl, rfl⟩, same, kept⟩) ?_
          rintro ⟨differs, n, above, below, fresh⟩
          refine ⟨?_, n, above, below.trans (second.trans third), fresh⟩
          rintro _ _ ⟨rfl, rfl⟩
          exact differs
      | endpoints =>
          refine ofEndpoints.imp (fun ⟨same, kept⟩ => ⟨_, _, ⟨rfl, rfl⟩, same, kept⟩) ?_
          rintro ⟨differs, n, above, below, fresh⟩
          refine ⟨?_, n, first.trans_lt above, below.trans third, fresh⟩
          rintro _ _ ⟨rfl, rfl⟩
          exact differs
      | routes =>
          refine ofRoutes.imp (fun ⟨same, kept⟩ => ⟨_, _, ⟨rfl, rfl⟩, same, kept⟩) ?_
          rintro ⟨differs, n, above, below, fresh⟩
          refine ⟨?_, n, (first.trans second).trans_lt above, below, fresh⟩
          rintro _ _ ⟨rfl, rfl⟩
          exact differs

/-- What is shown goes under versions that were given out. -/
def SnapshotVersions.Numbered (versions : SnapshotVersions) : Prop :=
  ∀ group shown content, versions.shown? group = some (shown, content) → shown.Within versions.issued

theorem SnapshotVersions.numbered_start : SnapshotVersions.start.Numbered := by
  intro group shown content found
  contradiction

/-- Forgetting groups gives no version out. -/
theorem SnapshotVersions.Numbered.retain {versions : SnapshotVersions}
    (numbered : versions.Numbered) (groups : SortedSet ConsumerGroup) :
    (versions.retain groups).Numbered := by
  intro group shown content found
  rw [SnapshotVersions.shown?_retain] at found
  split at found
  case isTrue => exact numbered group shown content found
  case isFalse => contradiction

namespace SnapshotBuilder

variable {before after : SnapshotBuilder} {group : ConsumerGroup} {content old : SnapshotContent}
  {generation : Nat} {snapshot : Snapshot} {versions : Versions} {kind : ResourceKind}

theorem Builds.issued_le (builds : before.Builds group content generation snapshot after) :
    before.versions.issued ≤ after.versions.issued := by
  rw [builds.issued]
  exact (nextVersions_of _ _ _).1

theorem Builds.version_cases (builds : before.Builds group content generation snapshot after)
    (kind : ResourceKind) :
    (∃ versions old, before.versions.shown? group = some (versions, old) ∧
      old.Agrees content kind ∧ snapshot.versions.of kind = versions.of kind) ∨
    ((∀ versions old, before.versions.shown? group = some (versions, old) →
        ¬ old.Agrees content kind) ∧
      ∃ n, before.versions.issued < n ∧ n ≤ after.versions.issued ∧
        snapshot.versions.of kind = versionText n) := by
  rw [builds.versions, builds.issued]
  exact (nextVersions_of _ _ _).2 kind

theorem Builds.within (builds : before.Builds group content generation snapshot after)
    (numbered : before.versions.Numbered) : snapshot.versions.Within after.versions.issued := by
  intro kind
  rcases builds.version_cases kind with ⟨versions, old, shown, -, kept⟩ | ⟨-, n, -, issued, fresh⟩
  · rw [kept]
    exact (numbered group versions old shown).mono builds.issued_le kind
  · exact ⟨n, issued, fresh⟩

theorem Builds.numbered (builds : before.Builds group content generation snapshot after)
    (numbered : before.versions.Numbered) : after.versions.Numbered := by
  intro other shown old found
  rw [builds.shown] at found
  split at found
  case isTrue =>
    cases found
    exact builds.within numbered
  case isFalse => exact (numbered other shown old found).mono builds.issued_le

/-- The version of a kind stays exactly if its collection does. -/
theorem Builds.version_eq_iff (builds : before.Builds group content generation snapshot after)
    (numbered : before.versions.Numbered)
    (shown : before.versions.shown? group = some (versions, old)) :
    versions.of kind = snapshot.versions.of kind ↔ old.Agrees content kind := by
  rcases builds.version_cases kind with ⟨_, _, known, agrees, kept⟩ | ⟨differs, n, above, -, fresh⟩
  · rw [shown] at known
    cases known
    exact ⟨fun _ => agrees, fun _ => kept.symm⟩
  · rw [fresh]
    exact ⟨fun same => absurd same ((numbered group versions old shown).ne above kind),
      fun agrees => absurd agrees (differs versions old shown)⟩

namespace BuildsAll

variable {target : ConsumerGroup → SnapshotContent} {groups : List ConsumerGroup}
  {snapshots : List Snapshot}

theorem numbered (builds : BuildsAll target generation before groups snapshots after)
    (numbered : before.versions.Numbered) : after.versions.Numbered := by
  induction builds with
  | nil => exact numbered
  | cons first _ ih => exact ih (first.numbered numbered)

/-- Where each group is built once, its versions stay exactly as far as its content does. -/
theorem version_eq_iff (builds : BuildsAll target generation before groups snapshots after)
    (distinct : groups.Nodup) (numbered : before.versions.Numbered) {snapshot : Snapshot}
    (member : snapshot ∈ snapshots)
    (shown : before.versions.shown? snapshot.group = some (versions, old)) (kind : ResourceKind) :
    versions.of kind = snapshot.versions.of kind ↔ old.Agrees snapshot.content kind := by
  induction builds with
  | nil => contradiction
  | @cons before next after group head groups snapshots first later ih =>
      obtain ⟨apart, distinct⟩ := List.nodup_cons.mp distinct
      rcases List.mem_cons.mp member with rfl | member
      · rw [first.own] at shown
        rw [first.made]
        exact first.version_eq_iff numbered shown
      · refine ih distinct (first.numbered numbered) member ?_
        rw [first.shown, if_neg, shown]
        intro same
        refine apart ?_
        rw [same, ← later.groups_eq]
        exact List.mem_map_of_mem member

end BuildsAll

end SnapshotBuilder

end ServiceMesh
