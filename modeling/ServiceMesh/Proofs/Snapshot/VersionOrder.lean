import Mathlib.Algebra.Group.End
import Mathlib.Logic.Equiv.Set
import ServiceMesh.Proofs.Snapshot.Remembered
import ServiceMesh.Proofs.Snapshot.Versions

/-! Which fresh versions builds get depends on the order in which they ask for them, and nothing else
about the versions does. What one order gives out is what another one gives out under other names. -/
namespace ServiceMesh

namespace ResourceKind

/-- All kinds, in the order in which a group gets its versions. -/
def all : List ResourceKind := [.clusters, .endpoints, .routes]

theorem mem_all (kind : ResourceKind) : kind ∈ all := by
  cases kind <;> decide

theorem nodup_all : all.Nodup := by decide

end ResourceKind

instance SnapshotContent.decidableAgrees (content other : SnapshotContent) :
    DecidablePred (content.Agrees other)
  | .clusters => inferInstanceAs (Decidable (content.clusters = other.clusters))
  | .endpoints => inferInstanceAs (Decidable (content.endpoints = other.endpoints))
  | .routes => inferInstanceAs (Decidable (content.routes = other.routes))

/-- The kinds that a group gets fresh versions for: those whose collections are not what is shown. -/
def freshKinds (shown : Option (Versions × SnapshotContent)) (content : SnapshotContent) :
    List ResourceKind :=
  match shown with
  | none => ResourceKind.all
  | some (_, before) => ResourceKind.all.filter fun kind => ¬ before.Agrees content kind

variable {shown : Option (Versions × SnapshotContent)} {content : SnapshotContent}
  {kind : ResourceKind}

theorem mem_freshKinds : kind ∈ freshKinds shown content ↔
    ∀ versions before, shown = some (versions, before) → ¬ before.Agrees content kind := by
  unfold freshKinds
  split
  case h_1 => simp [ResourceKind.mem_all]
  case h_2 versions before =>
    rw [List.mem_filter, decide_eq_true_iff]
    constructor
    · rintro ⟨-, differs⟩ _ _ same
      cases same
      exact differs
    · intro differs
      exact ⟨ResourceKind.mem_all kind, differs versions before rfl⟩

theorem nodup_freshKinds (shown : Option (Versions × SnapshotContent)) (content : SnapshotContent) :
    (freshKinds shown content).Nodup := by
  unfold freshKinds
  split
  · exact ResourceKind.nodup_all
  · exact ResourceKind.nodup_all.filter _

/-- The fresh versions of a group are the next ones, kind by kind. -/
theorem nextVersions_fresh (shown : Option (Versions × SnapshotContent)) (issued : Nat)
    (content : SnapshotContent) :
    let fresh := freshKinds shown content
    let next := nextVersions shown issued content
    next.2 = issued + fresh.length ∧
      ∀ kind ∈ fresh, next.1.of kind = versionText (issued + fresh.idxOf kind + 1) := by
  intro fresh next
  cases shown with
  | none =>
      refine ⟨rfl, fun kind _ => ?_⟩
      cases kind <;> rfl
  | some shown =>
      obtain ⟨versions, before⟩ := shown
      by_cases clusters : before.clusters = content.clusters <;>
      by_cases endpoints : before.endpoints = content.endpoints <;>
      by_cases routes : before.routes = content.routes <;>
      simp [next, fresh, nextVersions, nextVersion, freshKinds, ResourceKind.all,
        SnapshotContent.Agrees, Versions.of, clusters, endpoints, routes, List.idxOf_cons_ne]

theorem idxOf_map_mk (group : ConsumerGroup) (kinds : List ResourceKind) (kind : ResourceKind) :
    (kinds.map (Prod.mk group)).idxOf (group, kind) = kinds.idxOf kind := by
  induction kinds with
  | nil => rfl
  | cons first rest ih =>
      rw [List.map_cons]
      by_cases same : first = kind
      · rw [same, List.idxOf_cons_self, List.idxOf_cons_self]
      · have apart : (group, first) ≠ (group, kind) := fun equal => same (Prod.mk.inj equal).2
        rw [List.idxOf_cons_ne _ same, List.idxOf_cons_ne _ apart, ih]

/-- The version that is given out at the place of a group and a kind in an order. -/
def versionIn (start : SnapshotVersions) (order : List (ConsumerGroup × ResourceKind))
    (pair : ConsumerGroup × ResourceKind) : String :=
  versionText (start.issued + order.idxOf pair + 1)

theorem versionIn_injective {start : SnapshotVersions}
    {order : List (ConsumerGroup × ResourceKind)} {pair other : ConsumerGroup × ResourceKind}
    (member : pair ∈ order) (same : versionIn start order pair = versionIn start order other) :
    pair = other := by
  have places := versionText_injective same
  exact (List.idxOf_inj member).mp (by omega)

/-- The fresh versions of some snapshots that were built since certain versions, in the order in
which they were given out. All other versions are those from before. -/
structure IssuedInOrder (start : SnapshotVersions) (order : List (ConsumerGroup × ResourceKind))
    (snapshots : List Snapshot) (issued : Nat) : Prop where
  distinct : order.Nodup
  listed : ∀ group kind, (group, kind) ∈ order ↔ ∃ snapshot ∈ snapshots, snapshot.group = group ∧
    kind ∈ freshKinds (start.shown? group) snapshot.content
  counted : issued = start.issued + order.length
  fresh : ∀ snapshot ∈ snapshots, ∀ kind, (snapshot.group, kind) ∈ order →
    snapshot.versions.of kind = versionIn start order (snapshot.group, kind)
  kept : ∀ snapshot ∈ snapshots, ∀ kind, (snapshot.group, kind) ∉ order →
    ∃ versions before, start.shown? snapshot.group = some (versions, before) ∧
      before.Agrees snapshot.content kind ∧ snapshot.versions.of kind = versions.of kind

namespace IssuedInOrder

variable {start : SnapshotVersions} {order : List (ConsumerGroup × ResourceKind)}
  {snapshots others : List Snapshot} {snapshot : Snapshot} {issued : Nat}

theorem nil (start : SnapshotVersions) : IssuedInOrder start [] [] start.issued where
  distinct := List.nodup_nil
  listed := by simp
  counted := rfl
  fresh _ member := absurd member List.not_mem_nil
  kept _ member := absurd member List.not_mem_nil

theorem congr (inOrder : IssuedInOrder start order snapshots issued)
    (same : ∀ snapshot, snapshot ∈ others ↔ snapshot ∈ snapshots) :
    IssuedInOrder start order others issued where
  distinct := inOrder.distinct
  listed group kind := by simp only [inOrder.listed, same]
  counted := inOrder.counted
  fresh snapshot member := inOrder.fresh snapshot ((same snapshot).mp member)
  kept snapshot member := inOrder.kept snapshot ((same snapshot).mp member)

/-- One more group gets its versions, the fresh ones behind all others. -/
theorem cons (inOrder : IssuedInOrder start order snapshots issued)
    (unbuilt : snapshot.group ∉ snapshots.map Snapshot.group)
    (versioned : snapshot.versions =
      (nextVersions (start.shown? snapshot.group) issued snapshot.content).1) :
    IssuedInOrder start
      (order ++ (freshKinds (start.shown? snapshot.group) snapshot.content).map
        (Prod.mk snapshot.group))
      (snapshot :: snapshots)
      (nextVersions (start.shown? snapshot.group) issued snapshot.content).2 := by
  set fresh := freshKinds (start.shown? snapshot.group) snapshot.content with isFresh
  obtain ⟨issuedNow, named⟩ := nextVersions_fresh (start.shown? snapshot.group) issued
    snapshot.content
  rw [← isFresh] at issuedNow named
  have strange (kind : ResourceKind) : (snapshot.group, kind) ∉ order := by
    intro member
    obtain ⟨other, built, same, -⟩ := (inOrder.listed _ _).mp member
    exact unbuilt (same ▸ List.mem_map_of_mem built)
  have mem_map (group : ConsumerGroup) (kind : ResourceKind) :
      (group, kind) ∈ fresh.map (Prod.mk snapshot.group) ↔ snapshot.group = group ∧ kind ∈ fresh := by
    simp [and_comm]
  have apart {other : Snapshot} (member : other ∈ snapshots) : snapshot.group ≠ other.group := by
    intro same
    exact unbuilt (same ▸ List.mem_map_of_mem member)
  constructor
  · refine List.Nodup.append inOrder.distinct ?_ ?_
    · exact (nodup_freshKinds _ _).map (Prod.mk_right_injective _)
    · rintro ⟨group, kind⟩ before now
      obtain ⟨rfl, -⟩ := (mem_map _ _).mp now
      exact strange kind before
  · intro group kind
    rw [List.mem_append, inOrder.listed, mem_map, List.exists_mem_cons_iff, or_comm]
    refine or_congr_left (and_congr_right fun same => ?_)
    rw [isFresh, same]
  · rw [issuedNow, inOrder.counted, List.length_append, List.length_map, Nat.add_assoc]
  · intro other member kind listed
    rcases List.mem_cons.mp member with rfl | before
    · have isFresh : kind ∈ fresh := by
        rcases List.mem_append.mp listed with before | now
        · exact absurd before (strange kind)
        · exact ((mem_map _ _).mp now).2
      rw [versioned, named kind isFresh, inOrder.counted, versionIn,
        List.idxOf_append_of_notMem (strange kind), idxOf_map_mk, Nat.add_assoc start.issued]
    · have old : (other.group, kind) ∈ order := by
        rcases List.mem_append.mp listed with known | now
        · exact known
        · exact absurd ((mem_map _ _).mp now).1 (apart before)
      rw [inOrder.fresh other before kind old, versionIn, versionIn, List.idxOf_append_of_mem old]
  · intro other member kind unlisted
    rw [List.mem_append, not_or, mem_map] at unlisted
    rcases List.mem_cons.mp member with rfl | before
    · have kept : kind ∉ fresh := fun fresh => unlisted.2 ⟨rfl, fresh⟩
      rw [versioned]
      rcases (nextVersions_of (start.shown? other.group) issued other.content).2 kind with
        ⟨versions, before, shown, agrees, same⟩ | ⟨differs, -⟩
      · exact ⟨versions, before, shown, agrees, same⟩
      · exact absurd (mem_freshKinds.mpr differs) kept
    · exact inOrder.kept other before kind unlisted.1

theorem issued_le (inOrder : IssuedInOrder start order snapshots issued) :
    start.issued ≤ issued := by
  rw [inOrder.counted]
  exact Nat.le_add_right _ _

/-- All versions of the snapshots were given out, then or before. -/
theorem within (inOrder : IssuedInOrder start order snapshots issued) (numbered : start.Numbered)
    (member : snapshot ∈ snapshots) : snapshot.versions.Within issued := by
  intro kind
  by_cases listed : (snapshot.group, kind) ∈ order
  · have bound := List.idxOf_lt_length_of_mem listed
    refine ⟨_, ?_, inOrder.fresh snapshot member kind listed⟩
    rw [inOrder.counted]
    omega
  · obtain ⟨versions, before, shown, -, kept⟩ := inOrder.kept snapshot member kind listed
    rw [kept]
    exact (numbered _ versions before shown).mono inOrder.issued_le kind

/-- The versions that are given out in some order are the next ones. -/
theorem mem_versions (inOrder : IssuedInOrder start order snapshots issued) (name : String) :
    (∃ pair ∈ order, versionIn start order pair = name) ↔
      ∃ n, start.issued < n ∧ n ≤ issued ∧ versionText n = name := by
  have counted := inOrder.counted
  constructor
  · rintro ⟨pair, member, rfl⟩
    have bound := List.idxOf_lt_length_of_mem member
    exact ⟨_, by omega, by omega, rfl⟩
  · rintro ⟨n, above, below, rfl⟩
    have bound : n - start.issued - 1 < order.length := by omega
    refine ⟨order[n - start.issued - 1], List.getElem_mem bound, congrArg versionText ?_⟩
    rw [inOrder.distinct.idxOf_getElem]
    omega

end IssuedInOrder

/-- Versions behind the building of some snapshots: each is remembered, handles included, nothing else
is remembered anew, and the fresh versions were given out in some order. -/
structure SnapshotVersions.Assigned (start versions : SnapshotVersions) (snapshots : List Snapshot) :
    Prop where
  remembered : ∀ snapshot ∈ snapshots,
    versions.byGroup.get? snapshot.group = some snapshot.remembered
  alone : ∀ group, group ∉ snapshots.map Snapshot.group →
    versions.byGroup.get? group = start.byGroup.get? group
  ordered : ∃ order, IssuedInOrder start order snapshots versions.issued

namespace SnapshotVersions.Assigned

variable {start versions : SnapshotVersions} {snapshots others : List Snapshot}

theorem nil (start : SnapshotVersions) : start.Assigned start [] :=
  ⟨fun _ member => absurd member List.not_mem_nil, fun _ _ => rfl, [], .nil start⟩

theorem congr (assigned : start.Assigned versions snapshots)
    (same : ∀ snapshot, snapshot ∈ others ↔ snapshot ∈ snapshots) :
    start.Assigned versions others := by
  obtain ⟨remembered, alone, order, inOrder⟩ := assigned
  refine ⟨fun snapshot member => remembered snapshot ((same snapshot).mp member),
    fun group fresh => alone group ?_, order, inOrder.congr same⟩
  simpa only [List.mem_map, same] using fresh

/-- One more group gets its versions, if what was remembered of it shares the handles of equal
collections. -/
theorem assign (assigned : start.Assigned versions snapshots) {group : ConsumerGroup}
    (unbuilt : group ∉ snapshots.map Snapshot.group) {clusters : Handle Cluster}
    {endpoints : Handle LoadAssignment} {routes : Handle RouteConfiguration}
    (shared : ∀ previous, start.byGroup.get? group = some previous →
      (previous.clusters.handle.resources = clusters.resources →
        previous.clusters.handle = clusters) ∧
      (previous.endpoints.handle.resources = endpoints.resources →
        previous.endpoints.handle = endpoints) ∧
      (previous.routes.handle.resources = routes.resources → previous.routes.handle = routes))
    (generation : Nat) :
    let given := versions.assign group clusters endpoints routes
    start.Assigned given.2
      (⟨group, generation, given.1, clusters, endpoints, routes⟩ :: snapshots) := by
  intro given
  have same := assigned.alone group unbuilt
  have shown : versions.shown? group = start.shown? group := by rw [shown?, shown?, same]
  obtain ⟨named, issued, -⟩ := versions.assign_shown group clusters endpoints routes
  have inserted := versions.assign_byGroup group fun previous found =>
    shared previous (same.symm.trans found)
  rw [shown] at named issued
  obtain ⟨order, inOrder⟩ := assigned.ordered
  refine ⟨fun snapshot member => ?_, fun other fresh => ?_, ?_⟩
  · rw [inserted, SortedMap.get?_insert]
    rcases List.mem_cons.mp member with rfl | before
    · rw [if_pos rfl]
      rfl
    · rw [if_neg, assigned.remembered snapshot before]
      intro equal
      exact unbuilt (equal ▸ List.mem_map_of_mem before)
  · rw [List.map_cons, List.mem_cons, not_or] at fresh
    rw [inserted, SortedMap.get?_insert, if_neg (Ne.symm fresh.1), assigned.alone other fresh.2]
  · rw [issued]
    exact ⟨_, inOrder.cons unbuilt named⟩

theorem numbered (assigned : start.Assigned versions snapshots) (numbered : start.Numbered) :
    versions.Numbered := by
  obtain ⟨remembered, alone, order, inOrder⟩ := assigned
  intro group shown content found
  by_cases built : group ∈ snapshots.map Snapshot.group
  · obtain ⟨snapshot, member, rfl⟩ := List.mem_map.mp built
    rw [shown?, remembered snapshot member] at found
    cases found
    exact inOrder.within numbered member
  · rw [shown?, alone group built] at found
    exact (numbered group shown content found).mono inOrder.issued_le

end SnapshotVersions.Assigned

/-- Two ways to name the same things, out of the same names, differ by a renaming. -/
theorem exists_renaming {ι : Type} {first second : ι → String}
    (injective : Function.Injective first) (injective' : Function.Injective second)
    (same : Set.range second = Set.range first) :
    ∃ rename : Equiv.Perm String, (∀ i, rename (first i) = second i) ∧
      ∀ name, name ∉ Set.range first → rename name = name := by
  classical
  let between : Equiv.Perm (Set.range first) :=
    (Equiv.ofInjective first injective).symm.trans
      ((Equiv.ofInjective second injective').trans (Equiv.setCongr same))
  refine ⟨Equiv.Perm.ofSubtype between, fun i => ?_, fun name other => ?_⟩
  · have known : first i = (⟨first i, i, rfl⟩ : Set.range first) := rfl
    rw [known, Equiv.Perm.ofSubtype_apply_coe]
    dsimp only [between, Equiv.trans_apply]
    rw [Equiv.ofInjective_symm_apply, Equiv.setCongr_apply, Equiv.ofInjective_apply]
  · exact Equiv.Perm.ofSubtype_apply_of_not_mem between other

def Versions.rename (rename : String → String) (versions : Versions) : Versions :=
  ⟨rename versions.clusters, rename versions.endpoints, rename versions.routes⟩

theorem Versions.of_rename (rename : String → String) (versions : Versions) (kind : ResourceKind) :
    (versions.rename rename).of kind = rename (versions.of kind) := by
  cases kind <;> rfl

/-- A renaming of the versions that were given out later leaves old ones alone. -/
theorem Versions.Within.rename_eq {versions : Versions} {issued later : Nat}
    (within : versions.Within issued) {rename : String → String}
    (old : ∀ name, (∀ n, issued < n → n ≤ later → versionText n ≠ name) → rename name = name) :
    versions.rename rename = versions := by
  refine Versions.ext_of fun kind => ?_
  rw [Versions.of_rename]
  exact old _ fun n above _ named => within.ne above kind named.symm

/-- Snapshots whose versions were given out in different orders have the same versions up to a
renaming of the fresh ones. -/
theorem IssuedInOrder.exists_renaming {start : SnapshotVersions}
    {order order' : List (ConsumerGroup × ResourceKind)} {snapshots snapshots' : List Snapshot}
    {issued issued' : Nat} (numbered : start.Numbered)
    (inOrder : IssuedInOrder start order snapshots issued)
    (inOrder' : IssuedInOrder start order' snapshots' issued')
    (same : ∀ pair, pair ∈ order' ↔ pair ∈ order) :
    issued' = issued ∧ ∃ rename : Equiv.Perm String,
      (∀ name, (∀ n, start.issued < n → n ≤ issued → versionText n ≠ name) → rename name = name) ∧
      ∀ snapshot ∈ snapshots, ∀ snapshot' ∈ snapshots', snapshot'.group = snapshot.group →
        snapshot'.versions = snapshot.versions.rename rename := by
  have counted : issued' = issued := by
    have permuted := (List.perm_ext_iff_of_nodup inOrder'.distinct inOrder.distinct).mpr same
    rw [inOrder'.counted, inOrder.counted, permuted.length_eq]
  let first (pair : { pair // pair ∈ order }) : String := versionIn start order pair
  let second (pair : { pair // pair ∈ order }) : String := versionIn start order' pair
  have injective : Function.Injective first := by
    intro pair other equal
    exact Subtype.ext (versionIn_injective pair.2 equal)
  have injective' : Function.Injective second := by
    intro pair other equal
    exact Subtype.ext (versionIn_injective ((same pair).mpr pair.2) equal)
  have mem_first (name : String) : name ∈ Set.range first ↔
      ∃ n, start.issued < n ∧ n ≤ issued ∧ versionText n = name := by
    rw [← inOrder.mem_versions]
    simp [first]
  have mem_second (name : String) : name ∈ Set.range second ↔
      ∃ n, start.issued < n ∧ n ≤ issued ∧ versionText n = name := by
    rw [← counted, ← inOrder'.mem_versions]
    simp [second, same]
  obtain ⟨rename, moved, fixed⟩ := ServiceMesh.exists_renaming injective injective'
    (Set.ext fun name => (mem_second name).trans (mem_first name).symm)
  have old (name : String) (unused : ∀ n, start.issued < n → n ≤ issued → versionText n ≠ name) :
      rename name = name := by
    refine fixed name fun listed => ?_
    obtain ⟨n, above, below, named⟩ := (mem_first name).mp listed
    exact unused n above below named
  refine ⟨counted, rename, old, fun snapshot member snapshot' member' grouped => ?_⟩
  refine Versions.ext_of fun kind => ?_
  rw [Versions.of_rename]
  by_cases listed : (snapshot.group, kind) ∈ order
  · have listed' : (snapshot'.group, kind) ∈ order' := by
      rw [same, grouped]
      exact listed
    rw [inOrder.fresh snapshot member kind listed, inOrder'.fresh snapshot' member' kind listed',
      grouped]
    exact (moved ⟨_, listed⟩).symm
  · have unlisted' : (snapshot'.group, kind) ∉ order' := by
      rw [same, grouped]
      exact listed
    obtain ⟨versions, before, shown, -, kept⟩ := inOrder.kept snapshot member kind listed
    obtain ⟨versions', before', shown', -, kept'⟩ := inOrder'.kept snapshot' member' kind unlisted'
    rw [grouped, shown] at shown'
    cases shown'
    have within := numbered snapshot.group versions before shown
    rw [kept, kept', ← Versions.of_rename rename, within.rename_eq old]

end ServiceMesh
