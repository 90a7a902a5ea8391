import ServiceMesh.Proofs.Number.Decimal
import ServiceMesh.Proofs.Number.Integer
import ServiceMesh.Proofs.Pattern.Escape
import ServiceMesh.Proofs.SortedSet
import ServiceMesh.Registry.Mapping

/-! What a service consists of when the instances of a registry are mapped. The pattern that finds weights
among the tags comes down to how a tag is spelled, whatever the weight tag is; only ASCII digits are read as
a number, though digits of every script match. -/
namespace ServiceMesh.InstanceMapping

variable {mapping : InstanceMapping} {tag : String} {tags : List String} {n : Nat}
  {reported : RegistryInstance} {mapped : Instance}

/-! ### Weights -/

theorem weightPattern?_eq (mapping : InstanceMapping) : mapping.weightPattern? =
    some (Pattern.framed (mapping.weightTag.toList ++ [':']) Pattern.digits) :=
  Pattern.parseChars?_numbered mapping.weightTag.toList

/-- The tag is the weight tag, a colon and ASCII digits that denote a number of 32 bits. -/
def Gives (mapping : InstanceMapping) (tag : String) (n : Nat) : Prop :=
  ∃ number : String, tag = mapping.weightTag ++ ":" ++ number ∧ number ≠ "" ∧
    (∀ c ∈ number.toList, c.isDigit = true) ∧ Number.ofDigits number.toList = n ∧ n < UInt32.size

/-- The weight that an instance is given by its tags, or else by default. -/
inductive Weighs (mapping : InstanceMapping) (tags : List String) : Nat → Prop
  | tagged {front back : List String} {tag : String} {n : Nat} : mapping.weightTag ≠ "" →
      tags = front ++ tag :: back → (∀ other ∈ front, ∀ m, ¬mapping.Gives other m) →
      mapping.Gives tag n → Weighs mapping tags n
  | untagged : (∀ tag ∈ tags, ∀ m, ¬mapping.Gives tag m) →
      Weighs mapping tags mapping.defaultWeight.toNat
  | off : mapping.weightTag = "" → Weighs mapping tags mapping.defaultWeight.toNat

theorem gives_iff : mapping.Gives tag n ↔ ∃ number,
    tag.toList = mapping.weightTag.toList ++ ':' :: number ∧
      Number.Denotes (UInt32.size - 1) n number := by
  constructor
  · rintro ⟨number, rfl, nonempty, each, value, small⟩
    refine ⟨number.toList, by simp, ?_, each, value, Nat.le_pred_of_lt small⟩
    exact mt String.toList_eq_nil_iff.mp nonempty
  · rintro ⟨number, spelled, denoted⟩
    refine ⟨String.ofList number, ?_, ?_, ?_, ?_, Nat.lt_of_le_pred (by decide) denoted.within⟩
    · rw [← String.toList_inj, spelled]
      simp
    · rw [Ne, String.ofList_eq_empty_iff]
      exact denoted.nonempty
    · simpa using denoted.each
    · simpa using denoted.value

theorem isDigit_of_ascii {c : Char} (digit : c.isDigit = true) : Text.isDigit c = true :=
  Number.Decimal.forall_digit (P := fun c => Text.isDigit c = true) (by decide) digit

/-- A tag whose digits are captured gives a weight unless some of them are of another script or the number
is too large. A plus sign, which numbers can have otherwise, is not captured. -/
theorem weightOfTag?_eq_some_iff {pattern : Pattern} (known : mapping.weightPattern? = some pattern)
    {weight : UInt32} : weightOfTag? pattern tag = some weight ↔ mapping.Gives tag weight.toNat := by
  obtain rfl : Pattern.framed (mapping.weightTag.toList ++ [':']) Pattern.digits = pattern := by
    rw [weightPattern?_eq] at known
    exact Option.some.inj known
  rw [gives_iff]
  constructor
  · intro found
    obtain ⟨number, captured, read⟩ := Option.bind_eq_some_iff.mp found
    obtain ⟨spelled, nonempty, any⟩ := Pattern.capture?_numbered_iff.mp captured
    split at read
    case h_2 => contradiction
    case h_1 n parsed =>
      obtain rfl := Option.some.inj read
      obtain ⟨digits, denoted, same⟩ := Number.parseNat_eq_ok_iff.mp parsed
      obtain rfl : number = digits := by
        refine same.resolve_right ?_
        rintro rfl
        exact absurd (any '+' List.mem_cons_self) (by decide)
      have small : n < 2 ^ 32 := Nat.lt_of_le_pred (by decide) denoted.within
      rw [UInt32.toNat_ofNat_of_lt' small]
      exact ⟨number, spelled, denoted⟩
  · rintro ⟨number, spelled, denoted⟩
    have captured := Pattern.capture?_numbered_iff.mpr
      ⟨spelled, denoted.nonempty, fun c member => isDigit_of_ascii (denoted.each c member)⟩
    have parsed := Number.parseNat_eq_ok_iff.mpr ⟨number, denoted, .inl rfl⟩
    refine Option.bind_eq_some_iff.mpr ⟨number, captured, ?_⟩
    rw [parsed]
    simp

theorem Gives.toNat_ofNat (gives : mapping.Gives tag n) : (UInt32.ofNat n).toNat = n := by
  obtain ⟨-, -, -, -, -, small⟩ := gives
  exact UInt32.toNat_ofNat_of_lt' small

theorem weightOfTag?_eq_none_iff {pattern : Pattern} (known : mapping.weightPattern? = some pattern) :
    weightOfTag? pattern tag = none ↔ ∀ m, ¬mapping.Gives tag m := by
  rw [Option.eq_none_iff_forall_ne_some]
  constructor
  · intro none m gives
    refine none (UInt32.ofNat m) ((weightOfTag?_eq_some_iff known).mpr ?_)
    rwa [gives.toNat_ofNat]
  · intro none weight found
    exact none weight.toNat ((weightOfTag?_eq_some_iff known).mp found)

/-- The weight that the first tag to give one gives. -/
def weight? (mapping : InstanceMapping) (tags : List String) : Option UInt32 :=
  if mapping.weightTag.isEmpty then none
  else mapping.weightPattern?.bind fun pattern => tags.findSome? (weightOfTag? pattern)

theorem weight?_eq_some_iff {weight : UInt32} : mapping.weight? tags = some weight ↔
    mapping.weightTag ≠ "" ∧ ∃ front tag back, tags = front ++ tag :: back ∧
      mapping.Gives tag weight.toNat ∧ ∀ other ∈ front, ∀ m, ¬mapping.Gives other m := by
  have known := weightPattern?_eq mapping
  rw [weight?, known, Option.bind_some]
  by_cases off : mapping.weightTag = ""
  · simp [off]
  · rw [if_neg (by simpa using off), List.findSome?_eq_some_iff]
    simp only [weightOfTag?_eq_some_iff known, weightOfTag?_eq_none_iff known]
    simp [off]

theorem weight?_eq_none_iff : mapping.weight? tags = none ↔
    mapping.weightTag = "" ∨ ∀ tag ∈ tags, ∀ m, ¬mapping.Gives tag m := by
  have known := weightPattern?_eq mapping
  rw [weight?, known, Option.bind_some]
  by_cases off : mapping.weightTag = ""
  · simp [off]
  · rw [if_neg (by simpa using off), List.findSome?_eq_none_iff]
    simp only [weightOfTag?_eq_none_iff known]
    simp [off]

/-- Tags weigh one number and no other. -/
theorem weighs_iff : mapping.Weighs tags n ↔
    ((mapping.weight? tags).getD mapping.defaultWeight).toNat = n := by
  constructor
  · intro weighs
    cases weighs with
    | @tagged front back tag _ on same others gives =>
        have first : mapping.weight? tags = some (UInt32.ofNat n) :=
          weight?_eq_some_iff.mpr ⟨on, front, tag, back, same, by rwa [gives.toNat_ofNat], others⟩
        rw [first, Option.getD_some, gives.toNat_ofNat]
    | untagged none => rw [weight?_eq_none_iff.mpr (.inr none), Option.getD_none]
    | off empty => rw [weight?_eq_none_iff.mpr (.inl empty), Option.getD_none]
  · rintro rfl
    cases found : mapping.weight? tags with
    | some weight =>
        obtain ⟨on, front, tag, back, same, gives, others⟩ := weight?_eq_some_iff.mp found
        exact .tagged on same others gives
    | none =>
        rcases weight?_eq_none_iff.mp found with empty | none
        · exact .off empty
        · exact .untagged none

theorem toNat_max (a b : UInt32) : (max a b).toNat = max a.toNat b.toNat := by
  show (if a ≤ b then b else a).toNat = _
  split
  case isTrue above => exact (Nat.max_eq_right (UInt32.le_iff_toNat_le.mp above)).symm
  case isFalse below =>
    have less : ¬a.toNat ≤ b.toNat := by
      intro above
      exact below (UInt32.le_iff_toNat_le.mpr above)
    exact (Nat.max_eq_left (Nat.le_of_not_le less)).symm

theorem toNat_weight (mapping : InstanceMapping) (tags : List String) : (mapping.weight tags).toNat =
    max 1 ((mapping.weight? tags).getD mapping.defaultWeight).toNat :=
  toNat_max 1 _

/-! ### Instances -/

/-- What an instance of the registry is mapped to: its canary flag and its weight come from its tags, and
everything else is copied. -/
structure Maps (mapping : InstanceMapping) (reported : RegistryInstance) (mapped : Instance) : Prop where
  id : mapped.id = reported.id
  address : mapped.address = reported.address
  port : mapped.port = reported.port
  healthy : mapped.healthy = reported.healthy
  regular : mapped.regular = true
  tags : ∀ tag, tag ∈ mapped.tags ↔ tag ∈ reported.tags
  canary : mapped.canary = true ↔ mapping.canaryTag ≠ "" ∧ mapping.canaryTag ∈ reported.tags
  weight : ∃ n, mapping.Weighs reported.tags n ∧ mapped.weight.toNat = max 1 n

theorem maps_iff : mapping.Maps reported mapped ↔ mapped = mapping.mapInstance reported := by
  have canary : (mapping.mapInstance reported).canary = true ↔
      mapping.canaryTag ≠ "" ∧ mapping.canaryTag ∈ reported.tags := by
    simp [mapInstance]
  have weight (n : Nat) : mapping.Weighs reported.tags n →
      (mapping.mapInstance reported).weight.toNat = max 1 n := by
    intro weighs
    rw [← weighs_iff.mp weighs]
    exact toNat_weight mapping reported.tags
  constructor
  · intro maps
    obtain ⟨m, weighs, same⟩ := maps.weight
    obtain ⟨id, tags, address, port, healthy, regular, isCanary, own⟩ := mapped
    obtain rfl : id = reported.id := maps.id
    obtain rfl : address = reported.address := maps.address
    obtain rfl : port = reported.port := maps.port
    obtain rfl : healthy = reported.healthy := maps.healthy
    obtain rfl : regular = true := maps.regular
    obtain rfl : tags = SortedSet.ofList reported.tags :=
      SortedSet.ext_mem fun tag => (maps.tags tag).trans SortedSet.mem_ofList.symm
    obtain rfl : isCanary = (mapping.mapInstance reported).canary :=
      Bool.eq_iff_iff.mpr (maps.canary.trans canary.symm)
    obtain rfl : own = (mapping.mapInstance reported).weight :=
      UInt32.toNat_inj.mp (same.trans (weight m weighs).symm)
    rfl
  · rintro rfl
    exact ⟨rfl, rfl, rfl, rfl, rfl, fun tag => SortedSet.mem_ofList, canary, _, weighs_iff.mpr rfl,
      toNat_weight mapping reported.tags⟩

theorem mem_mapService_iff {name : String} {reports : List RegistryInstance} :
    mapped ∈ (mapping.mapService name reports).instances ↔
      ∃ reported ∈ reports, mapping.Maps reported mapped := by
  rw [mapService, SortedSet.mem_ofList, List.mem_map]
  simp only [maps_iff, eq_comm]

/-! ### Services -/

/-- Two reports of an instance that differ in nothing but the order and the repetition of its tags. -/
def Alike (reported other : RegistryInstance) : Prop :=
  other = { reported with tags := other.tags } ∧ ∀ tag, tag ∈ other.tags ↔ tag ∈ reported.tags

/-- The instances of a service with their weights left out. -/
def unweighted (service : Service) : SortedSet Instance :=
  SortedSet.ofList (service.instances.toList.map fun one => { one with weight := 0 })

theorem mapInstance_of_alike {other : RegistryInstance} (alike : Alike reported other) :
    { mapping.mapInstance other with weight := 0 } = { mapping.mapInstance reported with weight := 0 } := by
  obtain ⟨same, tags⟩ := alike
  have set : SortedSet.ofList other.tags = SortedSet.ofList reported.tags := by
    refine SortedSet.ext_mem fun tag => ?_
    rw [SortedSet.mem_ofList, SortedSet.mem_ofList, tags]
  have canary : other.tags.contains mapping.canaryTag = reported.tags.contains mapping.canaryTag := by
    rw [Bool.eq_iff_iff, List.contains_iff_mem, List.contains_iff_mem, tags]
  rw [same]
  simp only [mapInstance, set, canary]

theorem mem_unweighted_iff {name : String} {reports : List RegistryInstance} :
    mapped ∈ unweighted (mapping.mapService name reports) ↔
      ∃ reported ∈ reports, { mapping.mapInstance reported with weight := 0 } = mapped := by
  rw [unweighted, SortedSet.mem_ofList, List.mem_map]
  constructor
  · rintro ⟨one, member, rfl⟩
    obtain ⟨reported, known, rfl⟩ := List.mem_map.mp (SortedSet.mem_ofList.mp member)
    exact ⟨reported, known, rfl⟩
  · rintro ⟨reported, known, rfl⟩
    exact ⟨_, SortedSet.mem_ofList.mpr (List.mem_map_of_mem known), rfl⟩

/-- A mapped service has the instances that the reported ones are mapped to: the order in which they are
reported has no say, and the order of their tags has none but in their weights. -/
theorem mapService_maps_each (mapping : InstanceMapping) (name : String) (reports : List RegistryInstance) :
    (mapping.mapService name reports).name = name ∧
      (∀ mapped, mapped ∈ (mapping.mapService name reports).instances ↔
        ∃ reported ∈ reports, mapping.Maps reported mapped) ∧
      (∀ others, (∀ reported, reported ∈ others ↔ reported ∈ reports) →
        mapping.mapService name others = mapping.mapService name reports) ∧
      ∀ others, (∀ reported ∈ reports, ∃ other ∈ others, Alike reported other) →
        (∀ other ∈ others, ∃ reported ∈ reports, Alike reported other) →
          unweighted (mapping.mapService name others) = unweighted (mapping.mapService name reports) := by
  refine ⟨rfl, fun mapped => mem_mapService_iff, ?_, ?_⟩
  · intro others same
    refine congrArg (Service.mk name) (SortedSet.ext_mem fun mapped => ?_)
    rw [SortedSet.mem_ofList, SortedSet.mem_ofList, List.mem_map, List.mem_map]
    simp only [same]
  · intro others each back
    refine SortedSet.ext_mem fun mapped => ?_
    rw [mem_unweighted_iff, mem_unweighted_iff]
    constructor
    · rintro ⟨other, known, rfl⟩
      obtain ⟨reported, member, alike⟩ := back other known
      exact ⟨reported, member, (mapInstance_of_alike alike).symm⟩
    · rintro ⟨reported, known, rfl⟩
      obtain ⟨other, member, alike⟩ := each reported known
      exact ⟨other, member, mapInstance_of_alike alike⟩

/-- Tags that only look like weights are passed over; in another order, another tag is the first. -/
theorem mapService_maps_each_lookalikes :
    let mapping : InstanceMapping := ⟨"canary", "w.t", 50⟩
    let tags := ["wxt:9", "w.t:٣", "w.t:4294967296", "w.t:20", "canary", "w.t:+7", "w.t:7"]
    let reported : RegistryInstance := ⟨"web-1", "10.0.0.1", 80, tags, true⟩
    let other : RegistryInstance := { reported with tags := tags.reverse }
    (mapping.mapInstance reported).weight = 20 ∧ (mapping.mapInstance other).weight = 7 ∧
      unweighted (mapping.mapService "web" [other]) = unweighted (mapping.mapService "web" [reported]) := by
  intro mapping tags reported other
  have alike : Alike reported other := ⟨rfl, fun tag => List.mem_reverse⟩
  have law := (mapService_maps_each mapping "web" [reported]).2.2.2 [other] (by simpa using alike)
    (by simpa using alike)
  exact ⟨by decide, by decide, law⟩

end ServiceMesh.InstanceMapping
