import ServiceMesh.Proofs.Json.Records

/-! When a record is opened. An object has to give each field at most one value, and a fit one, and to
leave out none but those that may be missing; an array gives the values by position. -/
namespace ServiceMesh.Json

variable {α : Type}

/-- The names under which members of an object give a field its value. -/
def Field.names (field : Field) : List String := field.name :: field.aliases

/-- The values of the members that go by some names, in their order. -/
def valuesOf (names : List String) (members : List (List Symbol × Json)) : List Json :=
  (members.filter fun member => (characters? member.1).any names.contains).map Prod.snd

theorem mem_valuesOf {names : List String} {members : List (List Symbol × Json)} {json : Json} :
    json ∈ valuesOf names members ↔
      ∃ symbols key, (symbols, json) ∈ members ∧ characters? symbols = some key ∧ key ∈ names := by
  simp [valuesOf, Option.any_eq_true]

/-- Holds for the values that a field can be given: none if it may be missing, or a fit one. -/
def Field.Accepts (field : Field) (given : List Json) : Prop :=
  given = [] ∧ field.isOptional = true ∨ ∃ json, given = [json] ∧ field.check json = .ok ()

theorem Field.accepts_iff {field : Field} {given : List Json} :
    field.Accepts given ↔ given.length ≤ 1 ∧ (∀ json ∈ given, field.check json = .ok ()) ∧
      (field.isOptional = true ∨ given ≠ []) := by
  unfold Accepts
  rcases given with _ | ⟨json, _ | ⟨_, _⟩⟩ <;> simp

theorem Field.accepts_singleton_iff {field : Field} {json : Json} :
    field.Accepts [json] ↔ field.check json = .ok () := by
  simp [Accepts]

theorem Field.answersTo_iff {field : Field} {key : String} :
    field.answersTo key = true ↔ key ∈ field.names := by
  rw [answersTo, names, List.mem_cons, Bool.or_eq_true, beq_iff_eq, List.contains_iff_mem,
    eq_comm]

theorem bind_eq_ok_iff {ε β : Type} {x : Except ε α} {f : α → Except ε β} {b : β} :
    (x >>= f) = .ok b ↔ ∃ a, x = .ok a ∧ f a = .ok b := by
  cases x with
  | error problem => exact ⟨fun same => by contradiction, fun ⟨_, same, _⟩ => by contradiction⟩
  | ok a =>
      rw [ok_bind]
      exact ⟨fun same => ⟨a, rfl, same⟩, fun ⟨_, found, same⟩ => Except.ok.inj found ▸ same⟩

namespace Record

variable {record : Record} {field other : Field} {key : String}
  {members : List (List Symbol × Json)} {seen values : List (String × Json)}

/-- No two fields go by the same name. -/
def Clear (record : Record) : Prop :=
  record.fields.Pairwise fun a b => ∀ key ∈ a.names, key ∉ b.names

theorem Clear.find?_eq_some_iff (clear : record.Clear) :
    record.fields.find? (·.answersTo key) = some field ↔
      field ∈ record.fields ∧ key ∈ field.names := by
  unfold Clear at clear
  generalize record.fields = fields at clear ⊢
  induction fields with
  | nil => simp
  | cons first rest ih =>
      obtain ⟨apart, clear⟩ := List.pairwise_cons.mp clear
      rw [List.find?_cons]
      split
      case h_1 answers =>
        have own := Field.answersTo_iff.mp answers
        constructor
        · intro same
          obtain rfl := Option.some.inj same
          exact ⟨List.mem_cons_self, own⟩
        · rintro ⟨member, named⟩
          rcases List.mem_cons.mp member with rfl | later
          · rfl
          · exact absurd named (apart field later key own)
      case h_2 silent =>
        rw [ih clear, List.mem_cons]
        refine and_congr_left fun named => (or_iff_right ?_).symm
        rintro rfl
        rw [Field.answersTo_iff.mpr named] at silent
        contradiction

/-- Fields are told by any of their names. -/
theorem Clear.eq_of_names (clear : record.Clear) (member : field ∈ record.fields)
    (also : other ∈ record.fields) (named : key ∈ field.names) (too : key ∈ other.names) :
    field = other := by
  have first := clear.find?_eq_some_iff.mpr ⟨member, named⟩
  rw [clear.find?_eq_some_iff.mpr ⟨also, too⟩] at first
  exact (Option.some.inj first).symm

/-! ### Objects -/

/-- The members that a record has fields for, under the names of these. -/
def told (record : Record) (members : List (List Symbol × Json)) : List (String × Json) :=
  members.filterMap fun member =>
    ((characters? member.1).bind fun key => record.fields.find? (·.answersTo key)).map
      fun field => (field.name, member.2)

/-- What is told of a field are the values that it is given. -/
theorem Clear.values_told (clear : record.Clear) (known : field ∈ record.fields)
    (members : List (List Symbol × Json)) :
    ((record.told members).filter (·.1 == field.name)).map Prod.snd =
      valuesOf field.names members := by
  induction members with
  | nil => rfl
  | cons member rest ih =>
      obtain ⟨symbols, json⟩ := member
      rw [valuesOf] at ih ⊢
      rw [told, List.filterMap_cons, List.filter_cons]
      cases written : characters? symbols with
      | none => exact ih
      | some key =>
          simp only [Option.bind_some, Option.any_some]
          cases found : record.fields.find? (·.answersTo key) with
          | none =>
              have foreign : key ∉ field.names := fun named => by
                rw [clear.find?_eq_some_iff.mpr ⟨known, named⟩] at found
                contradiction
              rw [if_neg (by simpa using foreign)]
              exact ih
          | some other =>
              obtain ⟨also, named⟩ := clear.find?_eq_some_iff.mp found
              have same : other.name = field.name ↔ key ∈ field.names := by
                constructor
                · intro same
                  have first : field.name ∈ field.names := List.mem_cons_self
                  rwa [clear.eq_of_names known also first (same ▸ List.mem_cons_self)]
                · intro own
                  rw [clear.eq_of_names known also own named]
              simp only [Option.map_some, List.filter_cons, beq_iff_eq, same, List.contains_iff_mem]
              split
              · exact congrArg (json :: ·) ih
              · exact ih

theorem mem_fields_of_mem_told {entry : String × Json} (member : entry ∈ record.told members) :
    entry.1 ∈ record.fields.map Field.name := by
  obtain ⟨_, _, made⟩ := List.mem_filterMap.mp member
  obtain ⟨field, found, rfl⟩ := Option.map_eq_some_iff.mp made
  obtain ⟨key, -, found⟩ := Option.bind_eq_some_iff.mp found
  exact List.mem_map_of_mem (List.mem_of_find?_eq_some found)

/-- No field is told of twice exactly if each is given at most one value. -/
theorem Clear.nodup_told_iff (clear : record.Clear) :
    ((record.told members).map Prod.fst).Nodup ↔
      ∀ field ∈ record.fields, (valuesOf field.names members).length ≤ 1 := by
  have counts (name : String) : ((record.told members).map Prod.fst).count name =
      ((record.told members).filter (·.1 == name)).length := by
    rw [List.count_eq_countP, List.countP_map, List.countP_eq_length_filter]
    rfl
  rw [List.nodup_iff_count_le_one]
  constructor
  · intro once field known
    rw [← clear.values_told known, List.length_map, ← counts]
    exact once field.name
  · intro once name
    by_cases told : name ∈ (record.told members).map Prod.fst
    · obtain ⟨entry, member, rfl⟩ := List.mem_map.mp told
      obtain ⟨field, known, named⟩ := List.mem_map.mp (mem_fields_of_mem_told member)
      have one := once field known
      rwa [← clear.values_told known, List.length_map, named, ← counts] at one
    · rw [List.count_eq_zero_of_not_mem told]
      exact Nat.zero_le 1

/-- All values that fields are given are fit. -/
def Fit (record : Record) (members : List (List Symbol × Json)) : Prop :=
  ∀ field ∈ record.fields, ∀ json ∈ valuesOf field.names members, field.check json = .ok ()

section Member

variable {symbols : List Symbol} {json : Json}

theorem valuesOf_cons (names : List String) (written : characters? symbols = some key) :
    valuesOf names ((symbols, json) :: members) =
      if key ∈ names then json :: valuesOf names members else valuesOf names members := by
  simp only [valuesOf, List.filter_cons, written, Option.any_some, List.contains_iff_mem]
  split <;> rfl

theorem told_foreign (written : characters? symbols = some key)
    (found : record.fields.find? (·.answersTo key) = none) :
    record.told ((symbols, json) :: members) = record.told members := by
  rw [told, List.filterMap_cons, written, Option.bind_some, found]
  rfl

theorem told_known (written : characters? symbols = some key)
    (found : record.fields.find? (·.answersTo key) = some field) :
    record.told ((symbols, json) :: members) = (field.name, json) :: record.told members := by
  rw [told, List.filterMap_cons, written, Option.bind_some, found]
  rfl

theorem fit_foreign (written : characters? symbols = some key)
    (found : record.fields.find? (·.answersTo key) = none) :
    record.Fit ((symbols, json) :: members) ↔ record.Fit members := by
  refine forall₂_congr fun field known => ?_
  have foreign : key ∉ field.names := fun named =>
    List.find?_eq_none.mp found field known (Field.answersTo_iff.mpr named)
  rw [valuesOf_cons _ written, if_neg foreign]

theorem Clear.fit_known (clear : record.Clear) (written : characters? symbols = some key)
    (found : record.fields.find? (·.answersTo key) = some field) :
    record.Fit ((symbols, json) :: members) ↔ field.check json = .ok () ∧ record.Fit members := by
  obtain ⟨known, named⟩ := clear.find?_eq_some_iff.mp found
  constructor
  · intro fit
    refine ⟨fit field known json ?_, fun other also value member => fit other also value ?_⟩
    · rw [valuesOf_cons _ written, if_pos named]
      exact List.mem_cons_self
    · rw [valuesOf_cons _ written]
      split
      · exact List.mem_cons_of_mem _ member
      · exact member
  · rintro ⟨first, later⟩ other also value member
    rw [valuesOf_cons _ written] at member
    split at member
    case isTrue own =>
      obtain rfl := clear.eq_of_names known also named own
      rcases List.mem_cons.mp member with rfl | member
      · exact first
      · exact later field known value member
    case isFalse => exact later other also value member

end Member

/-- Members are collected exactly if all keys are characters, all values of fields are fit, and no field
comes twice. -/
theorem Clear.collect_eq_ok_iff (clear : record.Clear) (distinct : (seen.map Prod.fst).Nodup) :
    record.collect seen members = .ok values ↔
      (∀ member ∈ members, (characters? member.1).isSome = true) ∧ record.Fit members ∧
      (((record.told members).reverse ++ seen).map Prod.fst).Nodup ∧
      (record.told members).reverse ++ seen = values := by
  induction members generalizing seen with
  | nil => simp [collect, told, Fit, valuesOf, distinct]
  | cons member rest ih =>
      obtain ⟨symbols, json⟩ := member
      rw [collect, List.forall_mem_cons]
      cases written : characters? symbols with
      | none => simp
      | some key =>
          dsimp only
          cases found : record.fields.find? (·.answersTo key) with
          | none => simp [told_foreign written found, fit_foreign written found, ih distinct]
          | some field =>
              rw [told_known written found, clear.fit_known written found, List.reverse_cons,
                List.append_assoc, List.singleton_append]
              by_cases again : seen.any (·.1 == field.name) = true
              · -- A field that comes again is a problem, and its name stands twice in what is told.
                have twice : ¬ (((record.told rest).reverse ++ (field.name, json) :: seen).map
                    Prod.fst).Nodup := by
                  intro once
                  rw [List.map_append, List.map_cons] at once
                  obtain ⟨entry, member, same⟩ := List.any_eq_true.mp again
                  have own := (List.nodup_cons.mp (List.nodup_append.mp once).2.1).1
                  exact own (List.mem_map.mpr ⟨entry, member, eq_of_beq same⟩)
                simp only [again, if_true, twice, false_and, and_false, iff_false]
                exact fun same => by contradiction
              · have fresh : (((field.name, json) :: seen).map Prod.fst).Nodup := by
                  refine List.nodup_cons.mpr ⟨fun own => ?_, distinct⟩
                  obtain ⟨entry, member, same⟩ := List.mem_map.mp own
                  exact again (List.any_eq_true.mpr ⟨entry, member, beq_iff_eq.mpr same⟩)
                simp only [again, Option.isSome_some, true_and]
                cases fit : field.check json with
                | error problem => simp [bind, Except.bind]
                | ok done =>
                    change record.collect ((field.name, json) :: seen) rest = _ ↔ _
                    rw [ih fresh]
                    simp

theorem requireAll_eq_ok_iff {fields : List Field} :
    requireAll values fields = .ok () ↔
      ∀ field ∈ fields, field.isOptional = true ∨ field.name ∈ values.map Prod.fst := by
  induction fields with
  | nil => simp [requireAll]
  | cons field fields ih =>
      have listed : values.any (·.1 == field.name) = true ↔ field.name ∈ values.map Prod.fst := by
        simp [List.any_eq_true, List.mem_map]
      rw [requireAll, List.forall_mem_cons, ← ih, ← listed, ← Bool.or_eq_true]
      split
      case isTrue there => simp [there]
      case isFalse missing => simp [missing]

/-- An object is opened exactly if all keys are characters and each field accepts the values that it
is given. -/
theorem Clear.openFields_object_iff (clear : record.Clear) :
    record.openFields (.object members) = .ok values ↔
      (∀ member ∈ members, (characters? member.1).isSome = true) ∧
      (∀ field ∈ record.fields, field.Accepts (valuesOf field.names members)) ∧
      (record.told members).reverse = values := by
  have collects (values : List (String × Json)) : record.collect [] members = .ok values ↔
      (∀ member ∈ members, (characters? member.1).isSome = true) ∧ record.Fit members ∧
      (∀ field ∈ record.fields, (valuesOf field.names members).length ≤ 1) ∧
      (record.told members).reverse = values := by
    have distinct : (([] : List (String × Json)).map Prod.fst).Nodup := .nil
    rw [clear.collect_eq_ok_iff distinct, List.append_nil, List.map_reverse, List.nodup_reverse,
      clear.nodup_told_iff]
  have required : requireAll (record.told members).reverse record.fields = .ok () ↔
      ∀ field ∈ record.fields, field.isOptional = true ∨ valuesOf field.names members ≠ [] := by
    rw [requireAll_eq_ok_iff]
    refine forall₂_congr fun field known => or_congr_right ?_
    rw [List.map_reverse, List.mem_reverse, ← clear.values_told known, Ne, List.map_eq_nil_iff,
      List.filter_eq_nil_iff]
    simp
  simp only [Field.accepts_iff]
  constructor
  · intro opened
    cases collected : record.collect [] members with
    | error problem =>
        simp only [openFields, collected] at opened
        contradiction
    | ok given =>
        obtain ⟨keys, fit, once, rfl⟩ := (collects given).mp collected
        simp only [openFields, collected, ok_bind] at opened
        cases all : requireAll (record.told members).reverse record.fields with
        | error problem =>
            rw [all] at opened
            contradiction
        | ok done =>
            rw [all] at opened
            refine ⟨keys, fun field known => ⟨once field known, fit field known, ?_⟩,
              Except.ok.inj opened⟩
            exact required.mp all field known
  · rintro ⟨keys, accepts, rfl⟩
    have collected := (collects _).mpr
      ⟨keys, fun field known => (accepts field known).2.1, fun field known => (accepts field known).1,
        rfl⟩
    have all := required.mpr fun field known => (accepts field known).2.2
    simp only [openFields, collected, ok_bind, all]
    rfl

/-- In a record that is opened every field finds its value fit. -/
theorem Clear.check_of_opened (clear : record.Clear) (known : field ∈ record.fields)
    {given : List (String × Json)} {json : Json} (member : (field.name, json) ∈ given)
    (opened : record.openFields (.record given) = .ok values) : field.check json = .ok () := by
  obtain ⟨-, accepts, -⟩ := clear.openFields_object_iff.mp opened
  have named : json ∈ valuesOf field.names (given.map fun entry => (entry.1.toList.map some, entry.2)) := by
    apply mem_valuesOf.mpr
    exact ⟨_, field.name, List.mem_map_of_mem member, characters?_toList field.name, List.mem_cons_self⟩
  rcases accepts field known with ⟨none, -⟩ | ⟨only, single, fit⟩
  · rw [none] at named
    contradiction
  · rw [single, List.mem_singleton] at named
    rwa [named]

/-- What is found of a field that accepts its values. -/
theorem Clear.find?_told (clear : record.Clear) (known : field ∈ record.fields)
    (accepts : field.Accepts (valuesOf field.names members)) :
    (record.told members).reverse.find? (·.1 == field.name) =
      (valuesOf field.names members).head?.map (field.name, ·) := by
  have single : (valuesOf field.names members).length ≤ 1 := (Field.accepts_iff.mp accepts).1
  rw [← clear.values_told known] at single ⊢
  rw [← List.head?_filter, List.filter_reverse]
  cases told : (record.told members).filter (·.1 == field.name) with
  | nil => rfl
  | cons entry others =>
      rw [told, List.map_cons, List.length_cons, List.length_map] at single
      obtain rfl := List.length_eq_zero_iff.mp (Nat.le_zero.mp (Nat.le_of_succ_le_succ single))
      have named : (entry.1 == field.name) = true := by
        have member : entry ∈ (record.told members).filter (·.1 == field.name) := by
          rw [told]
          exact List.mem_cons_self
        exact (List.mem_filter.mp member).2
      rw [← eq_of_beq named]
      rfl

/-! ### Arrays -/

/-- Items are arranged exactly if they are fit and no field that has to be there is left over. -/
theorem arrange_eq_ok_iff {fields : List Field} {items : List Json} {position : Nat} :
    record.arrange position fields items = .ok values ↔
      items.length ≤ fields.length ∧
      (∀ field ∈ fields.drop items.length, field.isOptional = true) ∧
      (∀ pair ∈ fields.zip items, pair.1.check pair.2 = .ok ()) ∧
      List.zipWith (fun field json => (field.name, json)) fields items = values := by
  induction fields generalizing items position values with
  | nil =>
      cases items with
      | nil => simp [arrange]
      | cons item items => simp [arrange]
  | cons field fields ih =>
      cases items with
      | nil =>
          rw [arrange]
          cases optional : field.isOptional with
          | true => simp [ih, optional]
          | false => simp [optional]
      | cons item items =>
          have arranged : record.arrange position (field :: fields) (item :: items) = .ok values ↔
              field.check item = .ok () ∧ ∃ others,
                record.arrange (position + 1) fields items = .ok others ∧
                (field.name, item) :: others = values := by
            rw [arrange, bind_eq_ok_iff]
            simp only [bind_eq_ok_iff, pure, Except.pure, Except.ok.injEq]
            exact ⟨fun ⟨_, fit, rest⟩ => ⟨fit, rest⟩, fun ⟨fit, rest⟩ => ⟨(), fit, rest⟩⟩
          simp only [arranged, ih, List.length_cons, List.drop_succ_cons, List.zip_cons_cons,
            List.forall_mem_cons, List.zipWith_cons_cons, Nat.add_le_add_iff_right]
          constructor
          · rintro ⟨fit, others, ⟨short, optional, fits, rfl⟩, rfl⟩
            exact ⟨short, optional, ⟨fit, fits⟩, rfl⟩
          · rintro ⟨short, optional, ⟨fit, fits⟩, rfl⟩
            exact ⟨fit, _, ⟨short, optional, fits, rfl⟩, rfl⟩

end Record

end ServiceMesh.Json
