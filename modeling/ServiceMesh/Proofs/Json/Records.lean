import Mathlib.Data.List.Nodup
import ServiceMesh.Json.Decoder
import ServiceMesh.Proofs.Json.RoundTrip
import ServiceMesh.Proofs.Text.Utf8

/-! Decoders give back what was encoded: texts, numbers and truth values, sequences of what they
decode, and records with a value for each field. Where all values of a kind come back, the text that is
written for a value stands for all documents that are decoded to it. -/
namespace ServiceMesh.Json

variable {α : Type}

/-! ### Values -/

theorem characters?_map (chars : List Char) :
    characters? (chars.map some) = some (String.ofList chars) := by
  have all : (chars.map some).mapM id = some chars := by
    induction chars with
    | nil => rfl
    | cons c chars ih =>
        rw [List.map_cons, List.mapM_cons, ih]
        rfl
  rw [characters?, all, Option.map_some]

theorem characters?_toList (s : String) : characters? (s.toList.map some) = some s := by
  rw [characters?_map, String.ofList_toList]

theorem string_ofString (s : String) : string (.ofString s) = .ok s := by
  simp only [string, ofString, characters?_toList]

theorem boolean_bool (value : Bool) : boolean (.bool value) = .ok value := rfl

theorem word32_ofNat (n : UInt32) : word32 (.ofNat n.toNat) = .ok n := by
  have bound : (n.toNat : Int) < UInt32.size := Int.ofNat_lt.mpr n.toNat_lt_size
  have inRange : (0 ≤ (n.toNat : Int) && (n.toNat : Int) < UInt32.size) = true := by
    rw [Bool.and_eq_true, decide_eq_true_eq, decide_eq_true_eq]
    exact ⟨Int.natCast_nonneg _, bound⟩
  simp only [word32, ofNat, inRange, if_true, Int.toNat_natCast, UInt32.ofNat_toNat]

theorem mapM_decoder {β : Type} {decode : β → Except DecodeError α} {encode : α → β} {list : List α}
    (decoded : ∀ a ∈ list, decode (encode a) = .ok a) :
    (list.map encode).mapM decode = .ok list := by
  induction list with
  | nil => rfl
  | cons a list ih =>
      obtain ⟨first, others⟩ := List.forall_mem_cons.mp decoded
      rw [List.map_cons, List.mapM_cons, first, ih others]
      rfl

theorem sequence_map {item : Decoder α} {encode : α → Json} {list : List α}
    (decoded : ∀ a ∈ list, item (encode a) = .ok a) :
    sequence item (.array (list.map encode)) = .ok list := mapM_decoder decoded

theorem members_map {value : Decoder α} {encode : α → Json} {entries : List (String × α)}
    (decoded : ∀ entry ∈ entries, value (encode entry.2) = .ok entry.2) :
    members value (.record (entries.map fun entry => (entry.1, encode entry.2))) = .ok entries := by
  rw [record, List.map_map]
  refine mapM_decoder fun entry member => ?_
  simp only [Function.comp, characters?_toList, decoded entry member]
  rfl

/-! ### Records -/

theorem check_required {decoder : Decoder α} {json : Json} {value : α} (name : String)
    (decoded : decoder json = .ok value) : (Field.required name decoder).check json = .ok () := by
  simp only [Field.required, decoded]
  rfl

theorem check_optional {decoder : Decoder α} {json : Json} {value : α} (name : String)
    (decoded : decoder json = .ok value) : (Field.optional name decoder).check json = .ok () :=
  check_required name decoded

/-- The record has a field of that name, which finds the value fit. -/
def Record.Takes (record : Record) (member : String × Json) : Prop :=
  ∃ field, record.fields.find? (·.answersTo member.1) = some field ∧ field.name = member.1 ∧
    field.check member.2 = .ok ()

theorem Record.collect_of_takes {record : Record} {given seen : List (String × Json)}
    (takes : ∀ member ∈ given, record.Takes member)
    (distinct : ((given.reverse ++ seen).map Prod.fst).Nodup) :
    record.collect seen (given.map fun member => (member.1.toList.map some, member.2)) =
      .ok (given.reverse ++ seen) := by
  induction given generalizing seen with
  | nil => rfl
  | cons member given ih =>
      obtain ⟨⟨field, found, named, fit⟩, others⟩ := List.forall_mem_cons.mp takes
      have moved : (member :: given).reverse ++ seen = given.reverse ++ member :: seen := by simp
      rw [moved] at distinct ⊢
      have fresh : seen.any (·.1 == member.1) = false := by
        rw [List.map_append, List.nodup_append] at distinct
        have unseen := (List.nodup_cons.mp distinct.2.1).1
        rw [List.any_eq_false]
        intro other known same
        exact unseen (List.mem_map.mpr ⟨other, known, by simpa using same⟩)
      rw [List.map_cons, collect, characters?_toList]
      simp only [found, named, fresh, fit]
      exact ih others distinct

theorem Record.requireAll_of_mem {values : List (String × Json)} {fields : List Field}
    (present : ∀ field ∈ fields, field.name ∈ values.map Prod.fst) :
    requireAll values fields = .ok () := by
  induction fields with
  | nil => rfl
  | cons field fields ih =>
      obtain ⟨first, others⟩ := List.forall_mem_cons.mp present
      have found : values.any (·.1 == field.name) = true := by
        obtain ⟨value, member, named⟩ := List.mem_map.mp first
        exact List.any_eq_true.mpr ⟨value, member, by simp [named]⟩
      rw [requireAll, found, Bool.or_true, if_pos rfl, ih others]

/-- A record is opened if it has a fit value for each field, and each value comes once. -/
theorem Record.openFields_record (record : Record) (given : List (String × Json))
    (takes : ∀ member ∈ given, record.Takes member) (distinct : (given.map Prod.fst).Nodup)
    (present : record.fields.map Field.name ⊆ given.map Prod.fst) :
    record.openFields (.record given) = .ok given.reverse := by
  have once : ((given.reverse ++ []).map Prod.fst).Nodup := by
    rwa [List.append_nil, List.map_reverse, List.nodup_reverse]
  have all : requireAll given.reverse record.fields = .ok () := by
    refine requireAll_of_mem fun field member => ?_
    rw [List.map_reverse, List.mem_reverse]
    exact present (List.mem_map_of_mem member)
  have collected := collect_of_takes takes once
  rw [List.append_nil] at collected
  simp only [openFields, Json.record, collected]
  change (requireAll given.reverse record.fields).bind _ = _
  rw [all]
  rfl

variable {given : List (String × Json)} {name : String} {json : Json} {decoder : Decoder α}

theorem find?_of_mem (distinct : (given.map Prod.fst).Nodup) (member : (name, json) ∈ given) :
    given.reverse.find? (·.1 == name) = some (name, json) := by
  cases found : given.reverse.find? (·.1 == name) with
  | none =>
      rw [List.find?_eq_none] at found
      exact absurd (found _ (List.mem_reverse.mpr member)) (by simp)
  | some other =>
      have known := List.mem_reverse.mp (List.mem_of_find?_eq_some found)
      have named : other.1 = name := by simpa using List.find?_some found
      exact congrArg some (List.inj_on_of_nodup_map distinct known member named)

theorem value_of_mem (distinct : (given.map Prod.fst).Nodup) (member : (name, json) ∈ given)
    {a : α} (decoded : decoder json = .ok a) : value given.reverse name decoder = .ok a := by
  rw [value, find?_of_mem distinct member]
  exact decoded

theorem valueOr_of_mem (distinct : (given.map Prod.fst).Nodup) (member : (name, json) ∈ given)
    {a : α} (decoded : decoder json = .ok a) (fallback : α) :
    valueOr given.reverse name decoder fallback = .ok a := by
  rw [valueOr, find?_of_mem distinct member]
  exact decoded

/-- What is done with a value that was decoded. -/
theorem ok_bind {ε β : Type} (a : α) (f : α → Except ε β) : (Except.ok a >>= f) = f a := rfl

/-! ### Texts of documents -/

/-- What a document is decoded to, its text is decoded to. -/
theorem Exact.decodeSymbols_render (exact : Exact json) {a : α} (decoded : decoder json = .ok a) :
    decodeSymbols decoder (json.render.toList.map some) = .ok a := by
  rw [render, String.toList_ofList]
  simp only [decodeSymbols, exact.read_write, decoded]

/-- The text of a document is decoded to what the document itself is decoded to. -/
theorem Exact.decodeString_render_iff (exact : Exact json) {a : α} :
    decodeString decoder json.render = .ok a ↔ decoder json = .ok a := by
  constructor
  · intro read
    cases decoded : decoder json with
    | ok value =>
        have same := exact.decodeSymbols_render decoded
        exact same.symm.trans read
    | error problem =>
        rw [decodeString, render, String.toList_ofList] at read
        simp only [decodeSymbols, exact.read_write, decoded] at read
        split at read <;> contradiction
  · exact exact.decodeSymbols_render

/-- What is written for the value that a document is decoded to. -/
def rewrite (decoder : Decoder α) (toJson : α → Json) (input : List Symbol) :
    Except DecodeError String :=
  (decodeSymbols decoder input).map fun value => (toJson value).render

theorem rewrite_of_decoded {toJson : α → Json} {input : List Symbol} {value : α}
    (decoded : decodeSymbols decoder input = .ok value) :
    rewrite decoder toJson input = .ok (toJson value).render := by
  rw [rewrite, decoded]
  rfl

/-- Values of a kind are told by their texts. A document that is accepted, whatever form it has, is
rewritten to a text that is decoded to the same value and is rewritten to itself; all documents of the
value are rewritten to it, and no others. -/
structure ToldByText (decoder : Decoder α) (toJson : α → Json) : Prop where
  text : ∀ value, decodeString decoder (toJson value).render = .ok value
  bytes : ∀ value,
    decodeSymbols decoder (Text.decodeUtf8 (Text.utf8 (toJson value).render)) = .ok value
  canonical : ∀ input value, decodeSymbols decoder input = .ok value →
    ∃ text, rewrite decoder toJson input = .ok text ∧ decodeString decoder text = .ok value ∧
      rewrite decoder toJson (text.toList.map some) = .ok text ∧
      ∀ other, rewrite decoder toJson other = .ok text ↔ decodeSymbols decoder other = .ok value

theorem ToldByText.of_exact {toJson : α → Json} (exact : ∀ value, Exact (toJson value))
    (decoded : ∀ value, decoder (toJson value) = .ok value) : ToldByText decoder toJson := by
  have text (value : α) : decodeString decoder (toJson value).render = .ok value :=
    (exact value).decodeSymbols_render (decoded value)
  constructor
  · exact text
  · intro value
    rw [Text.decodeUtf8_utf8]
    exact text value
  · intro input value accepted
    refine ⟨_, rewrite_of_decoded accepted, text value, rewrite_of_decoded (text value), ?_⟩
    intro other
    constructor
    · intro same
      cases found : decodeSymbols decoder other with
      | error problem =>
          rw [rewrite, found] at same
          contradiction
      | ok another =>
          rw [rewrite_of_decoded found] at same
          -- Both values are decoded from the one text.
          have one := text another
          rw [Except.ok.inj same, text value] at one
          exact one.symm
    · exact rewrite_of_decoded

end ServiceMesh.Json
