import ServiceMesh.Admin.Submission
import ServiceMesh.Proofs.Json.Fields

/-! What a submission is, told by its document: which values it gives to which field, in an object or in
an array, and what texts these have to be. The decoder accepts exactly that. -/
namespace ServiceMesh

namespace Json

variable {α : Type} {json : Json} {given : List Json}

/-- The text of a document that is one and is made of characters. -/
def text? : Json → Option String
  | .text content => characters? content
  | _ => none

theorem wrongType_ne_ok (json : Json) (expected : String) (a : α) :
    wrongType json expected ≠ .ok a := by
  unfold wrongType
  split <;> try split
  all_goals exact fun same => by contradiction

theorem string_eq_ok_iff {s : String} : string json = .ok s ↔ json.text? = some s := by
  cases json with
  | text content =>
      rw [string, text?]
      cases characters? content <;> simp
  | _ => simp [string, text?, wrongType_ne_ok]

theorem duration_eq_ok_iff {d : Duration} : duration json = .ok d ↔
    ∃ text, json.text? = some text ∧ Duration.parse text = .ok d := by
  cases json with
  | text content =>
      rw [duration, text?]
      cases characters? content with
      | none => simp
      | some text => cases parsed : Duration.parse text <;> simp [parsed, Except.mapError]
  | _ => simp [duration, text?, wrongType_ne_ok]

/-- There is one value, and it is decoded. -/
def Decodes (decoder : Decoder α) (given : List Json) (a : α) : Prop :=
  ∃ json, given = [json] ∧ decoder json = .ok a

theorem Field.check_eq_ok_iff {name : String} {decoder : Decoder α} :
    (Field.required name decoder).check json = .ok () ↔ ∃ a, decoder json = .ok a := by
  simp only [Field.required]
  cases decoder json <;> simp [discard, Functor.discard, Functor.mapConst, Except.map]

theorem accepts_required_iff (name : String) {decoder : Decoder α} :
    (Field.required name decoder).Accepts given ↔ ∃ a, Decodes decoder given a := by
  simp only [Field.Accepts, Field.check_eq_ok_iff, Decodes]
  simp only [Field.required, Bool.false_eq_true, and_false, false_or]
  constructor
  · rintro ⟨json, single, a, read⟩
    exact ⟨a, json, single, read⟩
  · rintro ⟨a, json, single, read⟩
    exact ⟨json, single, a, read⟩

theorem accepts_optional_iff {name : String} {decoder : Decoder α} :
    (Field.optional name decoder).Accepts given ↔ given = [] ∨ ∃ a, Decodes decoder given a := by
  rw [← accepts_required_iff name]
  simp [Field.Accepts, Field.optional, Field.required]

/-- The value that is found under a name is the one that is given. -/
structure Holds (values : List (String × Json)) (name : String) (given : List Json) : Prop where
  single : given.length ≤ 1
  found : values.find? (·.1 == name) = given.head?.map (name, ·)

variable {values : List (String × Json)} {name : String} {decoder : Decoder α} {a : α}

theorem Holds.value_eq_ok_iff (holds : Holds values name given) :
    value values name decoder = .ok a ↔ Decodes decoder given a := by
  obtain ⟨single, found⟩ := holds
  rw [value, found, Decodes]
  rcases given with _ | ⟨json, _ | ⟨_, _⟩⟩
  · simp
  · simp
  · simp at single

theorem Holds.valueOr_eq_ok_iff (holds : Holds values name given) {fallback : α} :
    valueOr values name decoder fallback = .ok a ↔
      given = [] ∧ fallback = a ∨ Decodes decoder given a := by
  obtain ⟨single, found⟩ := holds
  rw [valueOr, found, Decodes]
  rcases given with _ | ⟨json, _ | ⟨_, _⟩⟩
  · simp
  · simp
  · simp at single

theorem decodes_selector_iff {selector : Selector} : Decodes Selector.decoder given selector ↔
    given.map text? = [some selector.pattern] := by
  obtain ⟨pattern⟩ := selector
  rcases given with _ | ⟨json, _ | ⟨_, _⟩⟩
  · simp [Decodes]
  · have decoded : Selector.decoder json = .ok ⟨pattern⟩ ↔ json.text? = some pattern := by
      rw [← string_eq_ok_iff, Selector.decoder]
      cases string json <;> simp [Functor.map, Except.map]
    simp [Decodes, decoded]
  · simp [Decodes]

theorem decodes_duration_iff {d : Duration} : Decodes duration given d ↔
    ∃ text, given.map text? = [some text] ∧ Duration.parse text = .ok d := by
  rcases given with _ | ⟨json, _ | ⟨_, _⟩⟩
  · simp [Decodes]
  · simp [Decodes, duration_eq_ok_iff]
  · simp [Decodes]

/-- An id may be null, which is as if it were missing. -/
theorem decodes_id_iff {id : Option String} :
    given = [] ∧ none = id ∨ Decodes (nullable string) given id ↔
      (given = [] ∨ given = [.null]) ∧ id = none ∨
        ∃ text, given.map text? = [some text] ∧ id = some text := by
  rcases given with _ | ⟨json, _ | ⟨_, _⟩⟩
  · simp [Decodes, eq_comm]
  · have decoded : nullable string json = .ok id ↔
        json = .null ∧ id = none ∨ ∃ text, json.text? = some text ∧ id = some text := by
      cases json with
      | null => simp [nullable, text?, eq_comm]
      | _ =>
          simp only [nullable, ← string_eq_ok_iff, reduceCtorEq, false_and, false_or]
          cases string _ <;> simp [Functor.map, Except.map, eq_comm]
    simp [Decodes, decoded]
  · simp [Decodes]

end Json

namespace Admin

open ServiceMesh.Json

variable {freshId : String} {fault : Fault} {json : Json}

/-! ### Documents of submissions -/

/-- A fault is told by the values that are given to the fields of a submission. The id may be missing
or null, and then it is `freshId`; each other field has one value, a text, and those of the durations
are durations. -/
structure Describes (freshId : String) (fault : Fault) (id source target delay duration : List Json) :
    Prop where
  id : (id = [] ∨ id = [.null]) ∧ fault.id = freshId ∨ id.map text? = [some fault.id]
  source : source.map text? = [some fault.source.pattern]
  target : target.map text? = [some fault.target.pattern]
  delay : ∃ text, delay.map text? = [some text] ∧ Duration.parse text = .ok fault.delay
  duration : ∃ text, duration.map text? = [some text] ∧ Duration.parse text = .ok fault.duration

/-- The documents that submit a fault: objects, in which members of other names do not count, and arrays
of five values. -/
inductive Submits (freshId : String) (fault : Fault) : Json → Prop
  | object {members : List (List Symbol × Json)}
      (keys : ∀ member ∈ members, (characters? member.1).isSome = true)
      (describes : Describes freshId fault (valuesOf ["id"] members)
        (valuesOf ["source", "affectedService"] members)
        (valuesOf ["target", "targetService"] members)
        (valuesOf ["delay"] members) (valuesOf ["duration"] members)) :
      Submits freshId fault (.object members)
  | array {id source target delay duration : Json}
      (describes : Describes freshId fault [id] [source] [target] [delay] [duration]) :
      Submits freshId fault (.array [id, source, target, delay, duration])

theorem submissionRecord_clear : submissionRecord.Clear := by
  simp [Record.Clear, submissionRecord, Fault.effectFields, Field.names, Field.optional,
    Field.required, Field.alsoCalled]

variable {id source target delay duration : List Json} {values : List (String × Json)}

/-- The values that are found for the fields of a submission are those that are given. -/
structure Finds (values : List (String × Json)) (id source target delay duration : List Json) :
    Prop where
  id : Holds values "id" id
  source : Holds values "source" source
  target : Holds values "target" target
  delay : Holds values "delay" delay
  duration : Holds values "duration" duration

/-- Values of fields are decoded to the fault that they describe. -/
theorem Finds.decode_eq_ok_iff (finds : Finds values id source target delay duration) :
    (do
      let id ← valueOr values "id" (nullable string) none
      Fault.ofFields (id.getD freshId) values) = .ok fault ↔
      Describes freshId fault id source target delay duration := by
  simp only [bind_eq_ok_iff, finds.id.valueOr_eq_ok_iff, Fault.ofFields,
    finds.source.value_eq_ok_iff, finds.target.value_eq_ok_iff, finds.delay.value_eq_ok_iff,
    finds.duration.value_eq_ok_iff, decodes_selector_iff, decodes_duration_iff, decodes_id_iff,
    pure, Except.pure, Except.ok.injEq]
  constructor
  · rintro ⟨named, told, a, source, b, target, c, delay, d, duration, rfl⟩
    refine ⟨?_, source, target, delay, duration⟩
    rcases told with ⟨missing, rfl⟩ | ⟨text, single, rfl⟩
    · exact .inl ⟨missing, rfl⟩
    · exact .inr single
  · rintro ⟨named, source, target, delay, duration⟩
    rcases named with ⟨missing, fresh⟩ | single
    · exact ⟨none, .inl ⟨missing, rfl⟩, _, source, _, target, _, delay, _, duration,
        by rw [Option.getD_none, ← fresh]⟩
    · exact ⟨some fault.id, .inr ⟨_, single, rfl⟩, _, source, _, target, _, delay, _, duration, rfl⟩

/-- The fields of a submission accept the values that describe a fault. -/
theorem Describes.accepts (describes : Describes freshId fault id source target delay duration) :
    (Field.optional "id" (nullable string)).Accepts id ∧
      (Field.required "source" Selector.decoder).Accepts source ∧
      (Field.required "target" Selector.decoder).Accepts target ∧
      (Field.required "delay" Json.duration).Accepts delay ∧
      (Field.required "duration" Json.duration).Accepts duration := by
  obtain ⟨named, source, target, delay, duration⟩ := describes
  simp only [accepts_optional_iff, accepts_required_iff]
  refine ⟨?_, ⟨_, decodes_selector_iff.mpr source⟩, ⟨_, decodes_selector_iff.mpr target⟩,
    ⟨_, decodes_duration_iff.mpr delay⟩, ⟨_, decodes_duration_iff.mpr duration⟩⟩
  rcases named with ⟨missing, -⟩ | single
  · exact (decodes_id_iff.mpr (.inl ⟨missing, rfl⟩)).imp And.left fun decodes => ⟨none, decodes⟩
  · exact (decodes_id_iff.mpr (.inr ⟨fault.id, single, rfl⟩)).imp And.left
      fun decodes => ⟨some fault.id, decodes⟩

/-- The fields of a submission that accept their values have them found. -/
theorem finds_told {members : List (List Symbol × Json)}
    (accepts : ∀ field ∈ submissionRecord.fields, field.Accepts (valuesOf field.names members)) :
    Finds (submissionRecord.told members).reverse (valuesOf ["id"] members)
      (valuesOf ["source", "affectedService"] members)
      (valuesOf ["target", "targetService"] members)
      (valuesOf ["delay"] members) (valuesOf ["duration"] members) := by
  have holds : ∀ field ∈ submissionRecord.fields, Holds (submissionRecord.told members).reverse
      field.name (valuesOf field.names members) := fun field known =>
    ⟨(Field.accepts_iff.mp (accepts field known)).1,
      submissionRecord_clear.find?_told known (accepts field known)⟩
  simp only [submissionRecord, Fault.effectFields, List.forall_mem_cons] at holds
  obtain ⟨id, source, target, delay, duration, -⟩ := holds
  exact ⟨id, source, target, delay, duration⟩

theorem finds_items (id source target delay duration : Json) :
    Finds [("id", id), ("source", source), ("target", target), ("delay", delay),
      ("duration", duration)] [id] [source] [target] [delay] [duration] :=
  ⟨⟨Nat.le_refl 1, rfl⟩, ⟨Nat.le_refl 1, rfl⟩, ⟨Nat.le_refl 1, rfl⟩, ⟨Nat.le_refl 1, rfl⟩,
    ⟨Nat.le_refl 1, rfl⟩⟩

/-- An object submits a fault exactly if the values of its members describe it. -/
theorem submission_object_eq_ok_iff {members : List (List Symbol × Json)} :
    submission freshId (.object members) = .ok fault ↔
      (∀ member ∈ members, (characters? member.1).isSome = true) ∧
      Describes freshId fault (valuesOf ["id"] members)
        (valuesOf ["source", "affectedService"] members)
        (valuesOf ["target", "targetService"] members)
        (valuesOf ["delay"] members) (valuesOf ["duration"] members) := by
  rw [submission, bind_eq_ok_iff]
  simp only [submissionRecord_clear.openFields_object_iff]
  constructor
  · rintro ⟨_, ⟨keys, accepts, rfl⟩, made⟩
    exact ⟨keys, (finds_told accepts).decode_eq_ok_iff.mp made⟩
  · rintro ⟨keys, describes⟩
    have accepts : ∀ field ∈ submissionRecord.fields,
        field.Accepts (valuesOf field.names members) := by
      obtain ⟨ids, sources, targets, delays, durations⟩ := describes.accepts
      simp only [submissionRecord, Fault.effectFields, List.forall_mem_cons]
      exact ⟨ids, sources, targets, delays, durations, fun _ member => by contradiction⟩
    exact ⟨_, ⟨keys, accepts, rfl⟩, (finds_told accepts).decode_eq_ok_iff.mpr describes⟩

/-- An array submits a fault exactly if it has five values and these describe it. -/
theorem submission_array_eq_ok_iff {items : List Json} :
    submission freshId (.array items) = .ok fault ↔ ∃ id source target delay duration,
      items = [id, source, target, delay, duration] ∧
      Describes freshId fault [id] [source] [target] [delay] [duration] := by
  rw [submission, bind_eq_ok_iff]
  simp only [Record.openFields, Record.arrange_eq_ok_iff]
  constructor
  · rintro ⟨_, ⟨short, optional, -, rfl⟩, made⟩
    -- The last field has to be there, so no item is left out.
    rcases items with _ | ⟨id, _ | ⟨source, _ | ⟨target, _ | ⟨delay, _ | ⟨duration, _ | ⟨_, _⟩⟩⟩⟩⟩⟩
    case cons.cons.cons.cons.cons.nil =>
      have finds := finds_items id source target delay duration
      exact ⟨id, source, target, delay, duration, rfl, finds.decode_eq_ok_iff.mp made⟩
    case cons.cons.cons.cons.cons.cons =>
      simp only [submissionRecord, Fault.effectFields, List.length_cons, List.length_nil] at short
      omega
    all_goals simp [submissionRecord, Fault.effectFields, Field.required, Field.alsoCalled] at optional
  · rintro ⟨id, source, target, delay, duration, rfl, describes⟩
    have finds := finds_items id source target delay duration
    refine ⟨_, ⟨Nat.le_refl 5, fun _ member => by contradiction, ?_, rfl⟩,
      finds.decode_eq_ok_iff.mpr describes⟩
    obtain ⟨ids, sources, targets, delays, durations⟩ := describes.accepts
    simp only [submissionRecord, Fault.effectFields, List.zip_cons_cons, List.zip_nil_right,
      List.forall_mem_cons]
    exact ⟨Field.accepts_singleton_iff.mp ids, Field.accepts_singleton_iff.mp sources,
      Field.accepts_singleton_iff.mp targets, Field.accepts_singleton_iff.mp delays,
      Field.accepts_singleton_iff.mp durations, fun _ member => by contradiction⟩

/-- Other documents submit nothing. -/
theorem submission_eq_ok_iff : submission freshId json = .ok fault ↔ Submits freshId fault json := by
  cases json with
  | object members =>
      rw [submission_object_eq_ok_iff]
      exact ⟨fun ⟨keys, describes⟩ => .object keys describes,
        fun | .object keys describes => ⟨keys, describes⟩⟩
  | array items =>
      rw [submission_array_eq_ok_iff]
      constructor
      · rintro ⟨id, source, target, delay, duration, rfl, describes⟩
        exact .array describes
      · rintro ⟨⟩
        exact ⟨_, _, _, _, _, rfl, ‹_›⟩
  | _ =>
      constructor
      · intro made
        obtain ⟨_, opened, -⟩ := bind_eq_ok_iff.mp made
        rw [Record.openFields] at opened
        · exact absurd opened (wrongType_ne_ok _ _ _)
        all_goals exact fun _ same => by contradiction
      · rintro ⟨⟩

/-- A body submits what its document submits. -/
theorem decodeSubmission_eq_ok_iff {body : List UInt8} :
    decodeSubmission freshId body = .ok fault ↔
      ∃ json, Json.read (Text.decodeUtf8 body) = some json ∧ Submits freshId fault json := by
  rw [decodeSubmission, decodeSymbols]
  cases Json.read (Text.decodeUtf8 body) with
  | none => simp
  | some json =>
      simp only [Option.some.injEq, exists_eq_left', ← submission_eq_ok_iff]
      cases submission freshId json with
      | ok made => rfl
      | error problem =>
          dsimp only
          split <;> simp

/-! ### Texts of durations -/

/-- A document gives a text for one of the durations of a fault: in a member of its name or at its
place. -/
inductive GivesDuration (text : String) : Json → Prop
  | member {members : List (List Symbol × Json)} {key : List Symbol} {json : Json}
      (there : (key, json) ∈ members)
      (named : characters? key = some "delay" ∨ characters? key = some "duration")
      (told : json.text? = some text) : GivesDuration text (.object members)
  | item {items : List Json} {json : Json} (there : items[3]? = some json ∨ items[4]? = some json)
      (told : json.text? = some text) : GivesDuration text (.array items)

/-- A text that is given for a duration is the text of a duration. -/
theorem parses_of_mem {given : List Json} {text : String} {d : Duration}
    (describes : ∃ text, given.map text? = [some text] ∧ Duration.parse text = .ok d)
    (there : json ∈ given) (told : json.text? = some text) : Duration.parse text = .ok d := by
  obtain ⟨only, single, parses⟩ := describes
  have member : some text ∈ given.map text? := told ▸ List.mem_map_of_mem there
  rw [single, List.mem_singleton, Option.some_inj] at member
  rwa [member]

theorem Submits.parses (submits : Submits freshId fault json) {text : String}
    (gives : GivesDuration text json) : ∃ d, Duration.parse text = .ok d := by
  cases gives with
  | member there named told =>
      cases submits with
      | object keys describes =>
          rcases named with named | named
          · have given := mem_valuesOf.mpr ⟨_, _, there, named, List.mem_singleton_self "delay"⟩
            exact ⟨_, parses_of_mem describes.delay given told⟩
          · have given := mem_valuesOf.mpr ⟨_, _, there, named, List.mem_singleton_self "duration"⟩
            exact ⟨_, parses_of_mem describes.duration given told⟩
  | item there told =>
      cases submits with
      | array describes =>
          rcases there with there | there
          · obtain rfl := Option.some.inj there
            exact ⟨_, parses_of_mem describes.delay List.mem_cons_self told⟩
          · obtain rfl := Option.some.inj there
            exact ⟨_, parses_of_mem describes.duration List.mem_cons_self told⟩

end Admin

end ServiceMesh
