import ServiceMesh.Proofs.Admin.Rejection
import ServiceMesh.Proofs.Duration.RoundTrip

/-! Which faults are decoded from their own documents: those with durations that come back from their texts.
Other faults are answered and listed with texts of other faults. -/
namespace ServiceMesh

open ServiceMesh.Json

namespace Fault

variable {fault other : Fault} {delay duration : Duration}

/-! ### Documents of faults -/

/-- The members of a fault's document. -/
def fields (fault : Fault) : List (String × Json) := [
  ("id", .ofString fault.id), ("source", .ofString fault.source.pattern),
  ("target", .ofString fault.target.pattern), ("delay", fault.delay.toJson),
  ("duration", fault.duration.toJson)]

theorem nodup_fields (fault : Fault) : (fault.fields.map Prod.fst).Nodup := by
  simp [fields]

theorem exact_toJson (fault : Fault) : Exact fault.toJson := by
  refine .record fault.fields ?_
  simp only [fields, List.forall_mem_cons]
  exact ⟨.ofString _, .ofString _, .ofString _, .ofString _, .ofString _, by simp⟩

theorem record_clear : Fault.record.Clear := by
  simp [Record.Clear, record, effectFields, Field.names, Field.required, Field.alsoCalled]

theorem duration_toJson_eq_ok_iff : Json.duration delay.toJson = .ok duration ↔
    Duration.parse delay.render = .ok duration := by
  have told : delay.toJson.text? = some delay.render := characters?_toList delay.render
  simp [duration_eq_ok_iff, told]

theorem selector_ofString (selector : Selector) :
    Selector.decoder (.ofString selector.pattern) = .ok selector := by
  rw [Selector.decoder, string_ofString]
  rfl

/-- A fault is decoded from its document up to its durations, which are read from their texts. -/
theorem decoder_toJson (delays : Duration.parse fault.delay.render = .ok delay)
    (lasts : Duration.parse fault.duration.render = .ok duration) :
    Fault.decoder fault.toJson = .ok { fault with delay, duration } := by
  have delays := duration_toJson_eq_ok_iff.mpr delays
  have lasts := duration_toJson_eq_ok_iff.mpr lasts
  have opened : Fault.record.openFields fault.toJson = .ok fault.fields.reverse := by
    refine record.openFields_record fault.fields ?_ fault.nodup_fields (List.Subset.refl _)
    simp only [fields, List.forall_mem_cons]
    exact ⟨⟨_, rfl, rfl, check_required "id" (string_ofString _)⟩,
      ⟨_, rfl, rfl, check_required "source" (selector_ofString _)⟩,
      ⟨_, rfl, rfl, check_required "target" (selector_ofString _)⟩,
      ⟨_, rfl, rfl, check_required "delay" delays⟩, ⟨_, rfl, rfl, check_required "duration" lasts⟩, by simp⟩
  have id : value fault.fields.reverse "id" string = .ok fault.id :=
    value_of_mem fault.nodup_fields (by simp [fields]) (string_ofString _)
  have source : value fault.fields.reverse "source" Selector.decoder = .ok fault.source :=
    value_of_mem fault.nodup_fields (by simp [fields]) (selector_ofString _)
  have target : value fault.fields.reverse "target" Selector.decoder = .ok fault.target :=
    value_of_mem fault.nodup_fields (by simp [fields]) (selector_ofString _)
  have delay : value fault.fields.reverse "delay" Json.duration = .ok delay :=
    value_of_mem fault.nodup_fields (by simp [fields]) delays
  have duration : value fault.fields.reverse "duration" Json.duration = .ok duration :=
    value_of_mem fault.nodup_fields (by simp [fields]) lasts
  simp only [decoder, opened, ok_bind, id, ofFields, source, target, delay, duration]
  rfl

/-- Without a text that can be read for each duration there is nothing to decode. -/
theorem reads_of_decoder (decoded : Fault.decoder fault.toJson = .ok other) :
    (∃ d, Duration.parse fault.delay.render = .ok d) ∧ ∃ d, Duration.parse fault.duration.render = .ok d := by
  obtain ⟨values, opened, -⟩ := bind_eq_ok_iff.mp decoded
  have read (name : String) {d : Duration} (known : .required name Json.duration ∈ Fault.record.fields)
      (member : (name, d.toJson) ∈ fault.fields) : ∃ e, Duration.parse d.render = .ok e := by
    have fit := record_clear.check_of_opened known member opened
    obtain ⟨e, value⟩ := Field.check_eq_ok_iff.mp fit
    exact ⟨e, duration_toJson_eq_ok_iff.mp value⟩
  constructor
  · exact read "delay" (by simp [record, effectFields]) (by simp [fields])
  · exact read "duration" (by simp [record, effectFields]) (by simp [fields])

/-- What is decoded from the document of a fault differs from it in the durations at most. -/
theorem decoder_toJson_eq_ok_iff : Fault.decoder fault.toJson = .ok fault ↔
    Duration.parse fault.delay.render = .ok fault.delay ∧
      Duration.parse fault.duration.render = .ok fault.duration := by
  constructor
  · intro decoded
    obtain ⟨⟨d, delays⟩, e, lasts⟩ := reads_of_decoder decoded
    have same := Except.ok.inj ((decoder_toJson delays lasts).symm.trans decoded)
    rw [delays, lasts]
    exact ⟨congrArg Except.ok (congrArg Fault.delay same), congrArg Except.ok (congrArg Fault.duration same)⟩
  · rintro ⟨delays, lasts⟩
    exact decoder_toJson delays lasts

end Fault

/-! ### Listings -/

/-- The record of a listing as a reader opens it. -/
def listingRecord : Record := ⟨"FaultList", [.required "experimentList" (Json.sequence Fault.decoder)]⟩

/-- The faults that a reader takes from a listing. -/
def listingDecoder : Decoder (List Fault) := fun json => do
  let fields ← listingRecord.openFields json
  Json.value fields "experimentList" (Json.sequence Fault.decoder)

theorem listingRecord_clear : listingRecord.Clear := by simp [Record.Clear, listingRecord]

variable {faults : List Fault}

theorem exact_faultListJson (faults : List Fault) : Exact (Admin.faultListJson faults) := by
  refine .record [("experimentList", .array (faults.map Fault.toJson))] ?_
  rw [List.forall_mem_singleton]
  exact .array (List.forall_mem_map.mpr fun fault _ => fault.exact_toJson)

theorem listingDecoder_faultListJson {listed : List Fault}
    (decoded : (faults.map Fault.toJson).mapM Fault.decoder = .ok listed) :
    listingDecoder (Admin.faultListJson faults) = .ok listed := by
  let fields : List (String × Json) := [("experimentList", .array (faults.map Fault.toJson))]
  have distinct : (fields.map Prod.fst).Nodup := by simp [fields]
  have sequence : Json.sequence Fault.decoder (.array (faults.map Fault.toJson)) = .ok listed := decoded
  have opened : listingRecord.openFields (Admin.faultListJson faults) = .ok fields.reverse := by
    refine listingRecord.openFields_record fields ?_ distinct (List.Subset.refl _)
    rw [List.forall_mem_singleton]
    exact ⟨_, rfl, rfl, check_required "experimentList" sequence⟩
  have value : value fields.reverse "experimentList" (Json.sequence Fault.decoder) = .ok listed :=
    value_of_mem distinct List.mem_cons_self sequence
  simp only [listingDecoder, opened, ok_bind, value]

theorem forall_of_mapM (decoded : (faults.map Fault.toJson).mapM Fault.decoder = .ok faults) :
    ∀ fault ∈ faults, Fault.decoder fault.toJson = .ok fault := by
  induction faults with
  | nil =>
      intro _ member
      contradiction
  | cons first faults ih =>
      rw [List.map_cons, List.mapM_cons] at decoded
      obtain ⟨a, one, rest⟩ := bind_eq_ok_iff.mp decoded
      obtain ⟨others, more, whole⟩ := bind_eq_ok_iff.mp rest
      obtain ⟨rfl, rfl⟩ := List.cons.inj (Except.ok.inj whole)
      exact List.forall_mem_cons.mpr ⟨one, ih more⟩

/-- A listing is decoded to the faults that were listed exactly if each of them comes back. -/
theorem listingDecoder_eq_ok_iff : listingDecoder (Admin.faultListJson faults) = .ok faults ↔
    ∀ fault ∈ faults, Fault.decoder fault.toJson = .ok fault := by
  constructor
  · intro decoded
    obtain ⟨values, opened, -⟩ := bind_eq_ok_iff.mp decoded
    have fit := listingRecord_clear.check_of_opened List.mem_cons_self List.mem_cons_self opened
    obtain ⟨listed, sequence⟩ := Field.check_eq_ok_iff.mp fit
    obtain rfl := Except.ok.inj ((listingDecoder_faultListJson sequence).symm.trans decoded)
    exact forall_of_mapM sequence
  · intro each
    exact listingDecoder_faultListJson (mapM_decoder each)

/-! ### Answers -/

/-- One number with a unit denotes the duration. -/
def Duration.Single (d : Duration) : Prop := ∃ part : Duration.Component, part.Measures d

/-- Each duration of the fault is denoted by one number with a unit. -/
def Fault.Single (fault : Fault) : Prop := fault.delay.Single ∧ fault.duration.Single

theorem Fault.decoder_toJson_iff_single {fault : Fault} :
    Fault.decoder fault.toJson = .ok fault ↔ fault.Single := by
  rw [Fault.decoder_toJson_eq_ok_iff, Duration.parse_render_eq_ok_iff, Duration.parse_render_eq_ok_iff]
  rfl

namespace Admin

variable {api : Api} {now : Time} {freshId text : String} {body : List UInt8}

theorem Response.eq_of_json_eq {a b : String} (same : Response.json a = .json b) : a = b :=
  Body.text.inj (congrArg Response.body same)

theorem Response.ne_json {response : Response} (other : response.status ≠ 200) : response ≠ .json text := by
  rintro rfl
  exact other rfl

/-- An answer that shows the submitted fault shows it such that it comes back, if it is a single one. -/
theorem Api.submitFault_text (answered : (api.submitFault now freshId body).1 = .json text) :
    ∃ fault, decodeSubmission freshId body = .ok fault ∧
      (decodeString Fault.decoder text = .ok fault ↔ fault.Single) := by
  have taken := api.submitFault_taken now freshId body
  generalize api.submitFault now freshId body = answer at taken answered
  cases taken with
  | tooLarge => exact absurd answered (Response.ne_json (by simp))
  | malformed => exact absurd answered (Response.ne_json (by simp))
  | unreachable => exact absurd answered (Response.ne_json (by simp))
  | @accepted fault short submits reachable =>
      obtain rfl := Response.eq_of_json_eq answered
      exact ⟨fault, submits, fault.exact_toJson.decodeString_render_iff.trans Fault.decoder_toJson_iff_single⟩

theorem Api.listFaults_text (answered : (api.listFaults now).1 = .json text) :
    decodeString listingDecoder text = .ok (api.faults.store.live now) ↔
      ∀ fault ∈ api.faults.store.live now, fault.Single := by
  have whole : text = (faultListJson (api.faults.store.live now)).render := by
    unfold Api.listFaults at answered
    cases found : api.faults.list now with
    | error problem =>
        rw [found] at answered
        exact absurd answered (Response.ne_json (by simp))
    | ok listing =>
        obtain ⟨listed, rest⟩ := listing
        obtain ⟨-, rfl, -⟩ := FaultService.list_eq_ok_iff.mp found
        rw [found] at answered
        exact (Response.eq_of_json_eq answered).symm
  rw [whole, (exact_faultListJson _).decodeString_render_iff, listingDecoder_eq_ok_iff]
  simp only [Fault.decoder_toJson_iff_single]

end Admin

open Admin Duration in
/-- A duration comes back from its text exactly if one number with a unit denotes it. Those of up to 2^23
seconds are denoted by one, and so is all that a text of one component is read as; what else is read from
the text is off by half a nanosecond and the rounding of a float at most, and only the last 1024 seconds
below 2^64 cannot be read. A fault comes back from the answer to its submission, and faults from their
listing, exactly if their durations do. -/
theorem Duration.comes_back_iff_single (d : Duration) :
    ((parse d.render = .ok d ↔ d.Single) ∧
      (d.nanos ≤ 8_388_608 * 1_000_000_000 → d.Single) ∧
      ((∃ e, parse d.render = .ok e) ↔ d.nanos < 18_446_744_073_709_550_592 * 1_000_000_000) ∧
      ∀ e, parse d.render = .ok e → 2 ^ 53 * ((e.nanos : Int) - d.nanos).natAbs ≤ d.nanos + 2 ^ 52) ∧
    (∀ text part e, Lists text.toList [part] → parse text = .ok e → e.Single) ∧
    (∀ api now freshId body text, (Api.submitFault api now freshId body).1 = .json text →
      ∃ fault, decodeSubmission freshId body = .ok fault ∧
        (decodeString Fault.decoder text = .ok fault ↔ fault.Single)) ∧
    ∀ api now text, (Api.listFaults api now).1 = .json text →
      (decodeString listingDecoder text = .ok (api.faults.store.live now) ↔
        ∀ fault ∈ api.faults.store.live now, fault.Single) := by
  refine ⟨⟨parse_render_eq_ok_iff, ?_, ?_, fun e => error_of_parse_render⟩, ?_,
    fun _ _ _ _ _ => Api.submitFault_text, fun _ _ _ => Api.listFaults_text⟩
  · intro limit
    exact parse_render_eq_ok_iff.mp (parse_render_of_le_limit limit)
  · obtain ⟨part, lists⟩ := lists_render d
    have bounded : Bounded (parse d.render) := lists.parseChars_bounded
    rw [← not_iff_not, ← bounded.eq_overflow_iff, not_lt]
    exact parse_render_overflow_iff
  · intro text part e lists read
    rw [parse, lists.parseChars_eq, sum_singleton] at read
    exact ⟨part, Component.toDuration_eq_ok_iff.mp read⟩

/-- The submission of a fault with some delay, for an hour. -/
def hourBody (delay : String) : List UInt8 :=
  Text.utf8 ("\x7b\"id\":\"slow\",\"source\":\"*\",\"target\":\"a\"," ++
    "\"delay\":\"" ++ delay ++ "\",\"duration\":\"1h\"\x7d")

/-- The fault that it submits. -/
def hourFault (delay : Duration) : Fault :=
  ⟨"slow", ⟨"*"⟩, ⟨"a"⟩, delay, ⟨3600 * 1_000_000_000, by decide⟩⟩

open Admin Duration in
/-- A delay of one and a half seconds, as a duration and in a fault. -/
theorem Duration.comes_back_iff_single_delay :
    let d : Duration := ⟨1_500_000_000, by decide⟩
    let api : Api := ⟨true, .start, none, []⟩
    let answer := api.submitFault 0 "" (hourBody "1.5s")
    let listing := Api.listFaults ⟨true, answer.2, none, []⟩ 0
    (∃ e, parse d.render = .ok e ∧ 2 ^ 53 * ((e.nanos : Int) - d.nanos).natAbs ≤ d.nanos + 2 ^ 52) ∧
      (∃ text, answer.1 = .json text ∧ decodeString Fault.decoder text = .ok (hourFault d)) ∧
      ∃ text, listing.1 = .json text ∧ decodeString listingDecoder text = .ok [hourFault d] := by
  intro d api answer listing
  obtain ⟨⟨told_iff, fine, -, close⟩, texts, answers, listings⟩ := comes_back_iff_single d
  have short : d.Single := fine (by decide)
  have lists : Lists "1h".toList [⟨['1'], ['h']⟩] := by
    refine ⟨List.cons_ne_nil _ _, ?_, rfl⟩
    rw [List.forall_mem_singleton]
    have value : Component.toDuration ⟨['1'], ['h']⟩ = .ok (hourFault d).duration := by decide +kernel
    exact (Component.toDuration_eq_ok_iff.mp value).wellFormed
  have hour : (hourFault d).duration.Single := texts "1h" _ _ lists (by decide +kernel)
  have answered : answer.1 = .json (hourFault d).toJson.render := by decide +kernel
  have listed : listing.1 = .json (faultListJson [hourFault d]).render := by decide +kernel
  have live : answer.2.store.live 0 = [hourFault d] := by decide +kernel
  have submits : (decodeSubmission "" (hourBody "1.5s")).toOption = some (hourFault d) := by decide +kernel
  obtain ⟨fault, made, told⟩ := answers api 0 "" (hourBody "1.5s") _ answered
  obtain rfl : fault = hourFault d := by
    rw [made] at submits
    exact Option.some.inj submits
  have back := told_iff.mpr short
  refine ⟨⟨d, back, close d back⟩, ⟨_, answered, told.mpr ⟨short, hour⟩⟩, _, listed, ?_⟩
  have all := (listings ⟨true, answer.2, none, []⟩ 0 _ listed).mpr
  dsimp only at all
  rw [live, List.forall_mem_singleton] at all
  exact all ⟨short, hour⟩

open Admin Duration in
/-- A delay of 2^23 seconds and a nanosecond is shown as it is, but read as one nanosecond more, and so is
the fault that was submitted with it. -/
theorem Duration.sum_comes_back_changed :
    let d : Duration := ⟨8_388_608_000_000_001, by decide⟩
    let e : Duration := ⟨8_388_608_000_000_002, by decide⟩
    let api : Api := ⟨true, .start, none, []⟩
    parse "8388608s1ns" = .ok d ∧ d.render = "8388608.000000001s" ∧ parse d.render = .ok e ∧
      (api.submitFault 0 "" (hourBody "8388608s1ns")).1 = .json (hourFault d).toJson.render ∧
      decodeString Fault.decoder (hourFault d).toJson.render = .ok (hourFault e) := by
  intro d e api
  have shown : d.render = "8388608.000000001s" := by decide +kernel
  have read : parse d.render = .ok e := by decide +kernel
  have lasts : parse (hourFault d).duration.render = .ok (hourFault d).duration := by decide +kernel
  refine ⟨by decide +kernel, shown, read, by decide +kernel, ?_⟩
  exact (hourFault d).exact_toJson.decodeString_render_iff.mpr (Fault.decoder_toJson read lasts)

end ServiceMesh
