import ServiceMesh.Proofs.Json.Records
import ServiceMesh.Proofs.SortedMap
import ServiceMesh.Proofs.SortedSet
import ServiceMesh.Service.Codec

/-! Services that are shared as text are the same services on the other side, whatever characters
are in their names, and under whatever names they are filed. -/
namespace ServiceMesh

open ServiceMesh.Json

/-! ### Instances -/

/-- The members of an instance's document. -/
def Instance.fields (i : Instance) : List (String × Json) := [
  ("id", .ofString i.id), ("tags", .array (i.tags.toList.map .ofString)),
  ("address", .ofString i.address), ("port", .ofNat i.port.toNat), ("healthy", .bool i.healthy),
  ("regular", .bool i.regular), ("canary", .bool i.canary), ("weight", .ofNat i.weight.toNat)]

theorem Instance.decodeTags_array (tags : SortedSet String) :
    Instance.decodeTags (.array (tags.toList.map .ofString)) = .ok tags := by
  rw [decodeTags, sequence_map fun tag _ => string_ofString tag]
  exact congrArg Except.ok (SortedSet.ofList_toList tags)

theorem Instance.nodup_fields (i : Instance) : (i.fields.map Prod.fst).Nodup := by
  simp [fields]

theorem Instance.openFields_toJson (i : Instance) :
    Instance.record.openFields i.toJson = .ok i.fields.reverse := by
  refine record.openFields_record i.fields ?_ i.nodup_fields ?_
  · simp only [fields, List.forall_mem_cons]
    exact ⟨⟨_, rfl, rfl, check_required _ (string_ofString _)⟩,
      ⟨_, rfl, rfl, check_optional _ (decodeTags_array _)⟩,
      ⟨_, rfl, rfl, check_required _ (string_ofString _)⟩,
      ⟨_, rfl, rfl, check_required _ (word32_ofNat _)⟩,
      ⟨_, rfl, rfl, check_required _ (boolean_bool _)⟩,
      ⟨_, rfl, rfl, check_required _ (boolean_bool _)⟩,
      ⟨_, rfl, rfl, check_required _ (boolean_bool _)⟩,
      ⟨_, rfl, rfl, check_required _ (word32_ofNat _)⟩, by simp⟩
  · exact List.Subset.refl _

theorem Instance.decoder_toJson (i : Instance) : Instance.decoder i.toJson = .ok i := by
  have id : value i.fields.reverse "id" string = .ok i.id :=
    value_of_mem i.nodup_fields (by simp [fields]) (string_ofString _)
  have tags : valueOr i.fields.reverse "tags" decodeTags ∅ = .ok i.tags :=
    valueOr_of_mem i.nodup_fields (by simp [fields]) (decodeTags_array _) ∅
  have address : value i.fields.reverse "address" string = .ok i.address :=
    value_of_mem i.nodup_fields (by simp [fields]) (string_ofString _)
  have port : value i.fields.reverse "port" word32 = .ok i.port :=
    value_of_mem i.nodup_fields (by simp [fields]) (word32_ofNat _)
  have healthy : value i.fields.reverse "healthy" boolean = .ok i.healthy :=
    value_of_mem i.nodup_fields (by simp [fields]) (boolean_bool _)
  have regular : value i.fields.reverse "regular" boolean = .ok i.regular :=
    value_of_mem i.nodup_fields (by simp [fields]) (boolean_bool _)
  have canary : value i.fields.reverse "canary" boolean = .ok i.canary :=
    value_of_mem i.nodup_fields (by simp [fields]) (boolean_bool _)
  have weight : value i.fields.reverse "weight" word32 = .ok i.weight :=
    value_of_mem i.nodup_fields (by simp [fields]) (word32_ofNat _)
  simp only [decoder, openFields_toJson, ok_bind, id, tags, address, port, healthy, regular, canary,
    weight]
  rfl

theorem exact_word (n : UInt32) : Exact (.ofNat n.toNat) :=
  .number (Nat.lt_trans n.toNat_lt_size (by decide))

theorem Instance.exact_toJson (i : Instance) : Exact i.toJson := by
  refine .record i.fields ?_
  simp only [fields, List.forall_mem_cons]
  exact ⟨.ofString _, .array (List.forall_mem_map.mpr fun _ _ => .ofString _), .ofString _,
    exact_word _, .bool _, .bool _, .bool _, exact_word _, by simp⟩

/-! ### Services -/

theorem Service.decodeInstances_array (instances : SortedSet Instance) :
    Service.decodeInstances (.array (instances.toList.map Instance.toJson)) = .ok instances := by
  rw [decodeInstances, sequence_map fun i _ => Instance.decoder_toJson i]
  exact congrArg Except.ok (SortedSet.ofList_toList instances)

/-- The members of a service's document. -/
def Service.fields (service : Service) : List (String × Json) := [
  ("serviceName", .ofString service.name),
  ("instances", .array (service.instances.toList.map Instance.toJson))]

theorem Service.nodup_fields (service : Service) : (service.fields.map Prod.fst).Nodup := by
  simp [fields]

theorem Service.openFields_toJson (service : Service) :
    Service.record.openFields service.toJson = .ok service.fields.reverse := by
  refine record.openFields_record service.fields ?_ service.nodup_fields ?_
  · simp only [fields, List.forall_mem_cons]
    exact ⟨⟨_, rfl, rfl, check_required _ (string_ofString _)⟩,
      ⟨_, rfl, rfl, check_optional _ (decodeInstances_array _)⟩, by simp⟩
  · exact List.Subset.refl _

theorem Service.decoder_toJson (service : Service) :
    Service.decoder service.toJson = .ok service := by
  have name : value service.fields.reverse "serviceName" string = .ok service.name :=
    value_of_mem service.nodup_fields (by simp [fields]) (string_ofString _)
  have instances : valueOr service.fields.reverse "instances" decodeInstances ∅ =
      .ok service.instances :=
    valueOr_of_mem service.nodup_fields (by simp [fields]) (decodeInstances_array _) ∅
  simp only [decoder, openFields_toJson, ok_bind, name, instances]
  rfl

theorem Service.exact_toJson (service : Service) : Exact service.toJson := by
  refine .record service.fields ?_
  simp only [fields, List.forall_mem_cons]
  exact ⟨.ofString _, .array (List.forall_mem_map.mpr fun i _ => i.exact_toJson), by simp⟩

/-- The text of a service tells which service it is. -/
theorem Service.eq_of_render_eq {service other : Service}
    (same : service.toJson.render = other.toJson.render) : service = other := by
  have own := service.exact_toJson.decodeSymbols_render service.decoder_toJson
  rw [same, other.exact_toJson.decodeSymbols_render other.decoder_toJson] at own
  exact (Except.ok.inj own).symm

theorem Services.decodeNames_record (byName : SortedMap String Service) :
    Services.decodeNames (.record (byName.entries.map fun entry => (entry.1, entry.2.toJson))) =
      .ok byName := by
  rw [decodeNames, members_map fun entry _ => Service.decoder_toJson entry.2]
  exact congrArg Except.ok (SortedMap.ofList_entries byName)

/-- The members of the document of all services. -/
def Services.fields (services : Services) : List (String × Json) := [
  ("serviceNameToInstances",
    .record (services.byName.entries.map fun entry => (entry.1, entry.2.toJson)))]

theorem Services.nodup_fields (services : Services) : (services.fields.map Prod.fst).Nodup := by
  simp [fields]

theorem Services.openFields_toJson (services : Services) :
    Services.record.openFields services.toJson = .ok services.fields.reverse := by
  refine record.openFields_record services.fields ?_ services.nodup_fields ?_
  · simp only [fields, List.forall_mem_cons]
    exact ⟨⟨_, rfl, rfl, check_optional _ (decodeNames_record _)⟩, by simp⟩
  · exact List.Subset.refl _

theorem Services.decoder_toJson (services : Services) :
    Services.decoder services.toJson = .ok services := by
  have byName : valueOr services.fields.reverse "serviceNameToInstances" decodeNames ∅ =
      .ok services.byName :=
    valueOr_of_mem services.nodup_fields (by simp [fields]) (decodeNames_record _) ∅
  simp only [decoder, openFields_toJson, ok_bind, byName]
  rfl

theorem Services.exact_toJson (services : Services) : Exact services.toJson := by
  refine .record services.fields ?_
  simp only [fields, List.forall_mem_cons]
  exact ⟨.record _ (List.forall_mem_map.mpr fun entry _ => entry.2.exact_toJson), by simp⟩

/-- Services are decoded from their text as they are. -/
theorem Services.decodeSymbols_render (services : Services) :
    decodeSymbols Services.decoder (services.toJson.render.toList.map some) = .ok services :=
  services.exact_toJson.decodeSymbols_render services.decoder_toJson

/-- Services, each service and each instance are told by their texts, whatever characters are in
their names, ids, tags and addresses, whatever their ports and weights are, and under whatever names
services are filed. -/
theorem texts_tell :
    ToldByText Services.decoder Services.toJson ∧ ToldByText Service.decoder Service.toJson ∧
      ToldByText Instance.decoder Instance.toJson :=
  ⟨.of_exact Services.exact_toJson Services.decoder_toJson,
    .of_exact Service.exact_toJson Service.decoder_toJson,
    .of_exact Instance.exact_toJson Instance.decoder_toJson⟩

end ServiceMesh
