import ServiceMesh.Proofs.Admin.Target

/-! The name of a service in the path under which its instances are requested. Whatever the name is, it
is spelled in one segment, from which its bytes are read again. -/
namespace ServiceMesh.Consul

open ServiceMesh.Text (pieces utf8)

variable {byte : UInt8} {rest : List Char}

/-! ### How segments are spelled -/

/-- The characters that mean nothing but themselves wherever they stand in a path. -/
def IsUnreservedChar (c : Char) : Prop := c.isAlphanum = true ∨ c ∈ "-_.~".toList

def IsUpperHexDigit (c : Char) : Prop := c ∈ "0123456789ABCDEF".toList

/-- Texts of unreserved characters, and of percent signs with two upper-case digits behind each. -/
inductive Spelled : List Char → Prop
  | nil : Spelled []
  | plain {c : Char} {rest : List Char} : IsUnreservedChar c → Spelled rest → Spelled (c :: rest)
  | triplet {high low : Char} {rest : List Char} : IsUpperHexDigit high → IsUpperHexDigit low →
      Spelled rest → Spelled ('%' :: high :: low :: rest)

theorem isUnreservedChar_of_isUnreserved (plain : isUnreserved byte = true) :
    IsUnreservedChar (Char.ofNat byte.toNat) := by
  simp only [isUnreserved, Bool.and_eq_true, Bool.or_eq_true, beq_iff_eq] at plain
  obtain ⟨-, (((letter | mark) | mark) | mark) | mark⟩ := plain
  · exact .inl (by rwa [Char.isAlphanum, Bool.or_eq_true])
  all_goals exact .inr (by simp [mark])

theorem isUpperHexDigit_hexDigit : ∀ n < 16, IsUpperHexDigit (hexDigit n) := by
  unfold IsUpperHexDigit
  decide

theorem spelled_encodeByte (byte : UInt8) (spelled : Spelled rest) :
    Spelled (encodeByte byte ++ rest) := by
  have bound := byte.toNat_lt
  unfold encodeByte
  split
  case isTrue plain => exact .plain (isUnreservedChar_of_isUnreserved plain) spelled
  case isFalse =>
    exact .triplet (isUpperHexDigit_hexDigit _ (by omega)) (isUpperHexDigit_hexDigit _ (by omega))
      spelled

theorem spelled_encodeSegment (text : String) : Spelled (encodeSegment text).toList := by
  rw [encodeSegment, String.toList_ofList]
  induction utf8 text with
  | nil => exact .nil
  | cons byte bytes ih =>
      rw [List.flatMap_cons]
      exact spelled_encodeByte byte ih

/-! ### How segments are read -/

theorem hexValue?_hexDigit : ∀ n < 16, hexValue? (hexDigit n) = some n := by decide

theorem decodeSegment?_plain (plain : isUnreserved byte = true) :
    decodeSegment? (Char.ofNat byte.toNat :: rest) = (decodeSegment? rest).map (byte :: ·) := by
  have ascii := toNat_lt_of_isUnreserved plain
  have code : (Char.ofNat byte.toNat).toNat = byte.toNat := by
    rw [Char.ofNat, dif_pos (.inl (by omega))]
    rfl
  have other : Char.ofNat byte.toNat ≠ '%' := by
    intro percent
    rw [percent] at code
    rw [← UInt8.ofNat_toNat (x := byte), ← code] at plain
    contradiction
  rw [decodeSegment?, code, UInt8.ofNat_toNat, plain, decide_eq_true ascii]
  · exact Option.map_eq_bind.symm
  · exact fun _ _ _ percent => absurd percent other

theorem decodeSegment?_triplet (byte : UInt8) (rest : List Char) :
    decodeSegment? ('%' :: hexDigit (byte.toNat / 16) :: hexDigit (byte.toNat % 16) :: rest) =
      (decodeSegment? rest).map (byte :: ·) := by
  have bound := byte.toNat_lt
  have whole : byte.toNat / 16 * 16 + byte.toNat % 16 = byte.toNat := Nat.div_add_mod' _ 16
  rw [decodeSegment?, hexValue?_hexDigit _ (by omega), hexValue?_hexDigit _ (by omega)]
  simp only [Option.bind_eq_bind, Option.bind_some, whole, UInt8.ofNat_toNat]
  exact Option.map_eq_bind.symm

theorem decodeSegment?_encodeByte (byte : UInt8) (rest : List Char) :
    decodeSegment? (encodeByte byte ++ rest) = (decodeSegment? rest).map (byte :: ·) := by
  unfold encodeByte
  split
  case isTrue plain => exact decodeSegment?_plain plain
  case isFalse => exact decodeSegment?_triplet byte rest

/-- A segment is read as the bytes of the text that it was made from. -/
theorem decodeSegment?_encodeSegment (text : String) :
    decodeSegment? (encodeSegment text).toList = some (utf8 text) := by
  rw [encodeSegment, String.toList_ofList]
  induction utf8 text with
  | nil => rfl
  | cons byte bytes ih =>
      rw [List.flatMap_cons, decodeSegment?_encodeByte, ih, Option.map_some]

theorem encodeSegment_injective : Function.Injective encodeSegment := by
  intro text other same
  have read := decodeSegment?_encodeSegment text
  rw [same, decodeSegment?_encodeSegment] at read
  exact (Text.utf8_injective (Option.some.inj read)).symm

/-! ### Paths -/

theorem toList_instancesPath (service : String) : (instancesPath service).toList =
    "/v1/health/service/".toList ++ (encodeSegment service).toList :=
  String.toList_append

/-- A service is told by the path of its instances. -/
theorem instancesPath_injective : Function.Injective instancesPath := by
  intro service other same
  have segments := congrArg String.toList same
  rw [toList_instancesPath, toList_instancesPath, List.append_right_inj] at segments
  exact encodeSegment_injective (String.toList_injective segments)

theorem pieces_instancesPath (service : String) : pieces '/' (instancesPath service).toList =
    ["", "v1", "health", "service", encodeSegment service].map String.toList := by
  have single : '/' ∉ (encodeSegment service).toList := slash_not_mem_encodeSegment
  rw [toList_instancesPath]
  simp only [List.map_cons, List.map_nil, String.toList_empty]
  generalize (encodeSegment service).toList = segment at single ⊢
  calc
    _ = pieces '/' ([] ++ '/' :: ("v1".toList ++ '/' :: ("health".toList ++ '/' ::
          ("service".toList ++ '/' :: segment)))) := rfl
    _ = _ := by
      rw [Text.pieces_append (by decide), Text.pieces_append (by decide),
        Text.pieces_append (by decide), Text.pieces_append (by decide),
        Text.pieces_of_notMem single]

theorem instancesPath_stays (service : String) :
    (instancesPath service).toList.all Admin.staysInPath = true := by
  have segment : (encodeSegment service).toList.all Admin.staysInPath = true :=
    List.all_eq_true.mpr fun c member =>
      Admin.staysInPath_of_isSegmentChar (isSegmentChar_of_mem member)
  rw [toList_instancesPath, List.all_append, segment, Bool.and_true]
  decide

/-- Whatever a service is called, its name is spelled with unreserved characters and triplets of a percent
sign and two upper-case digits, which are read as the bytes of the name. So different services have
different paths. The name takes one segment of its path and adds neither a query nor a fragment, and the
target of the request has that path and nothing else, unless it is too long for a target. -/
theorem instancesPath_embeds (service : String) :
    let segment := encodeSegment service
    let path := instancesPath service
    Spelled segment.toList ∧
      decodeSegment? segment.toList = some (utf8 service) ∧
      (∀ other, instancesPath other = path → other = service) ∧
      pieces '/' path.toList = ["", "v1", "health", "service", segment].map String.toList ∧
      '?' ∉ path.toList ∧ '#' ∉ path.toList ∧
      ∀ authority, authority ≠ "" → Admin.isAuthority authority.toList = true →
        Admin.targetPath? (address authority path) =
          if 65534 < (address authority path).utf8ByteSize then none else some path := by
  intro segment path
  have stays := instancesPath_stays service
  have absolute : path.toList.head? = some '/' := by
    rw [toList_instancesPath, List.head?_append]
    rfl
  refine ⟨spelled_encodeSegment service, decodeSegment?_encodeSegment service, ?_,
    pieces_instancesPath service, ?_, ?_, ?_⟩
  · intro other same
    exact instancesPath_injective same
  · intro question
    exact absurd (List.all_eq_true.mp stays _ question) (by decide)
  · intro hash
    exact absurd (List.all_eq_true.mp stays _ hash) (by decide)
  · intro authority named valid
    exact Admin.targetPath?_address valid named absolute stays

/-- A name that would divide a path, end it and pretend to be spelled. -/
theorem instancesPath_embeds_marks :
    let path := instancesPath "a b/c?d#%2F"
    path = "/v1/health/service/a%20b%2Fc%3Fd%23%252F" ∧ "[::1]:8500" ≠ "" ∧
      Admin.isAuthority "[::1]:8500".toList = true ∧
      Admin.targetPath? (address "[::1]:8500" path) = some path := by
  intro path
  have named : "[::1]:8500" ≠ "" := by decide
  have valid : Admin.isAuthority "[::1]:8500".toList = true := by decide
  obtain ⟨-, -, -, -, -, -, target⟩ := instancesPath_embeds "a b/c?d#%2F"
  have short : ¬ 65534 < (address "[::1]:8500" path).utf8ByteSize := by decide +kernel
  refine ⟨by decide +kernel, named, valid, ?_⟩
  rw [target _ named valid, if_neg short]

end ServiceMesh.Consul
