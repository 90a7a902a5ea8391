import ServiceMesh.Proofs.SortedMap
import ServiceMesh.Wire.Message

/-! Messages are read as they are written. What is read of a field depends on the part of the
message that was written for it, since no other part has its number. -/
namespace ServiceMesh.Wire

/-! ### Bytes -/

/-- A number is read back, whatever follows it. -/
theorem decodeNumber?_encodeNumber (n : Nat) (rest : List UInt8) :
    decodeNumber? (encodeNumber n ++ rest) = some (n, rest) := by
  induction n using Nat.strongRecOn with
  | ind n ih =>
      have byte {m : Nat} (small : m < 256) : (UInt8.ofNat m).toNat = m := by
        rw [UInt8.toNat_ofNat', Nat.mod_eq_of_lt small]
      rw [encodeNumber]
      split
      case isTrue last =>
        rw [List.singleton_append, decodeNumber?, byte (by omega), if_pos last]
      case isFalse more =>
        rw [List.cons_append, decodeNumber?, byte (by omega), if_neg (by omega), ih _ (by omega),
          Option.map_some]
        simp only [Option.some.injEq, Prod.mk.injEq, and_true]
        omega

/-- A field is read back, whatever follows it. -/
theorem decodeField?_encode (field : Field) (rest : List UInt8) :
    decodeField? (field.encode ++ rest) = some (field, rest) := by
  obtain ⟨n, value⟩ := field
  cases value with
  | number value =>
      have kind : n * 8 % 8 = 0 := Nat.mul_mod_left n 8
      have own : n * 8 / 8 = n := Nat.mul_div_cancel n (by decide)
      simp only [Field.encode, decodeField?, List.append_assoc, decodeNumber?_encodeNumber,
        Option.bind_eq_bind, Option.bind_some, kind, own, UInt64.ofNat_toNat]
      rfl
  | bytes content =>
      have kind : (n * 8 + 2) % 8 = 2 := by omega
      have own : (n * 8 + 2) / 8 = n := by omega
      have all : ¬ (content ++ rest).length < content.length := by
        rw [List.length_append]
        omega
      simp only [Field.encode, decodeField?, List.append_assoc, decodeNumber?_encodeNumber,
        Option.bind_eq_bind, Option.bind_some, kind, own, if_neg all, List.take_left,
        List.drop_left]
      rfl

theorem encodeNumber_ne_nil (n : Nat) : encodeNumber n ≠ [] := by
  rw [encodeNumber]
  split <;> exact List.cons_ne_nil _ _

theorem Field.encode_ne_nil (field : Field) : field.encode ≠ [] := by
  obtain ⟨n, value⟩ := field
  cases value with
  | number value => exact List.append_ne_nil_of_left_ne_nil (encodeNumber_ne_nil _) _
  | bytes content =>
      exact List.append_ne_nil_of_left_ne_nil
        (List.append_ne_nil_of_left_ne_nil (encodeNumber_ne_nil _) _) _

/-- There is fuel for each field, since each takes a byte at least. -/
theorem decodeWithin?_encode (message : Message) {fuel : Nat}
    (enough : (encode message).length ≤ fuel) :
    decodeWithin? fuel (encode message) = some message := by
  induction message generalizing fuel with
  | nil => cases fuel <;> rfl
  | cons field message ih =>
      have split : encode (field :: message) = field.encode ++ encode message := List.flatMap_cons
      obtain ⟨byte, more, written⟩ := List.exists_cons_of_ne_nil field.encode_ne_nil
      rw [split, List.length_append] at enough
      rw [split]
      cases fuel with
      | zero =>
          rw [written, List.length_cons] at enough
          omega
      | succ fuel =>
          have first := decodeField?_encode field (encode message)
          rw [written, List.length_cons] at enough
          rw [written, List.cons_append] at first ⊢
          rw [decodeWithin?, first, Option.bind_eq_bind, Option.bind_some]
          · dsimp only
            rw [ih (by omega)]
            rfl
          · exact List.cons_ne_nil _ _

/-- The bytes of a message tell it. -/
theorem decode?_encode (message : Message) : decode? (encode message) = some message :=
  decodeWithin?_encode message (Nat.le_refl _)

/-! ### Fields -/

/-- All fields of a part of a message have one number. -/
def Numbered (n : Nat) (part : Message) : Prop := ∀ field ∈ part, field.number = n

namespace Message

variable {n : Nat} {message : Message}

@[simp] theorem values_append (front back : Message) (n : Nat) :
    values (front ++ back) n = values front n ++ values back n := by
  rw [values, List.filter_append, List.map_append, values, values]

/-- A part of a message has to do with the field that it was written for alone. -/
theorem values_of_numbered {own : Nat} {part : Message} (numbered : Numbered own part) (n : Nat) :
    values part n = if own = n then part.map Field.value else [] := by
  rw [values]
  split
  case isTrue same =>
    rw [List.filter_eq_self.mpr fun field member => beq_iff_eq.mpr ((numbered field member).trans same)]
  case isFalse apart =>
    rw [List.filter_eq_nil_iff.mpr, List.map_nil]
    intro field member same
    exact apart ((numbered field member).symm.trans (beq_iff_eq.mp same))

@[simp] theorem values_number (own : Nat) (value : UInt64) (n : Nat) :
    values (Wire.number own value) n =
      if own = n then (Wire.number own value).map Field.value else [] := by
  apply values_of_numbered
  intro field member
  unfold Wire.number at member
  split at member
  · contradiction
  · rw [List.mem_singleton.mp member]

@[simp] theorem values_presentNumber (own : Nat) (value : Option UInt64) (n : Nat) :
    values (Wire.presentNumber own value) n =
      if own = n then (Wire.presentNumber own value).map Field.value else [] := by
  apply values_of_numbered
  intro field member
  cases value with
  | none => contradiction
  | some value => rw [List.mem_singleton.mp member]

@[simp] theorem values_flag (own : Nat) (value : Bool) (n : Nat) :
    values (Wire.flag own value) n =
      if own = n then (Wire.flag own value).map Field.value else [] := by
  apply values_of_numbered
  intro field member
  cases value with
  | false => contradiction
  | true => rw [List.mem_singleton.mp member]

@[simp] theorem values_text (own : Nat) (value : String) (n : Nat) :
    values (text own value) n = if own = n then (text own value).map Field.value else [] := by
  apply values_of_numbered
  intro field member
  unfold text at member
  split at member
  · contradiction
  · rw [List.mem_singleton.mp member]

@[simp] theorem values_texts (own : Nat) (texts : List String) (n : Nat) :
    values (Wire.texts own texts) n =
      if own = n then (Wire.texts own texts).map Field.value else [] := by
  apply values_of_numbered
  intro field member
  obtain ⟨value, -, rfl⟩ := List.mem_map.mp member
  rfl

@[simp] theorem values_messages (own : Nat) (messages : List Message) (n : Nat) :
    values (Wire.messages own messages) n =
      if own = n then (Wire.messages own messages).map Field.value else [] := by
  apply values_of_numbered
  intro field member
  obtain ⟨value, -, rfl⟩ := List.mem_map.mp member
  rfl

@[simp] theorem values_entries (own : Nat) (map : SortedMap String String) (n : Nat) :
    values (Wire.entries own map) n =
      if own = n then (Wire.entries own map).map Field.value else [] :=
  values_messages own _ n

/-! ### Reading what was written -/

theorem presentNumber_of_values {value : Option UInt64}
    (written : message.values n = (Wire.presentNumber n value).map Field.value) :
    message.presentNumber n = value := by
  rw [presentNumber, written]
  cases value <;> rfl

/-- A zero that is left out is read as zero. -/
theorem number_of_values {value : UInt64}
    (written : message.values n = (Wire.number n value).map Field.value) :
    message.number n = value := by
  rw [number, presentNumber, written]
  unfold Wire.number
  split
  case isTrue zero => exact zero.symm
  case isFalse => rfl

theorem flag_of_values {value : Bool}
    (written : message.values n = (Wire.flag n value).map Field.value) :
    message.flag n = value := by
  rw [flag, number, presentNumber, written]
  cases value <;> rfl

theorem fromUTF8?_utf8 (s : String) : String.fromUTF8? ⟨(Text.utf8 s).toArray⟩ = some s := by
  have valid : s.toByteArray.IsValidUTF8 := s.isValidUTF8
  rw [Text.utf8, Array.toArray_toList, String.fromUTF8?, String.toUTF8, dif_pos valid]
  rfl

variable {α : Type}

/-- Runs of bytes are read in the order in which they were written. -/
theorem mapM_runs_of_values {list : List α} (content : α → List UInt8)
    {read? : List UInt8 → Option α} (reads : ∀ a ∈ list, read? (content a) = some a)
    (written : message.values n = list.map fun a => .bytes (content a)) :
    (message.runs n).mapM read? = some list := by
  have runs : message.runs n = list.map content := by
    rw [Message.runs, written, List.filterMap_map]
    exact congrFun (List.filterMap_eq_map' ) list
  rw [runs]
  clear written runs
  induction list with
  | nil => rfl
  | cons a list ih =>
      obtain ⟨first, others⟩ := List.forall_mem_cons.mp reads
      rw [List.map_cons, List.mapM_cons, first, ih others]
      rfl

theorem texts?_of_values {texts : List String}
    (written : message.values n = (Wire.texts n texts).map Field.value) :
    message.texts? n = some texts := by
  rw [Wire.texts, List.map_map] at written
  exact mapM_runs_of_values Text.utf8 (fun s _ => fromUTF8?_utf8 s) written

/-- A text that is left out is read as the empty one. -/
theorem text?_of_values {value : String}
    (written : message.values n = (text n value).map Field.value) :
    message.text? n = some value := by
  unfold text at written
  split at written
  case isTrue none =>
    have read : message.texts? n = some [] := texts?_of_values written
    rw [text?, read]
    exact congrArg some (String.isEmpty_iff.mp none).symm
  case isFalse =>
    have read : message.texts? n = some [value] := texts?_of_values written
    rw [text?, read]
    rfl

/-- Messages are read back if each of them is. -/
theorem messages?_of_values {toMessage : α → Message} {ofMessage? : Message → Option α}
    {list : List α} (reads : ∀ a ∈ list, ofMessage? (toMessage a) = some a)
    (written : message.values n = (Wire.messages n (list.map toMessage)).map Field.value) :
    message.messages? n ofMessage? = some list := by
  rw [Wire.messages, List.map_map, List.map_map] at written
  refine mapM_runs_of_values (fun a => encode (toMessage a)) (fun a member => ?_) written
  rw [decode?_encode]
  exact reads a member

/-- A map is read back, also an entry of an empty key or an empty value. -/
theorem entries?_of_values {map : SortedMap String String}
    (written : message.values n = (Wire.entries n map).map Field.value) :
    message.entries? n = some map := by
  have pairs : message.messages? n (fun entry => do
      return (← entry.text? 1, ← entry.text? 2)) = some map.entries := by
    refine messages?_of_values (fun entry _ => ?_) written
    have key : Message.text? (text 1 entry.1 ++ text 2 entry.2) 1 = some entry.1 :=
      text?_of_values (by simp)
    have value : Message.text? (text 1 entry.1 ++ text 2 entry.2) 2 = some entry.2 :=
      text?_of_values (by simp)
    rw [key, value]
    rfl
  rw [entries?, pairs]
  exact congrArg some (SortedMap.ofList_entries map)

end Message

end ServiceMesh.Wire
