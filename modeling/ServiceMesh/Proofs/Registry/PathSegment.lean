import ServiceMesh.Admin.Target
import ServiceMesh.Proofs.Text.Utf8
import ServiceMesh.Registry.Consul

/-! Texts as segments of paths. A segment means nothing else in a path, and it is the text itself
exactly if each byte of the text may stand for itself. -/
namespace ServiceMesh.Consul

open ServiceMesh.Text (utf8)

variable {text : String} {byte : UInt8} {c : Char}

theorem forall_byte {p : UInt8 → Prop} (all : ∀ n < 256, p (UInt8.ofNat n)) (byte : UInt8) :
    p byte := by
  have own := all byte.toNat byte.toNat_lt
  rwa [UInt8.ofNat_toNat] at own

/-- Holds for characters that may stand in a path and neither end it nor divide it. -/
def isSegmentChar (c : Char) : Bool :=
  c.toNat < 0x80 && Admin.isPathChar c && !"/?#".toList.contains c

theorem isSegmentChar_encodeByte (byte : UInt8) : (encodeByte byte).all isSegmentChar = true :=
  forall_byte (p := fun byte => (encodeByte byte).all isSegmentChar = true) (by decide +kernel) byte

/-- Bytes that stand for themselves are those whose form is a single character. -/
theorem length_encodeByte (byte : UInt8) :
    (encodeByte byte).length = if isUnreserved byte then 1 else 3 := by
  unfold encodeByte
  split <;> rfl

theorem isSegmentChar_of_mem (member : c ∈ (encodeSegment text).toList) : isSegmentChar c = true := by
  rw [encodeSegment, String.toList_ofList, List.mem_flatMap] at member
  obtain ⟨byte, -, inForm⟩ := member
  exact List.all_eq_true.mp (isSegmentChar_encodeByte byte) c inForm

theorem slash_not_mem_encodeSegment : '/' ∉ (encodeSegment text).toList :=
  fun member => absurd (isSegmentChar_of_mem member) (by decide)

/-- All bytes of a text may stand for themselves. -/
def IsPlain (text : String) : Prop := ∀ byte ∈ utf8 text, isUnreserved byte = true

instance : Decidable (IsPlain text) :=
  decidable_of_iff ((utf8 text).all isUnreserved = true) List.all_eq_true

theorem length_le_encoded (bytes : List UInt8) :
    bytes.length ≤ (bytes.flatMap encodeByte).length := by
  induction bytes with
  | nil => exact Nat.le_refl 0
  | cons byte bytes ih =>
      rw [List.flatMap_cons, List.length_append, length_encodeByte, List.length_cons]
      split <;> omega

/-- No byte is spelled out in a form that is no longer than the bytes. -/
theorem isUnreserved_of_length {bytes : List UInt8}
    (short : (bytes.flatMap encodeByte).length = bytes.length) :
    ∀ byte ∈ bytes, isUnreserved byte = true := by
  induction bytes with
  | nil => exact fun _ member => absurd member List.not_mem_nil
  | cons byte bytes ih =>
      have least := length_le_encoded bytes
      rw [List.flatMap_cons, List.length_append, length_encodeByte, List.length_cons] at short
      cases plain : isUnreserved byte with
      | false =>
          rw [plain] at short
          simp only [Bool.false_eq_true, if_false] at short
          omega
      | true =>
          rw [plain, if_pos rfl] at short
          exact List.forall_mem_cons.mpr ⟨plain, ih (by omega)⟩

theorem toNat_lt_of_isUnreserved (plain : isUnreserved byte = true) : byte.toNat < 0x80 := by
  rw [isUnreserved, Bool.and_eq_true] at plain
  exact of_decide_eq_true plain.1

theorem flatMap_encodeByte {bytes : List UInt8} (plain : ∀ byte ∈ bytes, isUnreserved byte = true) :
    bytes.flatMap encodeByte = bytes.map fun byte => Char.ofNat byte.toNat := by
  induction bytes with
  | nil => rfl
  | cons byte bytes ih =>
      obtain ⟨first, others⟩ := List.forall_mem_cons.mp plain
      rw [List.flatMap_cons, ih others, encodeByte, if_pos first, List.map_cons,
        List.singleton_append]

/-- A text is its own segment exactly if there is nothing to be spelled out in it. -/
theorem encodeSegment_eq_self_iff : encodeSegment text = text ↔ IsPlain text := by
  constructor
  · intro same
    have ascii (c : Char) (member : c ∈ text.toList) : c.toNat < 0x80 := by
      rw [← same] at member
      have segment := isSegmentChar_of_mem member
      rw [isSegmentChar, Bool.and_eq_true, Bool.and_eq_true, decide_eq_true_iff] at segment
      exact segment.1.1
    -- Both have as many characters as there are bytes.
    have chars := congrArg (List.length ∘ String.toList) same
    simp only [Function.comp, encodeSegment, String.toList_ofList] at chars
    have bytes := congrArg List.length (Text.utf8_ascii ascii)
    rw [List.length_map] at bytes
    exact isUnreserved_of_length (chars.trans bytes.symm)
  · intro plain
    have own := Text.toList_of_ascii fun byte member => toNat_lt_of_isUnreserved (plain byte member)
    rw [encodeSegment, flatMap_encodeByte plain, ← own, String.ofList_toList]

theorem encodeSegment_ne_empty (filled : text ≠ "") : encodeSegment text ≠ "" := by
  intro empty
  have none := congrArg String.toList empty
  rw [encodeSegment, String.toList_ofList] at none
  have least := length_le_encoded (utf8 text)
  rw [none] at least
  have bytes : utf8 text = [] := List.length_eq_zero_iff.mp (Nat.le_zero.mp least)
  have chars := Text.toList_of_ascii (s := text) (by simp [bytes])
  rw [bytes] at chars
  exact filled (String.toList_eq_nil_iff.mp chars)

end ServiceMesh.Consul
