import ServiceMesh.Number.Integer

/-! What texts are whole numbers up to a limit: ASCII digits, at least one of them, with or without a plus
sign in front. -/
namespace ServiceMesh.Number

variable {limit n result : Nat} {beyond : IntegerError} {text digits : List Char}

theorem le_foldl_digits (n : Nat) (digits : List Char) :
    n ≤ digits.foldl (fun n c => 10 * n + digitValue c) n := by
  induction digits generalizing n with
  | nil => exact Nat.le_refl n
  | cons c digits ih =>
      have further := ih (10 * n + digitValue c)
      rw [List.foldl_cons]
      omega

/-- Digits only make a number larger, so that the first one beyond the limit decides. -/
theorem readDigits_eq_ok_iff (within : n ≤ limit) : readDigits limit beyond n digits = .ok result ↔
    (∀ c ∈ digits, c.isDigit = true) ∧ digits.foldl (fun n c => 10 * n + digitValue c) n = result ∧
      result ≤ limit := by
  induction digits generalizing n with
  | nil =>
      rw [readDigits, List.foldl_nil]
      constructor
      · rintro ⟨⟩
        exact ⟨by simp, rfl, within⟩
      · rintro ⟨-, rfl, -⟩
        rfl
  | cons c digits ih =>
      rw [readDigits, List.foldl_cons, List.forall_mem_cons]
      by_cases digit : c.isDigit = true
      case neg => simp [digit]
      case pos =>
        by_cases larger : limit < 10 * n + digitValue c
        · have grown := le_foldl_digits (10 * n + digitValue c) digits
          simp only [digit, Bool.not_true, Bool.false_eq_true, if_false, if_pos larger]
          constructor
          · rintro ⟨⟩
          · rintro ⟨-, rfl, bound⟩
            omega
        · simp [digit, larger, ih (Nat.le_of_not_lt larger)]

/-- Digits that denote a number up to the limit. -/
structure Denotes (limit n : Nat) (digits : List Char) : Prop where
  nonempty : digits ≠ []
  each : ∀ c ∈ digits, c.isDigit = true
  value : ofDigits digits = n
  within : n ≤ limit

theorem parseNat_eq_ok_iff : parseNat limit text = .ok n ↔
    ∃ digits, Denotes limit n digits ∧ (text = digits ∨ text = '+' :: digits) := by
  have known (digits : List Char) (nonempty : digits ≠ []) :
      readDigits limit .tooLarge 0 digits = .ok n ↔ Denotes limit n digits := by
    rw [readDigits_eq_ok_iff (Nat.zero_le limit)]
    exact ⟨fun ⟨each, value, within⟩ => ⟨nonempty, each, value, within⟩,
      fun written => ⟨written.each, written.value, written.within⟩⟩
  -- A plus sign is no digit, so what it stands in front of is the only way to read the text.
  have unsigned {digits : List Char} (written : Denotes limit n digits) (rest : List Char) :
      digits ≠ '+' :: rest := by
    rintro rfl
    exact absurd (written.each '+' List.mem_cons_self) (by decide)
  unfold parseNat
  split
  case h_1 =>
    constructor
    · rintro ⟨⟩
    · rintro ⟨digits, written, rfl | same⟩
      · exact absurd rfl written.nonempty
      · contradiction
  case h_2 =>
    constructor
    · rintro ⟨⟩
    · rintro ⟨digits, written, rfl | same⟩
      · exact absurd rfl (unsigned written [])
      · cases same
        exact absurd rfl written.nonempty
  case h_3 rest alone =>
    have nonempty : rest ≠ [] := by
      rintro rfl
      exact alone rfl
    rw [known rest nonempty]
    constructor
    · intro written
      exact ⟨rest, written, .inr rfl⟩
    · rintro ⟨digits, written, rfl | same⟩
      · exact absurd rfl (unsigned written rest)
      · obtain ⟨-, rfl⟩ := List.cons.inj same
        exact written
  case h_4 nothing _ plus =>
    rw [known text nothing]
    constructor
    · intro written
      exact ⟨text, written, .inl rfl⟩
    · rintro ⟨digits, written, rfl | rfl⟩
      · exact written
      · exact absurd rfl (plus digits)

end ServiceMesh.Number
