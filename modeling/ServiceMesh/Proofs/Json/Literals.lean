import ServiceMesh.Json.Reader
import ServiceMesh.Json.Writer

/-! Texts and whole numbers are read as they are written. Texts can hold any characters; what is to
be escaped is, and the escapes are undone. -/
namespace ServiceMesh.Json

open ServiceMesh.Number (ofDigits digitValue)

/-! ### Texts -/

theorem hexValue?_hexDigit : ∀ n < 16, hexValue? (hexDigit n) = some n := by decide

theorem readHex4_control {n : Nat} (control : n < 0x20) (rest : List Symbol) :
    readHex4
        (some '0' :: some '0' :: some (hexDigit (n / 16)) :: some (hexDigit (n % 16)) :: rest) =
      some (n, rest) := by
  have zero : hexValue? '0' = some 0 := rfl
  simp only [readHex4, zero, hexValue?_hexDigit (n / 16) (by omega),
    hexValue?_hexDigit (n % 16) (by omega), Option.bind_eq_bind, Option.bind_some]
  exact congrArg (fun code => some (code, rest)) (by omega)

/-- A character stands for itself, or its escape stands for it. -/
theorem escape_cases (c : Char) :
    escape c = [c] ∧ isPlain (some c) = true ∨
      ∃ behind, escape c = '\\' :: behind ∧
        ∀ rest, readEscape (behind.map some ++ rest) = some (some c, rest) := by
  unfold escape
  split
  case h_1 => exact .inr ⟨_, rfl, fun _ => rfl⟩
  case h_2 => exact .inr ⟨_, rfl, fun _ => rfl⟩
  case h_3 => exact .inr ⟨_, rfl, fun _ => rfl⟩
  case h_4 => exact .inr ⟨_, rfl, fun _ => rfl⟩
  case h_5 => exact .inr ⟨_, rfl, fun _ => rfl⟩
  case h_6 => exact .inr ⟨_, rfl, fun _ => rfl⟩
  case h_7 => exact .inr ⟨_, rfl, fun _ => rfl⟩
  case h_8 notQuote notBackslash _ _ _ _ _ =>
    split
    case isFalse visible =>
      refine .inl ⟨rfl, ?_⟩
      simp only [isPlain, Bool.and_eq_true, bne_iff_ne, decide_eq_true_eq]
      exact ⟨⟨notQuote, notBackslash⟩, Nat.not_lt.mp visible⟩
    case isTrue control =>
      refine .inr ⟨_, rfl, fun rest => ?_⟩
      have low : isLowSurrogate c.toNat = false := by simp [isLowSurrogate]; omega
      have high : isHighSurrogate c.toNat = false := by simp [isHighSurrogate]; omega
      simp [readEscape, readHex4_control control, low, high]

theorem readContent_quote (fuel : Nat) (rest : List Symbol) :
    readContent fuel (some '"' :: rest) = some ([], rest) := by
  cases fuel <;> rfl

theorem readContent_plain {symbol : Symbol} (plain : isPlain symbol = true) (fuel : Nat)
    (input : List Symbol) :
    readContent fuel (symbol :: input) =
      (readContent fuel input).map fun (content, rest) => (symbol :: content, rest) := by
  unfold readContent
  simp only [List.dropWhile_cons, List.takeWhile_cons, plain, if_true]
  split
  case h_1 => rfl
  case h_2 fuel rest stop =>
    cases readEscape rest with
    | none => rfl
    | some escaped =>
        simp only [Option.bind_eq_bind, Option.bind_some]
        cases readContent fuel escaped.2 <;> rfl
  case h_3 => rfl

theorem readContent_escape {symbol : Symbol} {input after : List Symbol}
    (escaped : readEscape input = some (symbol, after)) (fuel : Nat) :
    readContent (fuel + 1) (some '\\' :: input) =
      (readContent fuel after).map fun (content, rest) => (symbol :: content, rest) := by
  have stop : (some '\\' :: input).dropWhile isPlain = some '\\' :: input := rfl
  rw [readContent.eq_def (fuel + 1)]
  simp only [stop, escaped, Option.bind_eq_bind, Option.bind_some]
  cases readContent fuel after <;> rfl

theorem readContent_escaped (chars : List Char) {fuel : Nat}
    (enough : (chars.flatMap escape).length ≤ fuel) (rest : List Symbol) :
    readContent fuel ((chars.flatMap escape).map some ++ some '"' :: rest) =
      some (chars.map some, rest) := by
  induction chars generalizing fuel with
  | nil => exact readContent_quote fuel rest
  | cons c chars ih =>
      rw [List.flatMap_cons, List.length_append] at enough
      rw [List.flatMap_cons, List.map_append, List.append_assoc]
      rcases escape_cases c with ⟨same, plain⟩ | ⟨behind, escaped, reads⟩
      · rw [same, List.map_singleton, List.singleton_append, readContent_plain plain, ih (by omega)]
        rfl
      · rw [escaped, List.length_cons] at enough
        obtain ⟨fuel, rfl⟩ := Nat.exists_eq_add_of_le' (show 1 ≤ fuel by omega)
        rw [escaped, List.map_cons, List.cons_append, readContent_escape (reads _), ih (by omega)]
        rfl

theorem writeContent_map (chars : List Char) :
    writeContent (chars.map some) = '"' :: chars.flatMap escape ++ ['"'] := by
  rw [writeContent, List.flatMap_map]
  rfl

/-! ### Numbers -/

/-- What can follow a value: nothing, a further value, or the end of what the value stands in. -/
inductive Ends : List Symbol → Prop
  | nothing : Ends []
  | comma (rest : List Symbol) : Ends (some ',' :: rest)
  | bracket (rest : List Symbol) : Ends (some ']' :: rest)
  | brace (rest : List Symbol) : Ends (some '\x7d' :: rest)

theorem writeNumber_ofNat (n : Nat) : writeNumber (.integer n) = Nat.toDigits 10 n :=
  Nat.toList_repr

theorem takeDigits_append {digits : List Char} (areDigits : ∀ c ∈ digits, c.isDigit = true)
    {rest : List Symbol} (ends : Ends rest) :
    takeDigits (digits.map some ++ rest) = (digits, rest) := by
  induction digits with
  | nil => cases ends <;> rfl
  | cons c digits ih =>
      obtain ⟨isDigit, others⟩ := List.forall_mem_cons.mp areDigits
      rw [List.map_cons, List.cons_append, takeDigits, if_pos isDigit, ih others]

theorem readFraction_of_ends {rest : List Symbol} (ends : Ends rest) :
    readFraction rest = some (none, rest) := by
  cases ends <;> rfl

theorem readExponent_of_ends {rest : List Symbol} (ends : Ends rest) :
    readExponent rest = some (none, rest) := by
  cases ends <;> rfl

theorem isDigit_of_mem_digits {n : Nat} : ∀ c ∈ Nat.toDigits 10 n, c.isDigit = true :=
  fun _ => Nat.isDigit_of_mem_toDigits (by decide) (by decide)

theorem exists_digit (n : Nat) :
    ∃ c more, Nat.toDigits 10 n = c :: more ∧ c.isDigit = true := by
  obtain ⟨c, more, split⟩ := List.exists_cons_of_ne_nil
    (Nat.toDigits_ne_nil : Nat.toDigits 10 n ≠ [])
  exact ⟨c, more, split, isDigit_of_mem_digits c (split ▸ List.mem_cons_self)⟩

/-- Only nought begins with a zero. -/
theorem eq_zero_of_toDigits {n : Nat} {digits : List Char}
    (zero : Nat.toDigits 10 n = '0' :: digits) : n = 0 ∧ digits = [] := by
  induction n using Nat.strongRecOn generalizing digits with
  | ind n ih =>
      rcases Nat.lt_or_ge n 10 with small | large
      · rw [Nat.toDigits_of_lt_base small] at zero
        obtain ⟨first, rfl⟩ := List.cons.inj zero
        have unique : ∀ m < 10, Nat.digitChar m = '0' → m = 0 := by decide
        exact ⟨unique n small first, rfl⟩
      · -- The digits in front of the last one are those of a smaller number, which is not nought.
        rw [Nat.toDigits_of_base_le (by decide) large] at zero
        obtain ⟨c, front, split, -⟩ := exists_digit (n / 10)
        rw [split, List.cons_append] at zero
        obtain ⟨rfl, -⟩ := List.cons.inj zero
        have smaller := (ih (n / 10) (by omega) split).1
        omega

theorem ofDigits_toDigits (n : Nat) : ofDigits (Nat.toDigits 10 n) = n :=
  Nat.ofDigitChars_ten_toDigits

theorem readUnsigned_toDigits (n : Nat) {rest : List Symbol} (ends : Ends rest) :
    readUnsigned false ((Nat.toDigits 10 n).map some ++ rest) =
      some (⟨false, Nat.toDigits 10 n, none, none⟩, rest) := by
  have fraction := readFraction_of_ends ends
  have exponent := readExponent_of_ends ends
  rw [readUnsigned, takeDigits_append isDigit_of_mem_digits ends]
  cases split : Nat.toDigits 10 n with
  | nil => exact absurd split Nat.toDigits_ne_nil
  | cons c more =>
      by_cases zero : c = '0'
      · subst c
        obtain ⟨-, rfl⟩ := eq_zero_of_toDigits split
        simp [fraction, exponent]
      · split
        case h_1 same => cases same
        case h_2 same => cases same; contradiction
        case h_3 same => cases same; contradiction
        case h_4 same => cases same; simp [fraction, exponent]

theorem toNumber_toDigits {n : Nat} (fits : n < UInt64.size) :
    (⟨false, Nat.toDigits 10 n, none, none⟩ : NumberLiteral).toNumber = .integer n := by
  simp [NumberLiteral.toNumber, ofDigits_toDigits, Nat.not_le.mpr fits]

theorem readNumber_toDigits {n : Nat} (fits : n < UInt64.size) {rest : List Symbol}
    (ends : Ends rest) :
    readNumber ((Nat.toDigits 10 n).map some ++ rest) = some (.ofNat n, rest) := by
  unfold readNumber
  split
  case h_1 input minus =>
    obtain ⟨c, more, split, isDigit⟩ := exists_digit n
    rw [split] at minus
    cases minus
    contradiction
  case h_2 =>
    rw [readUnsigned_toDigits n ends, ofNat, ← toNumber_toDigits fits]
    rfl

end ServiceMesh.Json
