import ServiceMesh.Number.Decimal
import ServiceMesh.Proofs.Text.Pieces

/-! What texts are decimal literals: a sign or none, then digits with at most one point among them, and at
least one digit. -/
namespace ServiceMesh.Number.Decimal

variable {text whole fraction : List Char} {literal : Decimal}

/-- What holds of ten characters holds of all digits. -/
theorem forall_digit {P : Char → Prop} (each : ∀ n < 10, P (Char.ofNat (48 + n))) {c : Char}
    (digit : c.isDigit = true) : P c := by
  simp only [Char.isDigit, Bool.and_eq_true, decide_eq_true_eq, UInt32.le_iff_toNat_le] at digit
  obtain ⟨low, high⟩ : 48 ≤ c.toNat ∧ c.toNat ≤ 57 := digit
  have known := each (c.toNat - 48) (by omega)
  rwa [show 48 + (c.toNat - 48) = c.toNat by omega, Char.ofNat_toNat] at known

/-- Digits of which some stand behind a point; the point can be left out where none does. -/
structure Unsigned (whole fraction text : List Char) : Prop where
  digits : ∀ c ∈ whole ++ fraction, c.isDigit = true
  nonempty : whole ++ fraction ≠ []
  told : text = whole ++ '.' :: fraction ∨ fraction = [] ∧ text = whole

theorem ofUnsigned?_eq_some_iff :
    ofUnsigned? text = some (whole, fraction) ↔ Unsigned whole fraction text := by
  constructor
  · intro read
    have digits : ∀ c ∈ text.takeWhile Char.isDigit, c.isDigit = true := fun _ => List.mem_takeWhile_imp
    have joined := List.takeWhile_append_dropWhile (p := Char.isDigit) (l := text)
    unfold ofUnsigned? at read
    dsimp only at read
    split at read
    case h_1 nothing =>
      split at read
      case isTrue => contradiction
      case isFalse nonempty =>
        cases read
        rw [nothing, List.append_nil] at joined
        exact ⟨by simpa using digits, by simpa using nonempty, .inr ⟨rfl, joined.symm⟩⟩
    case h_2 c behind stop =>
      split at read
      case isFalse => contradiction
      case isTrue fine =>
        cases read
        simp only [Bool.and_eq_true, beq_iff_eq, List.all_eq_true, Bool.not_eq_true',
          List.isEmpty_eq_false_iff] at fine
        obtain ⟨⟨rfl, others⟩, nonempty⟩ := fine
        rw [stop] at joined
        refine ⟨fun c member => ?_, nonempty, .inl joined.symm⟩
        exact (List.mem_append.mp member).elim (digits c) (others c)
  · rintro ⟨digits, nonempty, rfl | ⟨rfl, rfl⟩⟩
    · obtain ⟨front, back⟩ := List.forall_mem_append.mp digits
      have stops : ∀ c ∈ ('.' :: fraction).head?, c.isDigit = false := by simp
      obtain ⟨taken, left⟩ := Text.takeWhile_run front stops
      simp only [ofUnsigned?, taken, left, beq_self_eq_true, List.all_eq_true.mpr back,
        List.isEmpty_eq_false_iff.mpr nonempty]
      rfl
    · rw [List.append_nil] at digits nonempty
      have taken := List.takeWhile_eq_self_iff.mpr digits
      have left := List.dropWhile_eq_nil_iff.mpr digits
      simp [ofUnsigned?, taken, left, nonempty]

/-- Without a sign a literal begins with a digit or with the point. -/
theorem Unsigned.head (unsigned : Unsigned whole fraction text) :
    ∃ c rest, text = c :: rest ∧ (c.isDigit = true ∨ c = '.') := by
  obtain ⟨digits, nonempty, rfl | ⟨rfl, rfl⟩⟩ := unsigned
  · cases whole with
    | nil => exact ⟨'.', fraction, rfl, .inr rfl⟩
    | cons c whole => exact ⟨c, _, rfl, .inl (digits c List.mem_cons_self)⟩
  · rw [List.append_nil] at digits nonempty
    obtain ⟨c, rest, rfl⟩ := List.exists_cons_of_ne_nil nonempty
    exact ⟨c, rest, rfl, .inl (digits c List.mem_cons_self)⟩

/-- What is written in front of a number: a minus sign for a negative one, and for others nothing or a plus
sign. -/
inductive Sign : Bool → List Char → Prop
  | minus : Sign true ['-']
  | none : Sign false []
  | plus : Sign false ['+']

/-- How a literal is written. -/
def Written (literal : Decimal) (text : List Char) : Prop :=
  ∃ sign unsigned, Sign literal.negative sign ∧ Unsigned literal.whole literal.fraction unsigned ∧
    text = sign ++ unsigned

/-- A text is a literal exactly if one is written so. -/
theorem parse_eq_ok_iff : parse text = .ok literal ↔ literal.Written text := by
  obtain ⟨negative, whole, fraction⟩ := literal
  have split {sign : Bool} {unsigned : List Char} (nonempty : text ≠ [])
      (signed : splitSign text = (sign, unsigned)) :
      parse text = .ok ⟨negative, whole, fraction⟩ ↔
        sign = negative ∧ Unsigned whole fraction unsigned := by
    rw [← ofUnsigned?_eq_some_iff, parse, signed]
    cases text with
    | nil => contradiction
    | cons c rest =>
        dsimp only
        cases ofUnsigned? unsigned <;> simp [Prod.ext_iff]
  constructor
  · intro read
    have nonempty : text ≠ [] := by
      rintro rfl
      contradiction
    unfold splitSign at split
    split at split
    case h_1 rest =>
      obtain ⟨rfl, unsigned⟩ := (split nonempty rfl).mp read
      exact ⟨['-'], rest, .minus, unsigned, rfl⟩
    case h_2 rest =>
      obtain ⟨rfl, unsigned⟩ := (split nonempty rfl).mp read
      exact ⟨['+'], rest, .plus, unsigned, rfl⟩
    case h_3 =>
      obtain ⟨rfl, unsigned⟩ := (split nonempty rfl).mp read
      exact ⟨[], text, .none, unsigned, rfl⟩
  · rintro ⟨sign, unsigned, signed, written, rfl⟩
    obtain ⟨c, rest, rfl, begins⟩ := written.head
    cases signed with
    | minus => exact (split (List.cons_ne_nil _ _) rfl).mpr ⟨rfl, written⟩
    | plus => exact (split (List.cons_ne_nil _ _) rfl).mpr ⟨rfl, written⟩
    | none =>
        refine (split (List.cons_ne_nil _ _) ?_).mpr ⟨rfl, written⟩
        unfold splitSign
        split
        case h_1 same =>
          cases same
          simp at begins
        case h_2 same =>
          cases same
          simp at begins
        case h_3 => rfl

/-- The characters of literals. -/
theorem Written.chars (written : literal.Written text) :
    ∀ c ∈ text, c.isDigit = true ∨ c = '.' ∨ c = '+' ∨ c = '-' := by
  obtain ⟨sign, unsigned, signed, ⟨digits, -, told⟩, rfl⟩ := written
  have inside : ∀ c ∈ unsigned, c.isDigit = true ∨ c = '.' := by
    intro c member
    rcases told with rfl | ⟨none, rfl⟩
    · rcases List.mem_append.mp member with front | behind
      · exact .inl (digits c (List.mem_append_left _ front))
      · rcases List.mem_cons.mp behind with rfl | back
        · exact .inr rfl
        · exact .inl (digits c (List.mem_append_right _ back))
    · exact .inl (digits c (List.mem_append_left _ member))
  intro c member
  rcases List.mem_append.mp member with front | back
  · generalize literal.negative = negative at signed
    cases signed <;> simp_all
  · rcases inside c back with digit | rfl <;> simp [*]

/-- Behind a minus sign stands a negative literal. -/
theorem Written.negative_of_minus (written : literal.Written text) (minus : text.head? = some '-') :
    literal.negative = true := by
  obtain ⟨sign, unsigned, signed, read, rfl⟩ := written
  obtain ⟨c, rest, rfl, begins⟩ := read.head
  generalize literal.negative = negative at signed
  cases signed with
  | minus => rfl
  | none =>
      cases minus
      simp at begins
  | plus => simp at minus

theorem Written.ne_nil (written : literal.Written text) : text ≠ [] := by
  obtain ⟨sign, unsigned, -, read, rfl⟩ := written
  obtain ⟨c, rest, rfl, -⟩ := read.head
  exact List.append_ne_nil_of_right_ne_nil _ (List.cons_ne_nil _ _)

end ServiceMesh.Number.Decimal
