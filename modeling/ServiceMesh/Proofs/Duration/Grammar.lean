import ServiceMesh.Duration.Parser
import ServiceMesh.Proofs.Json.Fields
import ServiceMesh.Proofs.Number.Decimal
import ServiceMesh.Proofs.Text.Pieces

/-! What texts denote durations: a zero, or numbers with units behind them, whose values are added up. Two
sums of such numbers, written one behind the other, denote the sum of both. -/
namespace ServiceMesh.Duration

open ServiceMesh.Number ServiceMesh.Text
open ServiceMesh.Json (bind_eq_ok_iff)

variable {text rest : List Char} {parts front back : List Component} {part : Component}
  {d total : Duration} {values : List Duration} {literal : Decimal} {seconds : Rat}

/-! ### Units -/

/-- The units with their lengths in seconds. A microsecond can be written with a micro sign or with a Greek
letter. -/
def unitLengths : List (String × Rat) := [
  ("ns", 1 / 1_000_000_000), ("us", 1 / 1_000_000), ("\u00b5s", 1 / 1_000_000),
  ("\u03bcs", 1 / 1_000_000), ("ms", 1 / 1_000), ("s", 1), ("m", 60), ("h", 3600)]

theorem unitSeconds?_eq_some_iff {unit : List Char} :
    unitSeconds? unit = some seconds ↔ (String.ofList unit, seconds) ∈ unitLengths := by
  unfold unitSeconds? unitLengths
  generalize String.ofList unit = name
  constructor
  · intro known
    split at known
    all_goals cases known
    all_goals simp
  · intro listed
    simp only [List.mem_cons, Prod.mk.injEq, List.not_mem_nil, or_false] at listed
    rcases listed with ⟨rfl, rfl⟩ | ⟨rfl, rfl⟩ | ⟨rfl, rfl⟩ | ⟨rfl, rfl⟩ | ⟨rfl, rfl⟩ | ⟨rfl, rfl⟩ |
      ⟨rfl, rfl⟩ | ⟨rfl, rfl⟩
    all_goals rfl

theorem letters_of_unit : ∀ entry ∈ unitLengths, entry.1.toList ≠ [] ∧
    ∀ c ∈ entry.1.toList, isAlphabetic c = true ∧ isBlank c = false := by
  have checked : ∀ entry ∈ unitLengths, entry.1.toList ≠ [] ∧
      entry.1.toList.all (fun c => isAlphabetic c && !isBlank c) = true := by
    decide
  intro entry member
  obtain ⟨nonempty, letters⟩ := checked entry member
  exact ⟨nonempty, by simpa using letters⟩

/-! ### Components -/

namespace Component

/-- A number without a minus sign, with a known unit. -/
structure Sized (part : Component) (literal : Decimal) (seconds : Rat) : Prop where
  number : literal.Written part.value
  positive : literal.negative = false
  unit : (String.ofList part.unit, seconds) ∈ unitLengths

def WellFormed (part : Component) : Prop := ∃ literal seconds, part.Sized literal seconds

/-- The value of a component: that of its number, times the length of its unit, as far as this is in
range. -/
def Measures (part : Component) (d : Duration) : Prop :=
  ∃ literal seconds, part.Sized literal seconds ∧ scaled? literal.magnitude seconds = some d

/-- What tells components apart: letters stand at the end of each, and at no other place. -/
structure Proper (part : Component) : Prop where
  value : part.value ≠ [] ∧ ∀ c ∈ part.value, isAlphabetic c = false
  unit : part.unit ≠ [] ∧ ∀ c ∈ part.unit, isAlphabetic c = true

theorem Sized.letters (sized : part.Sized literal seconds) :
    part.unit ≠ [] ∧ ∀ c ∈ part.unit, isAlphabetic c = true ∧ isBlank c = false := by
  have letters := letters_of_unit _ sized.unit
  rwa [String.toList_ofList] at letters

theorem Sized.signs (sized : part.Sized literal seconds) :
    ∀ c ∈ part.value, isAlphabetic c = false ∧ isBlank c = false := by
  intro c member
  let Sign (c : Char) : Prop := isAlphabetic c = false ∧ isBlank c = false
  have digits : ∀ n < 10, Sign (Char.ofNat (48 + n)) := by decide +kernel
  rcases sized.number.chars c member with digit | rfl | rfl | rfl
  · exact Decimal.forall_digit (P := Sign) digits digit
  all_goals decide +kernel

theorem Measures.wellFormed (measured : part.Measures d) : part.WellFormed := by
  obtain ⟨literal, seconds, sized, -⟩ := measured
  exact ⟨literal, seconds, sized⟩

theorem WellFormed.proper (formed : part.WellFormed) : part.Proper := by
  obtain ⟨literal, seconds, sized⟩ := formed
  exact ⟨⟨sized.number.ne_nil, fun c member => (sized.signs c member).1⟩,
    ⟨sized.letters.1, fun c member => (sized.letters.2 c member).1⟩⟩

/-- The number of a component begins with a digit, with the point, or with a plus sign. -/
theorem WellFormed.head (formed : part.WellFormed) :
    ∃ c rest, part.value = c :: rest ∧ c ≠ '-' ∧ isBlank c = false := by
  obtain ⟨literal, seconds, sized⟩ := formed
  obtain ⟨c, rest, own⟩ := List.exists_cons_of_ne_nil sized.number.ne_nil
  refine ⟨c, rest, own, ?_, (sized.signs c (own ▸ List.mem_cons_self)).2⟩
  rintro rfl
  exact absurd (sized.number.negative_of_minus (own ▸ rfl)) (by simp [sized.positive])

/-- The checks of a component, one after the other. -/
theorem toDuration_eq (part : Component) : part.toDuration =
    if part.unit.isEmpty then .error .noUnit
    else match Decimal.parse part.value with
      | .error cause => .error (.notANumber cause)
      | .ok literal =>
          if literal.negative then .error .negative
          else match unitSeconds? part.unit with
            | none => .error .invalidUnit
            | some seconds => (scaled? literal.magnitude seconds).elim (.error .overflow) .ok := by
  unfold Component.toDuration
  cases part.unit.isEmpty with
  | true => rfl
  | false =>
      cases Decimal.parse part.value with
      | error cause => rfl
      | ok literal =>
          obtain ⟨negative, whole, fraction⟩ := literal
          cases negative with
          | true => rfl
          | false =>
              cases unitSeconds? part.unit with
              | none => rfl
              | some seconds =>
                  dsimp [bind, Except.bind, Except.mapError]
                  cases scaled? (Decimal.magnitude ⟨false, whole, fraction⟩) seconds <;> rfl

/-- A number with a unit only fails to be a duration if it is too large. -/
theorem Sized.toDuration (sized : part.Sized literal seconds) : part.toDuration =
    (scaled? literal.magnitude seconds).elim (.error .overflow) .ok := by
  have nonempty : part.unit.isEmpty = false := List.isEmpty_eq_false_iff.mpr sized.letters.1
  simp only [toDuration_eq, nonempty, Decimal.parse_eq_ok_iff.mpr sized.number, sized.positive,
    unitSeconds?_eq_some_iff.mpr sized.unit, Bool.false_eq_true, if_false]

theorem toDuration_eq_ok_iff : part.toDuration = .ok d ↔ part.Measures d := by
  constructor
  · intro read
    rw [toDuration_eq] at read
    split at read
    · contradiction
    split at read
    · contradiction
    case h_2 literal number =>
      split at read
      · contradiction
      case isFalse positive =>
        split at read
        · contradiction
        case h_2 seconds known =>
          refine ⟨literal, seconds, ⟨Decimal.parse_eq_ok_iff.mp number, eq_false_of_ne_true positive,
            unitSeconds?_eq_some_iff.mp known⟩, ?_⟩
          cases value : scaled? literal.magnitude seconds with
          | none => simp [value] at read
          | some other => simpa [value] using read
  · rintro ⟨literal, seconds, sized, value⟩
    rw [sized.toDuration, value]
    rfl

end Component

/-! ### Texts of components -/

/-- Components one behind the other. -/
def spelled (parts : List Component) : List Char := parts.flatMap fun part => part.value ++ part.unit

theorem spelled_cons : spelled (part :: parts) = part.value ++ (part.unit ++ spelled parts) := by
  rw [spelled, List.flatMap_cons, List.append_assoc]
  rfl

theorem spelled_append : spelled (front ++ back) = spelled front ++ spelled back := List.flatMap_append

/-- Nothing is lost when a text is cut. -/
theorem spelled_components (text : List Char) : spelled (components text) = text := by
  fun_induction components text with
  | case1 => rfl
  | case2 c rest tail ih => rw [spelled_cons, ih, List.takeWhile_append_dropWhile,
      List.takeWhile_append_dropWhile]

/-- A component ends where the number of the next one begins. -/
theorem components_append (proper : part.Proper) (next : ∀ c ∈ rest.head?, isAlphabetic c = false) :
    components (part.value ++ (part.unit ++ rest)) = part :: components rest := by
  obtain ⟨value, unit⟩ := part
  obtain ⟨⟨nonempty, signs⟩, unitNonempty, letters⟩ := proper
  dsimp only at nonempty signs unitNonempty letters ⊢
  have passes : ∀ c ∈ value, (!isAlphabetic c) = true := by
    intro c member
    simp [signs c member]
  have stops : ∀ c ∈ (unit ++ rest).head?, (!isAlphabetic c) = false := by
    intro c first
    rw [List.head?_append_of_ne_nil _ unitNonempty] at first
    simp [letters c (List.mem_of_mem_head? first)]
  have number := takeWhile_run passes stops
  have name := takeWhile_run letters next
  obtain ⟨c, value, rfl⟩ := List.exists_cons_of_ne_nil nonempty
  rw [List.cons_append] at number ⊢
  rw [components, number.1, number.2, name.1, name.2]

/-- Where every component has its number and its unit, the text tells them. -/
theorem components_spelled (proper : ∀ part ∈ parts, part.Proper) : components (spelled parts) = parts := by
  induction parts with
  | nil => rw [spelled, List.flatMap_nil, components]
  | cons part parts ih =>
      obtain ⟨own, others⟩ := List.forall_mem_cons.mp proper
      rw [spelled_cons, components_append own, ih others]
      intro c first
      cases parts with
      | nil => contradiction
      | cons next parts =>
          obtain ⟨nonempty, signs⟩ := (others next List.mem_cons_self).value
          rw [spelled_cons, List.head?_append_of_ne_nil _ nonempty] at first
          exact signs c (List.mem_of_mem_head? first)

/-! ### Sums -/

/-- What can come of numbers with units: a duration, or that they are too large for one. -/
def Bounded (result : Except ParseError Duration) : Prop :=
  (∃ d, result = .ok d) ∨ result = .error .overflow

namespace Bounded

variable {one two : Except ParseError Duration} {f : Duration → Except ParseError Duration}

theorem bind (bounded : Bounded one) (next : ∀ d, Bounded (f d)) : Bounded (one >>= f) := by
  rcases bounded with ⟨d, rfl⟩ | rfl
  · exact next d
  · exact .inr rfl

theorem eq_overflow_iff (bounded : Bounded one) : one = .error .overflow ↔ ¬ ∃ d, one = .ok d := by
  rcases bounded with ⟨d, rfl⟩ | rfl <;> simp

theorem ext (bounded : Bounded one) (bounded' : Bounded two) (same : ∀ d, one = .ok d ↔ two = .ok d) :
    one = two := by
  rcases bounded with ⟨d, rfl⟩ | rfl
  · exact ((same d).mp rfl).symm
  · simp only [bounded'.eq_overflow_iff.mpr fun ⟨d, fits⟩ => nomatch (same d).mpr fits]

end Bounded

theorem eq_of_nanos {a b : Duration} (same : a.nanos = b.nanos) : a = b := by
  obtain ⟨nanos, inRange⟩ := a
  subst same
  rfl

/-- The sum of two, or that it is too large. -/
def checkedAdd (a b : Duration) : Except ParseError Duration := (a.add? b).elim (.error .overflow) .ok

theorem checkedAdd_eq_ok_iff {a b : Duration} : a.checkedAdd b = .ok d ↔ d.nanos = a.nanos + b.nanos := by
  unfold checkedAdd add? ofNanos?
  split
  case isTrue inRange =>
    rw [Option.elim_some, Except.ok.injEq]
    exact ⟨fun same => same ▸ rfl, fun same => eq_of_nanos same.symm⟩
  case isFalse beyond => exact iff_of_false nofun fun same => beyond (same ▸ d.inRange)

theorem add?_eq_some_iff {a b : Duration} : a.add? b = some d ↔ d.nanos = a.nanos + b.nanos := by
  rw [← checkedAdd_eq_ok_iff, checkedAdd]
  cases a.add? b <;> simp

theorem checkedAdd_bounded (a b : Duration) : Bounded (a.checkedAdd b) := by
  unfold checkedAdd
  cases a.add? b with
  | none => exact .inr rfl
  | some d => exact .inl ⟨d, rfl⟩

theorem sum_cons : sum total (part :: parts) =
    part.toDuration >>= fun value => total.checkedAdd value >>= (sum · parts) := by
  rw [sum]
  congr 1
  funext value
  unfold checkedAdd
  cases total.add? value <;> rfl

theorem sum_singleton (part : Component) : sum zero [part] = part.toDuration := by
  rw [sum_cons]
  cases part.toDuration with
  | error problem => rfl
  | ok value =>
      have own : zero.checkedAdd value = .ok value := checkedAdd_eq_ok_iff.mpr (Nat.zero_add _).symm
      change zero.checkedAdd value >>= (sum · []) = .ok value
      rw [own]
      rfl

theorem sum_bounded (formed : ∀ part ∈ parts, part.WellFormed) : Bounded (sum total parts) := by
  induction parts generalizing total with
  | nil => exact .inl ⟨total, rfl⟩
  | cons part parts ih =>
      obtain ⟨⟨literal, seconds, sized⟩, others⟩ := List.forall_mem_cons.mp formed
      rw [sum_cons, sized.toDuration]
      cases scaled? literal.magnitude seconds with
      | none => exact .inr rfl
      | some value => exact (checkedAdd_bounded total value).bind fun _ => ih others

def totalNanos : List Duration → Nat
  | [] => 0
  | d :: rest => d.nanos + totalNanos rest

/-- Components can be added up exactly if each has a value and what they make together is in range. -/
theorem sum_eq_ok_iff : sum total parts = .ok d ↔
    ∃ values, List.Forall₂ Component.Measures parts values ∧ d.nanos = total.nanos + totalNanos values := by
  induction parts generalizing total with
  | nil =>
      constructor
      · rintro ⟨⟩
        exact ⟨[], .nil, rfl⟩
      · rintro ⟨_, ⟨⟩, whole⟩
        exact congrArg Except.ok (eq_of_nanos whole.symm)
  | cons part parts ih =>
      simp only [sum_cons, bind_eq_ok_iff, Component.toDuration_eq_ok_iff, checkedAdd_eq_ok_iff]
      constructor
      · rintro ⟨value, own, next, moved, added⟩
        obtain ⟨values, others, whole⟩ := ih.mp added
        exact ⟨value :: values, .cons own others, by rw [whole, moved, totalNanos, Nat.add_assoc]⟩
      · rintro ⟨_, measured, whole⟩
        cases measured with
        | @cons _ value _ values own others =>
            rw [totalNanos, ← Nat.add_assoc] at whole
            have inRange := d.inRange
            exact ⟨value, own, ⟨total.nanos + value.nanos, by omega⟩, rfl, ih.mpr ⟨values, others, whole⟩⟩

theorem sum_onto : sum total (front ++ back) = sum total front >>= (sum · back) := by
  induction front generalizing total with
  | nil => rfl
  | cons part front ih => simp only [List.cons_append, sum_cons, ih, bind_assoc]

/-- Two sums can be made apart and then be added up. -/
theorem sum_append (formed : ∀ part ∈ front ++ back, part.WellFormed) : sum zero (front ++ back) =
    sum zero front >>= fun x => sum zero back >>= fun y => x.checkedAdd y := by
  obtain ⟨own, others⟩ := List.forall_mem_append.mp formed
  refine (sum_bounded formed).ext ?_ fun d => ?_
  · exact (sum_bounded own).bind fun x => (sum_bounded others).bind fun y => checkedAdd_bounded x y
  · simp only [sum_onto, bind_eq_ok_iff, checkedAdd_eq_ok_iff]
    refine exists_congr fun x => and_congr_right fun _ => ?_
    constructor
    · intro added
      obtain ⟨values, measured, whole⟩ := sum_eq_ok_iff.mp added
      have inRange := d.inRange
      exact ⟨⟨totalNanos values, by omega⟩,
        sum_eq_ok_iff.mpr ⟨values, measured, (Nat.zero_add _).symm⟩, whole⟩
    · rintro ⟨y, added, whole⟩
      obtain ⟨values, measured, rest⟩ := sum_eq_ok_iff.mp added
      exact sum_eq_ok_iff.mpr ⟨values, measured, by rw [whole, rest, zero, Nat.zero_add]⟩

/-! ### Texts -/

/-- What a text without white space at its ends denotes: zero, which needs no unit and is the one duration
with a minus sign, or the sum of some components. Plus signs in front count for nothing. -/
def Denotes (text : List Char) (d : Duration) : Prop :=
  (text = ['-', '0'] ∨ text.dropWhile (· == '+') = ['0']) ∧ d = zero ∨
  ∃ parts values, parts ≠ [] ∧ text.dropWhile (· == '+') = spelled parts ∧
    List.Forall₂ Component.Measures parts values ∧ d.nanos = totalNanos values

theorem wellFormed_of_measures (measured : List.Forall₂ Component.Measures parts values) :
    ∀ part ∈ parts, part.WellFormed := by
  induction measured with
  | nil => exact fun _ member => absurd member List.not_mem_nil
  | cons own _ ih => exact List.forall_mem_cons.mpr ⟨own.wellFormed, ih⟩

/-- A text of components begins with the number of one, and there is more behind it. -/
theorem spelled_head (formed : ∀ part ∈ parts, part.WellFormed) (nonempty : parts ≠ []) :
    ∃ c rest, spelled parts = c :: rest ∧ rest ≠ [] ∧ c ≠ '-' ∧ isBlank c = false := by
  obtain ⟨part, parts, rfl⟩ := List.exists_cons_of_ne_nil nonempty
  have own := formed part List.mem_cons_self
  obtain ⟨c, rest, begins, positive, blank⟩ := own.head
  refine ⟨c, rest ++ (part.unit ++ spelled parts), ?_, ?_, positive, blank⟩
  · rw [spelled_cons, begins, List.cons_append]
  · exact List.append_ne_nil_of_right_ne_nil _ (List.append_ne_nil_of_left_ne_nil own.proper.unit.1 _)

/-- What a text is cut into can be added up exactly if the text is one of components with values. -/
theorem sum_components_eq_ok_iff : sum zero (components text) = .ok d ↔
    ∃ parts values, text = spelled parts ∧ List.Forall₂ Component.Measures parts values ∧
      d.nanos = totalNanos values := by
  constructor
  · intro added
    obtain ⟨values, measured, whole⟩ := sum_eq_ok_iff.mp added
    exact ⟨components text, values, (spelled_components text).symm, measured, by simpa [zero] using whole⟩
  · rintro ⟨parts, values, rfl, measured, whole⟩
    rw [components_spelled fun part member => (wellFormed_of_measures measured part member).proper]
    exact sum_eq_ok_iff.mpr ⟨values, measured, by rw [whole, zero, Nat.zero_add]⟩

theorem parseUnsigned_eq_ok_iff : parseUnsigned text = .ok d ↔ text.dropWhile (· == '+') = ['0'] ∧ d = zero ∨
    ∃ parts values, parts ≠ [] ∧ text.dropWhile (· == '+') = spelled parts ∧
      List.Forall₂ Component.Measures parts values ∧ d.nanos = totalNanos values := by
  unfold parseUnsigned
  generalize text.dropWhile (· == '+') = text
  dsimp only
  have long {parts values} (nonempty : parts ≠ []) (measured : List.Forall₂ Component.Measures parts values) :=
    spelled_head (wellFormed_of_measures measured) nonempty
  split
  case isTrue lone =>
    subst lone
    constructor
    · rintro ⟨⟩
      exact .inl ⟨rfl, rfl⟩
    · rintro (⟨-, rfl⟩ | ⟨parts, values, nonempty, own, measured, -⟩)
      · rfl
      · obtain ⟨c, rest, begins, more, -⟩ := long nonempty measured
        rw [begins] at own
        exact absurd (List.cons.inj own).2.symm more
  case isFalse several =>
    split
    case isTrue none =>
      obtain rfl := List.isEmpty_iff.mp none
      refine iff_of_false nofun ?_
      rintro (⟨lone, -⟩ | ⟨parts, values, nonempty, own, measured, -⟩)
      · exact several lone
      · obtain ⟨c, rest, begins, -⟩ := long nonempty measured
        rw [begins] at own
        contradiction
    case isFalse nonempty =>
      rw [sum_components_eq_ok_iff]
      constructor
      · rintro ⟨parts, values, rfl, measured, whole⟩
        refine .inr ⟨parts, values, ?_, rfl, measured, whole⟩
        rintro rfl
        exact nonempty rfl
      · rintro (⟨lone, -⟩ | ⟨parts, values, -, own, measured, whole⟩)
        · exact absurd lone several
        · exact ⟨parts, values, own, measured, whole⟩

theorem parseChars_eq_ok_iff : parseChars text = .ok d ↔ Denotes (trim text) d := by
  unfold parseChars Denotes
  generalize trim text = text
  split
  case h_1 rest =>
    constructor
    · intro read
      split at read
      case isTrue zero =>
        cases read
        exact .inl ⟨.inl (zero ▸ rfl), rfl⟩
      case isFalse => contradiction
    · rintro (⟨same | lone, rfl⟩ | ⟨parts, values, nonempty, own, measured, -⟩)
      · rw [if_pos (List.cons.inj same).2]
      · simp at lone
      · obtain ⟨c, rest, begins, -, positive, -⟩ := spelled_head (wellFormed_of_measures measured) nonempty
        rw [begins] at own
        exact absurd (List.cons.inj own).1.symm positive
  case h_2 positive =>
    rw [parseUnsigned_eq_ok_iff, or_iff_right fun same => positive ['0'] same]

/-! ### Texts one behind the other -/

/-- A text of some components, with any number of plus signs in front. -/
structure Lists (text : List Char) (parts : List Component) : Prop where
  nonempty : parts ≠ []
  formed : ∀ part ∈ parts, part.WellFormed
  unsigned : text.dropWhile (· == '+') = spelled parts

namespace Lists

variable {text' : List Char}

theorem head (lists : Lists text parts) :
    ∃ c rest, text.dropWhile (· == '+') = c :: rest ∧ rest ≠ [] ∧ c ≠ '-' := by
  obtain ⟨c, rest, begins, more, positive, -⟩ := spelled_head lists.formed lists.nonempty
  exact ⟨c, rest, lists.unsigned.trans begins, more, positive⟩

/-- There is no white space among components. -/
theorem trimmed (lists : Lists text parts) : Trimmed text := by
  have legible (c : Char) (member : c ∈ text) : isBlank c = false := by
    rw [← List.takeWhile_append_dropWhile (p := (· == '+')) (l := text), lists.unsigned] at member
    rcases List.mem_append.mp member with sign | behind
    · have plus : (c == '+') = true := List.mem_takeWhile_imp (p := (· == '+')) sign
      obtain rfl := beq_iff_eq.mp plus
      decide +kernel
    · obtain ⟨part, listed, own⟩ := List.mem_flatMap.mp behind
      obtain ⟨literal, seconds, sized⟩ := lists.formed part listed
      rcases List.mem_append.mp own with number | unit
      · exact (sized.signs c number).2
      · exact (sized.letters.2 c unit).2
  exact ⟨fun c first => legible c (List.mem_of_mem_head? first),
    fun c last => legible c (List.mem_of_mem_getLast? last)⟩

/-- Components with numbers and units are read for what they make together. -/
theorem parseChars_eq (lists : Lists text parts) : parseChars text = sum zero parts := by
  obtain ⟨c, rest, begins, more, positive⟩ := lists.head
  rw [parseChars, lists.trimmed.trim_eq]
  split
  case h_1 => exact absurd (List.cons.inj begins).1.symm positive
  case h_2 =>
    unfold parseUnsigned
    dsimp only
    rw [if_neg fun lone => more (List.cons.inj (begins.symm.trans lone)).2, if_neg (by simp [begins]),
      lists.unsigned, components_spelled fun part member => (lists.formed part member).proper]

theorem append (lists : Lists text front) (lists' : Lists text' back)
    (begins : ∀ c ∈ text'.head?, c ≠ '+') : Lists (text ++ text') (front ++ back) where
  nonempty := List.append_ne_nil_of_left_ne_nil lists.nonempty back
  formed := List.forall_mem_append.mpr ⟨lists.formed, lists'.formed⟩
  unsigned := by
    have own : text'.dropWhile (· == '+') = text' := by
      cases text' with
      | nil => rfl
      | cons c rest => exact List.dropWhile_cons_of_neg (by simpa using begins c rfl)
    obtain ⟨c, rest, begun, -⟩ := lists.head
    rw [spelled_append, ← lists.unsigned, ← lists'.unsigned, own, List.dropWhile_append, begun]
    rfl

/-- What two texts of components denote together is the sum of what they denote. -/
theorem parseChars_append (lists : Lists text front) (lists' : Lists text' back)
    (begins : ∀ c ∈ text'.head?, c ≠ '+') : parseChars (text ++ text') =
      parseChars text >>= fun x => parseChars text' >>= fun y => x.checkedAdd y := by
  have both := lists.append lists' begins
  rw [both.parseChars_eq, lists.parseChars_eq, lists'.parseChars_eq, sum_append both.formed]

theorem parseChars_bounded (lists : Lists text parts) : Bounded (parseChars text) :=
  lists.parseChars_eq ▸ sum_bounded lists.formed

end Lists

/-- A text is read exactly if it denotes something, and then for what it denotes. Two texts of components
denote together the sum of what they denote, as long as it is in range, and otherwise they are too large. -/
theorem parse_adds_up :
    (∀ (text : String) (d : Duration), parse text = .ok d ↔ Denotes (trim text.toList) d) ∧
    ∀ (one two : String) (front back : List Component), Lists one.toList front → Lists two.toList back →
      (∃ c ∈ two.toList.head?, c.isDigit = true ∨ c = '.') →
      (∀ d, parse (one ++ two) = .ok d ↔
        ∃ x y, parse one = .ok x ∧ parse two = .ok y ∧ x.add? y = some d) ∧
      (parse (one ++ two) = .error .overflow ↔
        ¬ ∃ x y d, parse one = .ok x ∧ parse two = .ok y ∧ x.add? y = some d) := by
  refine ⟨fun text d => parseChars_eq_ok_iff, fun one two front back lists lists' ⟨c, first, begins⟩ => ?_⟩
  have unsigned (c' : Char) (first' : c' ∈ two.toList.head?) : c' ≠ '+' := by
    obtain rfl := Option.mem_unique first first'
    rintro rfl
    simp at begins
  have fits (d : Duration) : parse (one ++ two) = .ok d ↔
      ∃ x y, parse one = .ok x ∧ parse two = .ok y ∧ x.add? y = some d := by
    simp only [parse, String.toList_append, lists.parseChars_append lists' unsigned, bind_eq_ok_iff,
      checkedAdd_eq_ok_iff, add?_eq_some_iff, exists_and_left]
  have bounded : Bounded (parse (one ++ two)) := by
    rw [parse, String.toList_append]
    exact (lists.append lists' unsigned).parseChars_bounded
  refine ⟨fits, bounded.eq_overflow_iff.trans (not_congr ?_)⟩
  simp only [fits]
  exact ⟨fun ⟨d, x, y, sum⟩ => ⟨x, y, d, sum⟩, fun ⟨x, y, d, sum⟩ => ⟨d, x, y, sum⟩⟩

/-- An hour and two minutes, and behind them half a second. -/
theorem parse_adds_up_hour :
    let part (value unit : String) : Component := ⟨value.toList, unit.toList⟩
    Lists "1h2m".toList [part "1" "h", part "2" "m"] ∧ Lists ".5s".toList [part ".5" "s"] ∧
      ∃ d, parse ("1h2m" ++ ".5s") = .ok d ∧ d.nanos = 3_720_500_000_000 := by
  intro part
  have formed {part : Component} {d : Duration} (value : part.toDuration = .ok d) : part.WellFormed :=
    (Component.toDuration_eq_ok_iff.mp value).wellFormed
  have one : (part "1" "h").toDuration = .ok ⟨3_600_000_000_000, by decide⟩ := by decide +kernel
  have two : (part "2" "m").toDuration = .ok ⟨120_000_000_000, by decide⟩ := by decide +kernel
  have third : (part ".5" "s").toDuration = .ok ⟨500_000_000, by decide⟩ := by decide +kernel
  have hour : Lists "1h2m".toList [part "1" "h", part "2" "m"] := by
    refine ⟨List.cons_ne_nil _ _, ?_, rfl⟩
    rw [List.forall_mem_cons, List.forall_mem_singleton]
    exact ⟨formed one, formed two⟩
  have half : Lists ".5s".toList [part ".5" "s"] := by
    refine ⟨List.cons_ne_nil _ _, ?_, rfl⟩
    rw [List.forall_mem_singleton]
    exact formed third
  refine ⟨hour, half, ⟨3_720_500_000_000, by decide⟩, ?_, rfl⟩
  refine ((parse_adds_up.2 "1h2m" ".5s" _ _ hour half ⟨'.', rfl, .inr rfl⟩).1 _).mpr ?_
  exact ⟨⟨3_720_000_000_000, by decide⟩, ⟨500_000_000, by decide⟩, by decide +kernel, by decide +kernel,
    add?_eq_some_iff.mpr rfl⟩

end ServiceMesh.Duration
