import Mathlib.Data.List.TakeWhile
import ServiceMesh.Pattern.Parser

/-! What the parts of a pattern are read as does not depend on what stands behind them, as long as that is
nothing or a parenthesis that closes a group. Each reader is shown to leave something behind what it was
given, and to read the same before one such end as before another, if it stops at the same place. The
latter matters where a reader looks ahead. -/
namespace ServiceMesh.Pattern

open ServiceMesh.Number (ofDigits)

variable {x y r t u : List Char} {c : Char}

/-- Nothing stands there, or a parenthesis that closes a group. -/
inductive Closes : List Char → Prop
  | nothing : Closes []
  | parenthesis (rest : List Char) : Closes (')' :: rest)

/-- What is left of a text when some of it has been read. -/
structure Behind (r x : List Char) : Prop where
  suffix : r <:+ x
  shorter : r.length < x.length

namespace Behind

theorem cons (suffix : r <:+ x) : Behind r (c :: x) :=
  ⟨suffix.trans (List.suffix_cons c x), Nat.lt_succ_of_le suffix.length_le⟩

theorem suffix_trans (suffix : r <:+ y) (behind : Behind y x) : Behind r x :=
  ⟨suffix.trans behind.suffix, suffix.length_le.trans_lt behind.shorter⟩

/-- The same end does not count. -/
theorem length_lt (behind : Behind (r ++ t) (x ++ t)) : r.length < x.length := by
  have shorter := behind.shorter
  rw [List.length_append, List.length_append] at shorter
  omega

theorem trans_suffix (behind : Behind r y) (suffix : y <:+ x) : Behind r x :=
  ⟨behind.suffix.trans suffix, behind.shorter.trans_le suffix.length_le⟩

end Behind

/-- What ends with a text that is left is that text behind something. -/
theorem exists_front (left : r ++ t <:+ y) : ∃ z, y = z ++ t ∧ r <:+ z := by
  obtain ⟨front, rfl⟩ := left
  exact ⟨front ++ r, (List.append_assoc _ _ _).symm, List.suffix_append _ _⟩

/-- What is read without a parenthesis stands before the end. -/
theorem exists_middle {front : List Char} (plain : ')' ∉ front) (closes : Closes u)
    (same : front ++ r = x ++ u) : ∃ z, x = front ++ z ∧ r = z ++ u := by
  rcases List.append_eq_append_iff.mp same with ⟨z, rfl, rfl⟩ | ⟨z, rfl, rfl⟩
  · exact ⟨z, rfl, rfl⟩
  · cases z with
    | nil => exact ⟨[], by simp, by simp⟩
    | cons d z =>
        cases closes
        simp at plain

/-- What has been read in front of an end was read without it. -/
theorem exists_own {α : Type} {own : Option (α × List Char)} {value : α}
    (read : own.map (fun read => (read.1, read.2 ++ t)) = some (value, y)) :
    ∃ z, y = z ++ t ∧ own = some (value, z) := by
  obtain ⟨⟨_, z⟩, found, same⟩ := Option.map_eq_some_iff.mp read
  cases same
  exact ⟨z, rfl, found⟩

/-- Nothing that is left ends with more than there is. -/
theorem not_behind_of_suffix (suffix : y <:+ t) : ¬Behind (r ++ t) y := fun behind => by
  have shorter := behind.shorter
  have bound := suffix.length_le
  rw [List.length_append] at shorter
  omega

theorem length_le_of_suffix (left : r ++ t <:+ x ++ t) : r.length ≤ x.length := by
  have shorter := left.length_le
  rw [List.length_append, List.length_append] at shorter
  omega

/-! ### Runs of characters -/

theorem takeWhile_append_end {p : Char → Bool} (stops : p ')' = false) (closes : Closes u) :
    (x ++ u).takeWhile p = x.takeWhile p := by
  rw [List.takeWhile_append]
  split
  case isTrue all =>
    have own : x.takeWhile p = x := (List.takeWhile_prefix p).eq_of_length all
    cases closes <;> simp [own, stops]
  case isFalse => rfl

theorem dropWhile_append_end {p : Char → Bool} (stops : p ')' = false) (closes : Closes u) :
    (x ++ u).dropWhile p = x.dropWhile p ++ u := by
  rw [List.dropWhile_append]
  split
  case isTrue none =>
    rw [List.isEmpty_iff.mp none]
    cases closes <;> simp_all
  case isFalse => rfl

/-- A run ends at the same character whatever stands behind that. -/
theorem run_front {p : Char → Bool} (found : x.dropWhile p = c :: r) (other : List Char) :
    (x.takeWhile p ++ c :: other).takeWhile p = x.takeWhile p ∧
      (x.takeWhile p ++ c :: other).dropWhile p = c :: other := by
  have stops : p c = false := by
    have first := List.head?_dropWhile_not p x
    rw [found] at first
    simpa using first
  have inside : ∀ d ∈ x.takeWhile p, p d = true := fun d => List.mem_takeWhile_imp
  rw [List.takeWhile_append_of_pos inside, List.dropWhile_append_of_pos inside]
  simp [stops]

/-- A run that ends within a text ends there whatever stands behind the text. -/
theorem run_carry {p : Char → Bool} (found : (x ++ t).dropWhile p = c :: (r ++ t)) (u : List Char) :
    (x ++ u).takeWhile p = (x ++ t).takeWhile p ∧ (x ++ u).dropWhile p = c :: (r ++ u) := by
  have whole := List.takeWhile_append_dropWhile (p := p) (l := x ++ t)
  rw [found, ← List.cons_append, ← List.append_assoc] at whole
  have own := List.append_cancel_right whole
  have front := run_front found (r ++ u)
  rwa [← List.cons_append, ← List.append_assoc, own] at front

/-! ### Escapes -/

/-- The digits of a code can stand in braces. -/
theorem hexEscape_braces_iff {count : Nat} {atom : Atom} :
    hexEscape count ('\x7b' :: x) = some (atom, r) ↔
      ∃ close, x.dropWhile (· != '\x7d') = close :: r ∧
        ∃ c, charOfHex? (x.takeWhile (· != '\x7d')) = some c ∧ .literal c = atom := by
  simp only [hexEscape]
  cases x.dropWhile (· != '\x7d') with
  | nil => simp
  | cons close after =>
      cases charOfHex? (x.takeWhile (· != '\x7d')) with
      | none => simp
      | some c =>
          simp only [bind, Option.bind_some, pure, Option.some.injEq, Prod.mk.injEq]
          constructor
          · rintro ⟨same, rfl⟩
            exact ⟨close, rfl, c, rfl, same⟩
          · rintro ⟨own, split, c, rfl, same⟩
            exact ⟨same, (List.cons.inj split).2⟩

/-- Without braces there are as many digits as are asked for. -/
theorem hexEscape_digits_iff {count : Nat} {atom : Atom} (head : x.head? ≠ some '\x7b') :
    hexEscape count x = some (atom, r) ↔ count ≤ x.length ∧ x.drop count = r ∧
      ∃ c, charOfHex? (x.take count) = some c ∧ .literal c = atom := by
  unfold hexEscape
  split
  case h_1 => exact absurd rfl head
  case h_2 =>
    by_cases few : x.length < count
    · have not_many : ¬count ≤ x.length := Nat.not_le.mpr few
      simp [few, not_many]
    · cases charOfHex? (x.take count) with
      | none => simp [few]
      | some c => simp [few, Nat.not_lt.mp few, and_comm]

theorem hexEscape_behind {count : Nat} {atom : Atom} (positive : 0 < count)
    (read : hexEscape count x = some (atom, r)) : Behind r x := by
  by_cases brace : x.head? = some '\x7b'
  · obtain ⟨x, rfl⟩ := List.head?_eq_some_iff.mp brace
    obtain ⟨close, split, -⟩ := hexEscape_braces_iff.mp read
    refine Behind.cons ((List.suffix_cons close r).trans ?_)
    rw [← split]
    exact List.dropWhile_suffix _
  · obtain ⟨many, rfl, -⟩ := (hexEscape_digits_iff brace).mp read
    refine ⟨List.drop_suffix count x, ?_⟩
    rw [List.length_drop]
    omega

theorem hexEscape_carry {count : Nat} {atom : Atom} (positive : 0 < count)
    (read : hexEscape count (x ++ t) = some (atom, r ++ t)) :
    hexEscape count (x ++ u) = some (atom, r ++ u) := by
  have behind := hexEscape_behind positive read
  cases x with
  | nil => exact absurd behind (not_behind_of_suffix (List.suffix_refl t))
  | cons c x =>
      by_cases brace : c = '\x7b'
      · subst brace
        rw [List.cons_append, hexEscape_braces_iff] at read ⊢
        obtain ⟨close, split, code⟩ := read
        obtain ⟨digits, further⟩ := run_carry split u
        rw [digits]
        exact ⟨close, further, code⟩
      · have head (v : List Char) : (c :: x ++ v).head? ≠ some '\x7b' :=
          fun same => brace (Option.some.inj same)
        rw [hexEscape_digits_iff (head _)] at read ⊢
        obtain ⟨many, rest, code⟩ := read
        -- The digits all stand before the end, since otherwise some of it would have been read.
        have inside : count ≤ (c :: x).length := by
          have lengths := congrArg List.length rest
          rw [List.length_append, List.length_drop, List.length_append] at lengths
          rw [List.length_append] at many
          omega
        rw [List.take_append_of_le_length inside] at code
        rw [List.drop_append_of_le_length inside] at rest
        refine ⟨?_, ?_, ?_⟩
        · rw [List.length_append]
          omega
        · rw [List.drop_append_of_le_length inside, List.append_cancel_right rest]
        · rwa [List.take_append_of_le_length inside]

theorem boundaryEscape_suffix {atom : Atom} (read : boundaryEscape x = some (atom, r)) : r <:+ x := by
  unfold boundaryEscape at read
  split at read
  case h_1 inner =>
    split at read
    case isTrue =>
      split at read
      case h_1 after named =>
        have rest : after <:+ inner :=
          (List.suffix_cons _ _).trans (named ▸ List.dropWhile_suffix isSpecialBoundaryChar)
        split at read
        all_goals cases read
        all_goals exact rest.trans (List.suffix_cons _ _)
      case h_2 => contradiction
    case isFalse =>
      cases read
      exact List.suffix_refl _
  case h_2 =>
    cases read
    exact List.suffix_refl _

/-- A name of a word boundary stands within a text or not at all. -/
theorem boundaryEscape_append (closes : Closes u) : boundaryEscape (x ++ u) =
    (boundaryEscape x).map fun read => (read.1, read.2 ++ u) := by
  have stops : isSpecialBoundaryChar ')' = false := by decide
  cases x with
  | nil => cases closes <;> rfl
  | cons c x =>
      by_cases brace : c = '\x7b'
      · subst brace
        have head : (x ++ u).head?.any isSpecialBoundaryChar = x.head?.any isSpecialBoundaryChar := by
          cases x with
          | nil => cases closes <;> simp [stops]
          | cons d x => rfl
        simp only [boundaryEscape, List.cons_append, head, dropWhile_append_end stops closes,
          takeWhile_append_end stops closes]
        split
        case isTrue =>
          cases x.dropWhile isSpecialBoundaryChar with
          | nil => cases closes <;> simp
          | cons d after =>
              by_cases close : d = '\x7d'
              · subst close
                simp only [List.cons_append]
                split <;> rfl
              · simp [close]
        case isFalse => rfl
      · simp [boundaryEscape, brace]

/-- Behind its first character an escape is read as a code, as a word boundary, or not at all. -/
theorem readEscape_cons (c : Char) :
    (∃ count, 0 < count ∧ ∀ x, readEscape (c :: x) = hexEscape count x) ∨
      (∀ x, readEscape (c :: x) = boundaryEscape x) ∨
      (∃ atom, ∀ x, readEscape (c :: x) = some (atom, x)) ∨ ∀ x, readEscape (c :: x) = none := by
  simp only [readEscape]
  split
  case h_1 => exact .inl ⟨2, by decide, fun _ => rfl⟩
  case h_2 => exact .inl ⟨4, by decide, fun _ => rfl⟩
  case h_3 => exact .inl ⟨8, by decide, fun _ => rfl⟩
  case h_19 => exact .inr (.inl fun _ => rfl)
  case h_22 =>
    split
    · exact .inr (.inr (.inl ⟨_, fun _ => rfl⟩))
    · exact .inr (.inr (.inr fun _ => rfl))
  all_goals exact .inr (.inr (.inl ⟨_, fun _ => rfl⟩))

theorem readEscape_behind {atom : Atom} (read : readEscape x = some (atom, r)) : Behind r x := by
  cases x with
  | nil => contradiction
  | cons c x =>
      rcases readEscape_cons c with ⟨count, positive, code⟩ | boundary | ⟨atom, simple⟩ | none
      · rw [code] at read
        exact Behind.cons (hexEscape_behind positive read).suffix
      · rw [boundary] at read
        exact Behind.cons (boundaryEscape_suffix read)
      · rw [simple] at read
        cases read
        exact Behind.cons (List.suffix_refl _)
      · rw [none] at read
        contradiction

theorem readEscape_carry {atom : Atom} (closes : Closes t) (also : Closes u)
    (read : readEscape (x ++ t) = some (atom, r ++ t)) :
    readEscape (x ++ u) = some (atom, r ++ u) := by
  cases x with
  | nil => exact absurd (readEscape_behind read) (not_behind_of_suffix (List.suffix_refl t))
  | cons c x =>
      rw [List.cons_append] at read ⊢
      rcases readEscape_cons c with ⟨count, positive, code⟩ | boundary | ⟨atom, simple⟩ | none
      · rw [code] at read ⊢
        exact hexEscape_carry positive read
      · rw [boundary, boundaryEscape_append closes] at read
        rw [boundary, boundaryEscape_append also]
        obtain ⟨rest, left, found⟩ := exists_own read
        rw [found, List.append_cancel_right left]
        rfl
      · rw [simple] at read ⊢
        obtain ⟨rfl, same⟩ := Prod.mk.inj (Option.some.inj read)
        rw [List.append_cancel_right same]
      · rw [none] at read
        contradiction

end ServiceMesh.Pattern
