import ServiceMesh.Proofs.Pattern.Lookahead

/-! Counts of repetitions and what a group begins with are read the same before one end of a pattern as
before another. A repetition that is read never asks for more rounds than it allows. -/
namespace ServiceMesh.Pattern

open ServiceMesh.Number (ofDigits)

variable {flags : Flags} {x y r t u : List Char} {c : Char} {least : Nat} {most : Option Nat}

/-! ### Counts -/

theorem readCount_suffix {count : Nat} (read : readCount y = some (count, r)) : r <:+ y := by
  unfold readCount at read
  dsimp only at read
  split at read
  case isTrue => contradiction
  case isFalse =>
    cases read
    exact ((List.dropWhile_suffix _).trans (List.dropWhile_suffix _)).trans (List.dropWhile_suffix _)

theorem readCount_append (closes : Closes u) : readCount (x ++ u) =
    (readCount x).map fun read => (read.1, read.2 ++ u) := by
  have blank : Text.isBlank ')' = false := by decide
  have digit : Char.isDigit ')' = false := by decide
  simp only [readCount, dropWhile_append_end blank closes, takeWhile_append_end digit closes,
    dropWhile_append_end digit closes]
  split <;> rfl

/-- What follows the least count of a repetition, up to the brace that closes it. -/
inductive CountsEnd (least : Nat) (r : List Char) : List Char → Option Nat → Prop
  | exactly : CountsEnd least r ('\x7d' :: r) (some least)
  | unlimited : CountsEnd least r (',' :: '\x7d' :: r) none
  | limited {z : List Char} {limit : Nat} : z.head? ≠ some '\x7d' →
      readCount z = some (limit, '\x7d' :: r) → least ≤ limit →
      CountsEnd least r (',' :: z) (some limit)

theorem readCounts_eq_some_iff : readCounts y = some (least, most, r) ↔
    ∃ rest, readCount y = some (least, rest) ∧ CountsEnd least r rest most := by
  constructor
  · intro read
    obtain ⟨⟨count, rest⟩, front, read⟩ := Option.bind_eq_some_iff.mp read
    dsimp only at read
    split at read
    case h_1 =>
      cases read
      exact ⟨_, front, .exactly⟩
    case h_2 =>
      cases read
      exact ⟨_, front, .unlimited⟩
    case h_3 further =>
      obtain ⟨⟨limit, back⟩, found, read⟩ := Option.bind_eq_some_iff.mp read
      dsimp only at read
      split at read
      case h_2 => contradiction
      case h_1 =>
        split at read
        case isTrue => contradiction
        case isFalse order =>
          cases read
          refine ⟨_, front, .limited (fun head => ?_) found (Nat.not_lt.mp order)⟩
          obtain ⟨tail, close⟩ := List.head?_eq_some_iff.mp head
          exact further tail close
    case h_4 => contradiction
  · rintro ⟨rest, front, counts⟩
    cases counts with
    | exactly => simp [readCounts, front]
    | unlimited => simp [readCounts, front]
    | limited further found order =>
        simp only [readCounts, front, bind, Option.bind_some]
        split
        case h_1 same => simp at same
        case h_2 same => exact absurd (congrArg List.head? (List.cons.inj same).2) further
        case h_3 same =>
          obtain rfl := (List.cons.inj same).2
          simp [found, order]
        case h_4 none => exact absurd rfl (none _)

theorem CountsEnd.behind (counts : CountsEnd least r y most) : Behind r y := by
  cases counts with
  | exactly => exact Behind.cons (List.suffix_refl r)
  | unlimited => exact Behind.cons (List.suffix_cons _ r)
  | limited _ found _ => exact Behind.cons ((List.suffix_cons _ r).trans (readCount_suffix found))

theorem CountsEnd.le (counts : CountsEnd least r y most) : ∀ limit ∈ most, least ≤ limit := by
  intro limit given
  cases counts with
  | exactly =>
      cases given
      exact Nat.le_refl least
  | unlimited => contradiction
  | limited _ _ order =>
      cases given
      exact order

theorem CountsEnd.carry (closes : Closes t) (also : Closes u)
    (counts : CountsEnd least (r ++ t) (x ++ t) most) : CountsEnd least (r ++ u) (x ++ u) most := by
  have behind := counts.behind
  cases x with
  | nil => exact absurd behind (not_behind_of_suffix (List.suffix_refl t))
  | cons c x =>
      rw [List.cons_append] at counts
      generalize whole : c :: (x ++ t) = input at counts
      cases counts with
      | exactly =>
          obtain ⟨rfl, same⟩ := List.cons.inj whole
          rw [List.append_cancel_right same]
          exact .exactly
      | unlimited =>
          obtain ⟨rfl, same⟩ := List.cons.inj whole
          rw [← List.cons_append] at same
          rw [List.append_cancel_right same]
          exact .unlimited
      | limited further found order =>
          obtain ⟨rfl, rfl⟩ := List.cons.inj whole
          rw [readCount_append closes] at found
          obtain ⟨back, left, own⟩ := exists_own found
          rw [← List.cons_append] at left
          rw [← List.append_cancel_right left] at own
          rw [List.cons_append]
          refine .limited ?_ ?_ order
          · cases x with
            | nil => cases also <;> simp
            | cons d x => exact further
          · rw [readCount_append also, own]
            rfl

theorem readCounts_behind (read : readCounts y = some (least, most, r)) : Behind r y := by
  obtain ⟨rest, front, counts⟩ := readCounts_eq_some_iff.mp read
  exact counts.behind.trans_suffix (readCount_suffix front)

theorem readCounts_carry (closes : Closes t) (also : Closes u)
    (read : readCounts (x ++ t) = some (least, most, r ++ t)) :
    readCounts (x ++ u) = some (least, most, r ++ u) := by
  obtain ⟨rest, front, counts⟩ := readCounts_eq_some_iff.mp read
  rw [readCount_append closes] at front
  obtain ⟨back, rfl, own⟩ := exists_own front
  rw [readCounts_eq_some_iff]
  refine ⟨back ++ u, ?_, counts.carry closes also⟩
  rw [readCount_append also, own]
  rfl

/-! ### Groups -/

theorem readGroupName_behind {names : List (List Char)} {name : List Char}
    (read : readGroupName names y = some (name, r)) : Behind r y := by
  unfold readGroupName at read
  split at read
  case h_1 => contradiction
  case h_2 close rest found =>
    dsimp only at read
    split at read
    case isTrue =>
      cases read
      exact (Behind.cons (List.suffix_refl r)).trans_suffix (found ▸ List.dropWhile_suffix _)
    case isFalse => contradiction

theorem readGroupName_carry {names : List (List Char)} {name : List Char}
    (read : readGroupName names (x ++ t) = some (name, r ++ t)) :
    readGroupName names (x ++ u) = some (name, r ++ u) := by
  unfold readGroupName at read
  split at read
  case h_1 => contradiction
  case h_2 close rest found =>
    dsimp only at read
    split at read
    case isTrue proper =>
      obtain ⟨rfl, rfl⟩ := Prod.mk.inj (Option.some.inj read)
      obtain ⟨name, further⟩ := run_carry found u
      rw [readGroupName, name, further]
      exact if_pos proper
    case isFalse => contradiction

theorem readFlags_suffix {seen seen' : List Char} {value : Bool} {last : Char} {flags' : Flags}
    (read : readFlags flags seen value last y = some (flags', seen', r)) : r <:+ y := by
  induction y generalizing flags seen value last with
  | nil => contradiction
  | cons c y ih =>
      unfold readFlags at read
      split at read
      · split at read
        · contradiction
        · cases read
          exact List.suffix_refl _
      · refine List.IsSuffix.trans ?_ (List.suffix_cons c y)
        split at read
        · contradiction
        · split at read
          · exact ih read
          · obtain ⟨set, -, further⟩ := Option.bind_eq_some_iff.mp read
            exact ih further

theorem readFlags_carry {seen seen' : List Char} {value : Bool} {last : Char} {flags' : Flags}
    (read : readFlags flags seen value last (x ++ t) = some (flags', seen', c :: (r ++ t))) :
    readFlags flags seen value last (x ++ u) = some (flags', seen', c :: (r ++ u)) := by
  induction x generalizing flags seen value last with
  | nil =>
      have behind : Behind (r ++ t) t :=
        (Behind.cons (List.suffix_refl _)).trans_suffix (readFlags_suffix read)
      exact absurd behind (not_behind_of_suffix (List.suffix_refl t))
  | cons d x ih =>
      rw [List.cons_append, readFlags] at read ⊢
      split at read
      case isTrue close =>
        rw [if_pos close]
        split at read
        case isTrue => contradiction
        case isFalse letter =>
          rw [if_neg letter]
          obtain ⟨rfl, rfl, whole⟩ : flags = flags' ∧ seen = seen' ∧ d :: (x ++ t) = c :: (r ++ t) := by
            simpa using read
          obtain ⟨rfl, same⟩ := List.cons.inj whole
          rw [List.append_cancel_right same]
      case isFalse further =>
        rw [if_neg further]
        split at read
        case isTrue => contradiction
        case isFalse first =>
          rw [if_neg first]
          split at read
          case isTrue hyphen =>
            rw [if_pos hyphen]
            exact ih read
          case isFalse letter =>
            rw [if_neg letter]
            obtain ⟨set, known, rest⟩ := Option.bind_eq_some_iff.mp read
            rw [known]
            exact ih rest

/-- How an opening parenthesis is read on: a name behind one of two signs, flags for what follows or for the
group alone, or nothing. -/
inductive OpeningStep (flags : Flags) (names : List (List Char)) :
    List Char → Opening → List (List Char) → List Char → Prop
  | named {sign rest name r : List Char} : sign = ['?', 'P', '<'] ∨ sign = ['?', '<'] →
      readGroupName names rest = some (name, r) →
      OpeningStep flags names (sign ++ rest) (.group true flags) (name :: names) r
  | switched {rest seen r : List Char} {flags' : Flags} : seen ≠ [] →
      readFlags flags [] true ' ' rest = some (flags', seen, ')' :: r) →
      OpeningStep flags names ('?' :: rest) (.flags flags') names r
  | flagged {rest seen r : List Char} {c : Char} {flags' : Flags} : c ≠ ')' →
      readFlags flags [] true ' ' rest = some (flags', seen, c :: r) →
      OpeningStep flags names ('?' :: rest) (.group false flags') names r
  | plain {input : List Char} : input.head? ≠ some '?' →
      OpeningStep flags names input (.group true flags) names input

theorem readGroupName_lookaround {names : List (List Char)} (around : c = '=' ∨ c = '!') (y : List Char) :
    readGroupName names (c :: y) = none := by
  have noName : isNameStart c = false := by rcases around with rfl | rfl <;> decide +kernel
  have inName : (c != '>') = true := by rcases around with rfl | rfl <;> decide
  simp only [readGroupName, List.takeWhile_cons, inName, if_true, List.head?_cons, Option.any_some, noName]
  split <;> rfl

/-- What opens a name or looks around is no flag. -/
theorem ne_of_readFlags_cons {read : Flags × List Char × List Char}
    (found : readFlags flags [] true ' ' (c :: r) = some read) :
    c ≠ 'P' ∧ c ≠ '<' ∧ c ≠ '=' ∧ c ≠ '!' := by
  refine ⟨?_, ?_, ?_, ?_⟩
  all_goals
    rintro rfl
    simp [readFlags, Flags.set?] at found

theorem OpeningStep.of_readOpening {scan inner : Scan} {opening : Opening}
    (read : readOpening scan y = some (opening, inner)) : inner.flags = scan.flags ∧
      OpeningStep scan.flags scan.names y opening inner.names inner.input := by
  simp only [readOpening] at read
  split at read
  case h_1 =>
    obtain ⟨⟨name, rest⟩, found, same⟩ := Option.bind_eq_some_iff.mp read
    cases same
    exact ⟨rfl, .named (.inl rfl) found⟩
  case h_2 =>
    split at read
    case h_3 =>
      obtain ⟨⟨name, rest⟩, found, same⟩ := Option.bind_eq_some_iff.mp read
      cases same
      exact ⟨rfl, .named (.inr rfl) found⟩
    all_goals contradiction
  case h_5 =>
    obtain ⟨⟨flags, seen, rest⟩, found, read⟩ := Option.bind_eq_some_iff.mp read
    dsimp only at read
    split at read
    case h_1 =>
      split at read
      case isTrue => contradiction
      case isFalse nonempty =>
        cases read
        exact ⟨rfl, .switched (by simpa using nonempty) found⟩
    case h_2 other =>
      cases read
      exact ⟨rfl, .flagged other found⟩
    case h_3 => contradiction
  case h_6 further =>
    cases read
    refine ⟨rfl, .plain fun head => ?_⟩
    obtain ⟨rest, rfl⟩ := List.head?_eq_some_iff.mp head
    exact further rest rfl
  all_goals contradiction

theorem OpeningStep.readOpening {scan : Scan} {names : List (List Char)} {opening : Opening}
    (step : OpeningStep scan.flags scan.names y opening names r) :
    readOpening scan y = some (opening, ⟨scan.flags, names, r⟩) := by
  simp only [Pattern.readOpening]
  cases step with
  | named sign found =>
      rcases sign with rfl | rfl
      · simp [found]
      · simp only [List.cons_append, List.nil_append]
        split
        case h_1 => simp [readGroupName_lookaround] at found
        case h_2 => simp [readGroupName_lookaround] at found
        case h_3 => simp [found]
  | @switched rest seen _ _ nonempty found =>
      cases rest with
      | nil => contradiction
      | cons d rest =>
          obtain ⟨noName, noSign, noAhead, noBehind⟩ := ne_of_readFlags_cons found
          simp [noName, noSign, noAhead, noBehind, found, nonempty]
  | @flagged rest _ _ _ _ other found =>
      cases rest with
      | nil => contradiction
      | cons d rest =>
          obtain ⟨noName, noSign, noAhead, noBehind⟩ := ne_of_readFlags_cons found
          simp [noName, noSign, noAhead, noBehind, found]
  | plain head =>
      cases y with
      | nil => rfl
      | cons d rest =>
          have other : d ≠ '?' := fun same => head (congrArg some same)
          simp [other]

theorem OpeningStep.suffix {names names' : List (List Char)} {opening : Opening}
    (step : OpeningStep flags names y opening names' r) : r <:+ y := by
  cases step with
  | named _ found => exact (readGroupName_behind found).suffix.trans (List.suffix_append _ _)
  | switched _ found | flagged _ found =>
      have left := (List.suffix_cons _ r).trans (readFlags_suffix found)
      exact left.trans (List.suffix_cons _ _)
  | plain => exact List.suffix_refl _

/-- Flags for what follows are not read without reading on. -/
theorem OpeningStep.behind {names names' : List (List Char)} {flags' : Flags}
    (step : OpeningStep flags names y (.flags flags') names' r) : Behind r y := by
  cases step with
  | switched _ found => exact Behind.cons ((List.suffix_cons _ r).trans (readFlags_suffix found))

theorem OpeningStep.carry {names names' : List (List Char)} {opening : Opening} (closes : Closes t)
    (also : Closes u) (step : OpeningStep flags names (x ++ t) opening names' (r ++ t)) :
    OpeningStep flags names (x ++ u) opening names' (r ++ u) := by
  generalize whole : x ++ t = input at step
  generalize back : r ++ t = rest at step
  cases step with
  | @named sign rest name _ given found =>
      subst back
      have plain : ')' ∉ sign := by rcases given with rfl | rfl <;> simp
      obtain ⟨z, rfl, rfl⟩ := exists_middle plain closes whole.symm
      rw [List.append_assoc]
      exact .named given (readGroupName_carry found)
  | switched nonempty found =>
      subst back
      rw [← List.singleton_append] at whole
      obtain ⟨z, rfl, rfl⟩ := exists_middle (by simp) closes whole.symm
      exact .switched nonempty (readFlags_carry found)
  | flagged other found =>
      subst back
      rw [← List.singleton_append] at whole
      obtain ⟨z, rfl, rfl⟩ := exists_middle (by simp) closes whole.symm
      exact .flagged other (readFlags_carry found)
  | plain head =>
      obtain rfl := List.append_cancel_right (whole.trans back.symm)
      cases x with
      | nil =>
          refine .plain ?_
          cases also <;> simp
      | cons c x =>
          subst whole
          exact .plain head

end ServiceMesh.Pattern
