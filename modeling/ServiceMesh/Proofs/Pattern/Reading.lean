import ServiceMesh.Proofs.Pattern.Classes
import ServiceMesh.Proofs.Pattern.Groups
import ServiceMesh.Proofs.Pattern.Search

/-! How the branches of a pattern are read, one part after another. Whatever is read stops where nothing is
left or a parenthesis closes the group, and it is read the same before one such end as before another. -/
namespace ServiceMesh.Pattern

variable {flags flags' : Flags} {names names' : List (List Char)} {x y z r t u : List Char} {c : Char}
  {least : Nat} {most : Option Nat} {progress : Progress} {nested : Nested} {after : Scan} {fuel : Nat}

/-! ### Repetitions and single parts -/

/-- A sign that repeats what stands before it, with its counts. -/
def repetition? : List Char → Option (Nat × Option Nat × List Char)
  | '*' :: rest => some (0, none, skipLazy rest)
  | '+' :: rest => some (1, none, skipLazy rest)
  | '?' :: rest => some (0, some 1, skipLazy rest)
  | '\x7b' :: rest => (readCounts rest).map fun read => (read.1, read.2.1, skipLazy read.2.2)
  | _ => none

/-- A part that is no group, no class and no repetition. -/
def part? (flags : Flags) : List Char → Option (Pattern × List Char)
  | [] => none
  | c :: rest =>
      match c with
      | ')' | '|' | '(' | '[' | '*' | '+' | '?' | '\x7b' => none
      | '\\' => (readEscape rest).map fun read => (flags.atom read.1, read.2)
      | '.' => some (flags.dot, rest)
      | '^' => some (flags.lineStart, rest)
      | '$' => some (flags.lineEnd, rest)
      | c => some (flags.literal c, rest)

theorem skipLazy_suffix (y : List Char) : skipLazy y <:+ y := by
  unfold skipLazy
  split
  · exact List.suffix_cons _ _
  · exact List.suffix_refl _

theorem skipLazy_append (closes : Closes u) (x : List Char) : skipLazy (x ++ u) = skipLazy x ++ u := by
  cases x with
  | nil => cases closes <;> rfl
  | cons c x =>
      by_cases sign : c = '?'
      · subst sign
        rfl
      · simp [skipLazy, sign]

theorem repetition?_behind (read : repetition? y = some (least, most, r)) : Behind r y := by
  unfold repetition? at read
  split at read
  case h_4 =>
    obtain ⟨⟨_, _, next⟩, counts, same⟩ := Option.map_eq_some_iff.mp read
    cases same
    exact Behind.cons ((skipLazy_suffix next).trans (readCounts_behind counts).suffix)
  case h_5 => contradiction
  all_goals
    cases read
    exact Behind.cons (skipLazy_suffix _)

/-- A repetition is read only if some number of rounds is allowed. -/
theorem repetition?_le (read : repetition? y = some (least, most, r)) :
    ∀ limit ∈ most, least ≤ limit := by
  unfold repetition? at read
  split at read
  case h_4 =>
    obtain ⟨⟨_, _, next⟩, counts, same⟩ := Option.map_eq_some_iff.mp read
    cases same
    obtain ⟨rest, -, ends⟩ := readCounts_eq_some_iff.mp counts
    exact ends.le
  case h_5 => contradiction
  all_goals
    cases read
    simp

theorem repetition?_carry (closes : Closes t) (also : Closes u)
    (read : repetition? (c :: (x ++ t)) = some (least, most, r ++ t)) :
    repetition? (c :: (x ++ u)) = some (least, most, r ++ u) := by
  have lazy {w : List Char} (same : skipLazy (w ++ t) = r ++ t) : skipLazy (w ++ u) = r ++ u := by
    rw [skipLazy_append closes] at same
    rw [skipLazy_append also, List.append_cancel_right same]
  generalize whole : c :: (x ++ t) = input at read
  unfold repetition? at read
  split at read
  case h_4 =>
    obtain ⟨rfl, rfl⟩ := List.cons.inj whole
    obtain ⟨⟨_, _, next⟩, counts, same⟩ := Option.map_eq_some_iff.mp read
    obtain ⟨rfl, rfl, left⟩ : _ = least ∧ _ = most ∧ skipLazy next = r ++ t := by simpa using same
    obtain ⟨z, rfl, -⟩ := exists_front (left ▸ skipLazy_suffix next)
    rw [repetition?, readCounts_carry closes also counts, Option.map_some, lazy left]
  case h_5 => contradiction
  all_goals
    obtain ⟨rfl, rfl⟩ := List.cons.inj whole
    obtain ⟨rfl, rfl, left⟩ : _ = least ∧ _ = most ∧ skipLazy (x ++ t) = r ++ t := by simpa using read
    simp [repetition?, lazy left]

theorem part?_behind {pattern : Pattern} (read : part? flags y = some (pattern, r)) : Behind r y := by
  cases y with
  | nil => contradiction
  | cons c y =>
      unfold part? at read
      dsimp only at read
      split at read
      case h_9 =>
        obtain ⟨⟨atom, next⟩, escape, same⟩ := Option.map_eq_some_iff.mp read
        cases same
        exact Behind.cons (readEscape_behind escape).suffix
      all_goals
        first
        | contradiction
        | cases read
          exact Behind.cons (List.suffix_refl _)

theorem part?_carry {pattern : Pattern} (closes : Closes t) (also : Closes u)
    (read : part? flags (c :: (x ++ t)) = some (pattern, r ++ t)) :
    part? flags (c :: (x ++ u)) = some (pattern, r ++ u) := by
  unfold part? at read ⊢
  dsimp only at read ⊢
  split at read
  case h_9 =>
    obtain ⟨⟨atom, next⟩, escape, same⟩ := Option.map_eq_some_iff.mp read
    cases same
    simp [readEscape_carry closes also escape]
  all_goals
    first
    | contradiction
    | obtain ⟨rfl, same⟩ := Prod.mk.inj (Option.some.inj read)
      rw [List.append_cancel_right same]

/-- How a group is read on. -/
inductive BranchStep (fuel : Nat) (progress : Progress) (flags : Flags) (names : List (List Char))
    (nested : Nested) (after : Scan) : List Char → Prop
  | stop {input : List Char} : Closes input → progress.finish = nested → ⟨flags, names, input⟩ = after →
      BranchStep fuel progress flags names nested after input
  | bar {rest : List Char} :
      readBranches fuel progress.next ⟨flags, names, rest⟩ = some (nested, after) →
      BranchStep fuel progress flags names nested after ('|' :: rest)
  | switch {rest next : List Char} {flags' : Flags} {names' : List (List Char)} :
      OpeningStep flags names rest (.flags flags') names' next →
      readBranches fuel progress.pushFlags ⟨flags', names', next⟩ = some (nested, after) →
      BranchStep fuel progress flags names nested after ('(' :: rest)
  | group {rest inside next : List Char} {captures : Bool} {flags' flags'' : Flags}
      {names' names'' : List (List Char)} {body : Nested} :
      OpeningStep flags names rest (.group captures flags') names' inside →
      readBranches fuel .start ⟨flags', names', inside⟩ = some (body, ⟨flags'', names'', ')' :: next⟩) →
      readBranches fuel (progress.push (.group captures body.pattern) (body.nesting + 1))
        ⟨flags, names'', next⟩ = some (nested, after) →
      BranchStep fuel progress flags names nested after ('(' :: rest)
  | set {rest next : List Char} {part : ClassPart} : readClass flags fuel rest = some (part, next) →
      readBranches fuel (progress.push (.oneOf part.set) part.nesting) ⟨flags, names, next⟩ =
        some (nested, after) →
      BranchStep fuel progress flags names nested after ('[' :: rest)
  | repetition {input next : List Char} {least : Nat} {most : Option Nat} {repeated : Progress} :
      repetition? input = some (least, most, next) →
      progress.repeatLast least most = some repeated →
      readBranches fuel repeated ⟨flags, names, next⟩ = some (nested, after) →
      BranchStep fuel progress flags names nested after input
  | part {input next : List Char} {pattern : Pattern} : part? flags input = some (pattern, next) →
      readBranches fuel (progress.push pattern 0) ⟨flags, names, next⟩ = some (nested, after) →
      BranchStep fuel progress flags names nested after input

theorem BranchStep.of_readBranches
    (read : readBranches (fuel + 1) progress ⟨flags, names, y⟩ = some (nested, after)) :
    BranchStep fuel progress flags names nested after y := by
  rw [readBranches] at read
  dsimp only at read
  split at read
  case h_1 =>
    cases read
    exact .stop .nothing rfl rfl
  case h_2 rest =>
    cases read
    exact .stop (.parenthesis rest) rfl rfl
  case h_3 => exact .bar read
  case h_4 rest =>
    obtain ⟨⟨opening, inner⟩, opened, read⟩ := Option.bind_eq_some_iff.mp read
    obtain ⟨same, step⟩ := OpeningStep.of_readOpening opened
    cases opening with
    | flags => exact .switch step read
    | group captures flags' =>
        obtain ⟨⟨body, stopped⟩, inside, read⟩ := Option.bind_eq_some_iff.mp read
        obtain ⟨flags'', names'', left⟩ := stopped
        dsimp only at read
        split at read
        case h_1 next => exact .group step inside read
        case h_2 => contradiction
  case h_5 =>
    obtain ⟨⟨part, next⟩, found, read⟩ := Option.bind_eq_some_iff.mp read
    exact .set found read
  case h_9 =>
    obtain ⟨⟨least, most, next⟩, counts, read⟩ := Option.bind_eq_some_iff.mp read
    obtain ⟨repeated, last, read⟩ := Option.bind_eq_some_iff.mp read
    exact .repetition (by rw [repetition?, counts]; rfl) last read
  case h_10 =>
    obtain ⟨⟨atom, next⟩, escape, read⟩ := Option.bind_eq_some_iff.mp read
    exact .part (by simp [part?, escape]) read
  case h_14 => exact .part (by simp [part?, *]) read
  -- What is left are the signs that repeat, then the signs that stand for themselves.
  all_goals
    first
    | exact .part rfl read
    | obtain ⟨repeated, last, read⟩ := Option.bind_eq_some_iff.mp read
      exact .repetition rfl last read

theorem BranchStep.readBranches (step : BranchStep fuel progress flags names nested after y) :
    readBranches (fuel + 1) progress ⟨flags, names, y⟩ = some (nested, after) := by
  rw [Pattern.readBranches]
  dsimp only
  cases step with
  | stop closes made left =>
      cases closes with
      | nothing => simp [made, left]
      | parenthesis => simp [made, left]
  | bar further => exact further
  | @switch rest next flags' names' opening further =>
      have opened : readOpening ⟨flags, names, '(' :: rest⟩ rest =
          some (.flags flags', ⟨flags, names', next⟩) :=
        opening.readOpening
      simp [opened, further]
  | @group rest inner _ captures flags' _ names' _ _ opening inside further =>
      have opened : readOpening ⟨flags, names, '(' :: rest⟩ rest =
          some (.group captures flags', ⟨flags, names', inner⟩) :=
        opening.readOpening
      simp [opened, inside, further]
  | set found further => simp [found, further]
  | repetition given last further =>
      unfold repetition? at given
      split at given
      case h_4 =>
        obtain ⟨⟨_, _, next⟩, counts, same⟩ := Option.map_eq_some_iff.mp given
        cases same
        simp [counts, last, further]
      case h_5 => contradiction
      all_goals
        cases given
        simp [last, further]
  | part given further =>
      cases y with
      | nil => contradiction
      | cons c rest =>
          unfold part? at given
          dsimp only at given
          split at given
          case h_9 =>
            obtain ⟨⟨atom, next⟩, escape, same⟩ := Option.map_eq_some_iff.mp given
            cases same
            simp [escape, further]
          case h_13 =>
            cases given
            simp [*]
          all_goals
            first
            | contradiction
            | cases given
              exact further

theorem readBranches_succ_iff : readBranches (fuel + 1) progress ⟨flags, names, y⟩ = some (nested, after) ↔
    BranchStep fuel progress flags names nested after y :=
  ⟨BranchStep.of_readBranches, BranchStep.readBranches⟩

theorem BranchStep.of_closes (closes : Closes y)
    (step : BranchStep fuel progress flags names nested after y) :
    progress.finish = nested ∧ ⟨flags, names, y⟩ = after := by
  cases step with
  | stop _ made left => exact ⟨made, left⟩
  | bar | switch | group | set => cases closes
  | repetition given => cases closes <;> contradiction
  | part given => cases closes <;> contradiction

/-- Reading goes on to a place where the group at hand can end. -/
theorem readBranches_left (read : readBranches fuel progress ⟨flags, names, y⟩ = some (nested, after)) :
    Closes after.input ∧ after.input <:+ y := by
  induction fuel generalizing progress flags names y nested after with
  | zero => simp [readBranches] at read
  | succ fuel ih =>
      have step := readBranches_succ_iff.mp read
      cases step with
      | stop closes _ left =>
          subst left
          exact ⟨closes, List.suffix_refl _⟩
      | bar further => exact (ih further).imp_right fun left => left.trans (List.suffix_cons _ _)
      | switch opening further =>
          refine (ih further).imp_right fun left => ?_
          exact (left.trans opening.suffix).trans (List.suffix_cons _ _)
      | group opening inside further =>
          refine (ih further).imp_right fun left => ?_
          have body := (List.suffix_cons _ _).trans (ih inside).2
          exact ((left.trans body).trans opening.suffix).trans (List.suffix_cons _ _)
      | set found further =>
          refine (ih further).imp_right fun left => ?_
          exact (left.trans ((readClass_behind flags fuel).2 found).suffix).trans (List.suffix_cons _ _)
      | repetition given _ further =>
          exact (ih further).imp_right fun left => left.trans (repetition?_behind given).suffix
      | part given further =>
          exact (ih further).imp_right fun left => left.trans (part?_behind given).suffix

/-! ### Before another end -/

/-- Branches are read the same before `u` as before `t`, with calls of their own as in `ReadsClass`. -/
def ReadsBranches (t u : List Char) (fuel : Nat) : Prop :=
  ∀ {limit progress flags names x nested flags' names' r},
    readBranches fuel progress ⟨flags, names, x ++ t⟩ = some (nested, ⟨flags', names', r ++ t⟩) →
    x.length < limit + r.length →
    readBranches limit progress ⟨flags, names, x ++ u⟩ = some (nested, ⟨flags', names', r ++ u⟩)

theorem ReadsBranches.step {limit : Nat} (reads : ReadsBranches t u fuel) (closes : Closes t)
    (also : Closes u) (bound : y.length < limit + r.length)
    (step : BranchStep fuel progress flags names nested ⟨flags', names', r ++ t⟩ (c :: (y ++ t))) :
    BranchStep limit progress flags names nested ⟨flags', names', r ++ u⟩ (c :: (y ++ u)) := by
  have left {flags₁ names₁ progress₁ next nested₁ flags₂ names₂ r}
      (further : readBranches fuel progress₁ ⟨flags₁, names₁, next⟩ =
        some (nested₁, ⟨flags₂, names₂, r ++ t⟩)) : r ++ t <:+ next := (readBranches_left further).2
  generalize whole : c :: (y ++ t) = input at step
  cases step with
  | stop ends made same =>
      obtain ⟨rfl, rfl, back⟩ : flags = flags' ∧ names = names' ∧ input = r ++ t := by simpa using same
      subst whole
      obtain rfl : c :: y = r := List.append_cancel_right back
      refine .stop ?_ made rfl
      cases ends
      exact .parenthesis _
  | bar further =>
      obtain ⟨rfl, rfl⟩ := List.cons.inj whole
      exact .bar (reads further bound)
  | switch opening further =>
      obtain ⟨rfl, rfl⟩ := List.cons.inj whole
      obtain ⟨z, rfl, -⟩ := exists_front (left further)
      have shorter := length_le_of_suffix opening.suffix
      exact .switch (opening.carry closes also) (reads further (by omega))
  | @group _ _ next _ _ _ _ _ _ opening inside further =>
      obtain ⟨rfl, rfl⟩ := List.cons.inj whole
      obtain ⟨z, rfl, back⟩ := exists_front (left further)
      rw [← List.cons_append] at inside
      obtain ⟨q, rfl, body⟩ := exists_front (left inside)
      have shorter := length_le_of_suffix opening.suffix
      have longer := body.length_le
      have rest := back.length_le
      rw [List.length_cons] at longer
      have within : readBranches limit _ _ = _ := reads inside (by rw [List.length_cons]; omega)
      exact .group (opening.carry closes also) within (reads further (by omega))
  | set found further =>
      obtain ⟨rfl, rfl⟩ := List.cons.inj whole
      obtain ⟨z, rfl, back⟩ := exists_front (left further)
      have shorter := ((readClass_behind flags fuel).2 found).length_lt
      have rest := back.length_le
      exact .set ((readsClass flags closes also fuel).whole found (by omega)) (reads further (by omega))
  | repetition given last further =>
      subst whole
      obtain ⟨z, rfl, -⟩ := exists_front (left further)
      have shorter := Behind.length_lt (x := c :: y) (repetition?_behind given)
      rw [List.length_cons] at shorter
      exact .repetition (repetition?_carry closes also given) last (reads further (by omega))
  | part given further =>
      subst whole
      obtain ⟨z, rfl, -⟩ := exists_front (left further)
      have shorter := Behind.length_lt (x := c :: y) (part?_behind given)
      rw [List.length_cons] at shorter
      exact .part (part?_carry closes also given) (reads further (by omega))

/-- Branches are read the same before another end. -/
theorem readsBranches (closes : Closes t) (also : Closes u) (fuel : Nat) : ReadsBranches t u fuel := by
  induction fuel with
  | zero =>
      intro _ _ _ _ _ _ _ _ _ read
      simp [readBranches] at read
  | succ fuel reads =>
      intro limit progress flags names x nested flags' names' r read bound
      have shorter := length_le_of_suffix (readBranches_left read).2
      have step := readBranches_succ_iff.mp read
      cases limit with
      | zero => omega
      | succ limit =>
          rw [readBranches_succ_iff]
          cases x with
          | nil =>
              obtain ⟨made, same⟩ := step.of_closes closes
              obtain ⟨rfl, rfl, rfl⟩ : flags = flags' ∧ names = names' ∧ r = [] := by simpa using same
              exact .stop also made rfl
          | cons c y =>
              rw [List.length_cons] at bound
              exact reads.step closes also (by omega) step

end ServiceMesh.Pattern
