import ServiceMesh.Proofs.Pattern.Lookahead

/-! A class of characters is read the same before one end of a pattern as before another, though its
parts look ahead: a named set for its last bracket, and a hyphen for what the range ends with. What they
find in doing so stands in the class, or they would have read into the end. -/
namespace ServiceMesh.Pattern

variable {flags : Flags} {x y r t u : List Char} {c : Char} {set : CharSet} {negated : Bool}

/-! ### Named sets -/

theorem not_mem_of_named? {name : List Char} (named : CharSet.named? name = some set) : ')' ∉ name := by
  intro member
  unfold CharSet.named? at named
  split at named
  all_goals
    first
    | contradiction
    | rename_i same
      rw [← String.toList_ofList (l := name), same] at member
      revert member
      decide

/-- A named set behind its colon and its sign. -/
def nameOfSet? (flags : Flags) (negated : Bool) (input : List Char) : Option (CharSet × List Char) :=
  match input.dropWhile (· != ':') with
  | ':' :: ']' :: after => do
      let set ← CharSet.named? (input.takeWhile (· != ':'))
      return (flags.finish negated set, after)
  | _ => none

theorem namedClass?_negated (flags : Flags) (y : List Char) :
    namedClass? flags (':' :: '^' :: y) = nameOfSet? flags true y := rfl

theorem namedClass?_plain (flags : Flags) (head : y.head? ≠ some '^') :
    namedClass? flags (':' :: y) = nameOfSet? flags false y := by
  cases y with
  | nil => rfl
  | cons c y =>
      have plain : c ≠ '^' := fun same => head (congrArg some same)
      simp [namedClass?, plain]
      rfl

/-- What is read of a name has no parenthesis in it, and it is read the same before anything. -/
theorem nameOfSet?_front (read : nameOfSet? flags negated y = some (set, r)) :
    ∃ front, ')' ∉ front ∧ y = front ++ r ∧ front ≠ [] ∧
      ∀ other, nameOfSet? flags negated (front ++ other) = some (set, other) := by
  unfold nameOfSet? at read
  split at read
  case h_2 => contradiction
  case h_1 after found =>
    obtain ⟨own, named, same⟩ := Option.bind_eq_some_iff.mp read
    obtain ⟨rfl, rfl⟩ := Prod.mk.inj (Option.some.inj same)
    refine ⟨y.takeWhile (· != ':') ++ [':', ']'], ?_, ?_, by simp, fun other => ?_⟩
    · simp [not_mem_of_named? named]
    · have whole := List.takeWhile_append_dropWhile (p := (· != ':')) (l := y)
      rw [found] at whole
      simp [whole]
    · obtain ⟨front, back⟩ := run_front found (']' :: other)
      rw [List.append_assoc, List.cons_append, List.singleton_append, nameOfSet?, front, back]
      simp [named]

theorem namedClass?_front (read : namedClass? flags y = some (set, r)) :
    ∃ front, ')' ∉ front ∧ y = front ++ r ∧
      ∀ other, namedClass? flags (front ++ other) = some (set, other) := by
  obtain ⟨y, rfl⟩ : ∃ rest, y = ':' :: rest := by
    unfold namedClass? at read
    split at read
    · exact ⟨_, rfl⟩
    · contradiction
  by_cases signed : y.head? = some '^'
  · obtain ⟨y, rfl⟩ := List.head?_eq_some_iff.mp signed
    rw [namedClass?_negated] at read
    obtain ⟨front, plain, rfl, -, further⟩ := nameOfSet?_front read
    exact ⟨':' :: '^' :: front, by simp [plain], rfl, further⟩
  · rw [namedClass?_plain flags signed] at read
    obtain ⟨front, plain, rfl, nonempty, further⟩ := nameOfSet?_front read
    refine ⟨':' :: front, by simp [plain], rfl, fun other => ?_⟩
    obtain ⟨d, front, rfl⟩ := List.exists_cons_of_ne_nil nonempty
    rw [List.cons_append, namedClass?_plain (y := d :: front ++ other) flags signed]
    exact further other

theorem namedClass?_append (closes : Closes u) : namedClass? flags (x ++ u) =
    (namedClass? flags x).map fun read => (read.1, read.2 ++ u) := by
  cases own : namedClass? flags x with
  | some read =>
      obtain ⟨front, -, rfl, further⟩ := namedClass?_front own
      rw [List.append_assoc, further]
      rfl
  | none =>
      cases found : namedClass? flags (x ++ u) with
      | none => rfl
      | some read =>
          obtain ⟨front, plain, same, further⟩ := namedClass?_front found
          obtain ⟨z, rfl, -⟩ := exists_middle plain closes same.symm
          rw [further] at own
          contradiction

/-! ### Items -/

theorem classAtom_behind {atom : Atom} (read : classAtom y = some (atom, r)) : Behind r y := by
  unfold classAtom at read
  split at read
  case h_1 => contradiction
  case h_2 rest => exact Behind.cons (readEscape_behind read).suffix
  case h_3 =>
    cases read
    exact Behind.cons (List.suffix_refl _)

theorem classAtom_carry {atom : Atom} (closes : Closes t) (also : Closes u)
    (read : classAtom (x ++ t) = some (atom, r ++ t)) :
    classAtom (x ++ u) = some (atom, r ++ u) := by
  cases x with
  | nil => exact absurd (classAtom_behind read) (not_behind_of_suffix (List.suffix_refl t))
  | cons c x =>
      by_cases escape : c = '\\'
      · subst escape
        exact readEscape_carry closes also read
      · simp only [classAtom, List.cons_append] at read ⊢
        obtain ⟨rfl, same⟩ := Prod.mk.inj (Option.some.inj read)
        rw [List.append_cancel_right same]

/-- The range between two characters, if they are in order. -/
def Atom.rangeTo? (first last : Atom) : Option CharSet := do
  let .literal low := first | none
  let .literal high := last | none
  if high < low then none else some (.range low high)

/-- Behind a hyphen these signs end a class or begin an operator, so that there is no range. -/
def endsRange (c : Char) : Bool := c == ']' || c == '-'

/-- A hyphen behind an atom makes a range of it, unless nothing that it could end with follows. -/
def makesRange : List Char → Bool
  | '-' :: after => !after.head?.any endsRange
  | _ => false

/-- What an item with a first atom is, given what follows the atom. -/
def itemFrom? (first : Atom) (input : List Char) : Option (CharSet × List Char) :=
  if makesRange input then do
    let (last, rest) ← classAtom input.tail
    return (← first.rangeTo? last, rest)
  else do return (← first.toSet?, input)

theorem classItem_eq (y : List Char) :
    classItem y = (classAtom y).bind fun read => itemFrom? read.1 read.2 := by
  unfold classItem
  refine congrArg _ (funext fun read => ?_)
  obtain ⟨first, rest⟩ := read
  dsimp only
  split
  case h_1 => simp [itemFrom?, makesRange, endsRange]
  case h_2 => simp [itemFrom?, makesRange, endsRange]
  case h_3 after bracket again =>
    have range : makesRange ('-' :: after) = true := by
      cases after with
      | nil => rfl
      | cons d z =>
          have noBracket : d ≠ ']' := fun same => bracket z (same ▸ rfl)
          have noHyphen : d ≠ '-' := fun same => again z (same ▸ rfl)
          simp [makesRange, endsRange, noBracket, noHyphen]
    rw [itemFrom?, if_pos range]
    refine Option.bind_congr fun read _ => ?_
    obtain ⟨last, rest⟩ := read
    cases first with
    | literal low =>
        cases last with
        | literal high => by_cases order : high < low <;> simp [Atom.rangeTo?, order]
        | set | anchor => rfl
    | set | anchor => rfl
  case h_4 further =>
    have single : makesRange rest = false := by
      unfold makesRange
      split
      · exact absurd rfl (further _)
      · rfl
    simp [itemFrom?, single]

theorem itemFrom?_range_iff {first : Atom} (range : makesRange ('-' :: y) = true) :
    itemFrom? first ('-' :: y) = some (set, r) ↔
      ∃ last, classAtom y = some (last, r) ∧ first.rangeTo? last = some set := by
  rw [itemFrom?, if_pos range, List.tail_cons]
  constructor
  · intro read
    obtain ⟨⟨last, rest⟩, found, made⟩ := Option.bind_eq_some_iff.mp read
    obtain ⟨own, both, same⟩ := Option.bind_eq_some_iff.mp made
    obtain ⟨rfl, rfl⟩ := Prod.mk.inj (Option.some.inj same)
    exact ⟨last, found, both⟩
  · rintro ⟨last, found, both⟩
    simp [found, both]

theorem itemFrom?_single_iff {first : Atom} (single : makesRange y = false) :
    itemFrom? first y = some (set, r) ↔ first.toSet? = some set ∧ y = r := by
  constructor
  · intro read
    simp only [itemFrom?, single] at read
    obtain ⟨own, atom, same⟩ := Option.bind_eq_some_iff.mp read
    obtain ⟨rfl, rfl⟩ := Prod.mk.inj (Option.some.inj same)
    exact ⟨atom, rfl⟩
  · rintro ⟨atom, rfl⟩
    simp [itemFrom?, single, atom]

theorem exists_of_makesRange (range : makesRange y = true) : ∃ after, y = '-' :: after := by
  unfold makesRange at range
  split at range
  · exact ⟨_, rfl⟩
  · contradiction

theorem itemFrom?_suffix {first : Atom} (read : itemFrom? first y = some (set, r)) : r <:+ y := by
  cases range : makesRange y with
  | true =>
      obtain ⟨after, rfl⟩ := exists_of_makesRange range
      obtain ⟨last, found, -⟩ := (itemFrom?_range_iff range).mp read
      exact (classAtom_behind found).suffix.trans (List.suffix_cons '-' after)
  | false =>
      obtain ⟨-, rfl⟩ := (itemFrom?_single_iff range).mp read
      exact List.suffix_refl _

theorem itemFrom?_carry {first : Atom} (closes : Closes t) (also : Closes u)
    (read : itemFrom? first (y ++ t) = some (set, r ++ t)) :
    itemFrom? first (y ++ u) = some (set, r ++ u) := by
  have single (before : makesRange (y ++ t) = false) (behind : makesRange (y ++ u) = false) :
      itemFrom? first (y ++ u) = some (set, r ++ u) := by
    obtain ⟨atom, same⟩ := (itemFrom?_single_iff before).mp read
    exact (itemFrom?_single_iff behind).mpr ⟨atom, List.append_cancel_right same ▸ rfl⟩
  rcases y with _ | ⟨c, y⟩
  · apply single
    · cases closes <;> rfl
    · cases also <;> rfl
  · by_cases hyphen : c = '-'
    · subst hyphen
      cases y with
      | nil =>
          -- The range would end in what is left.
          have range : makesRange ('-' :: t) = true := by cases closes <;> rfl
          obtain ⟨last, found, -⟩ := (itemFrom?_range_iff range).mp read
          exact absurd (classAtom_behind found) (not_behind_of_suffix (List.suffix_refl t))
      | cons d z =>
          cases ends : endsRange d with
          | true => exact single (by simp [makesRange, ends]) (by simp [makesRange, ends])
          | false =>
              have range (v : List Char) : makesRange ('-' :: (d :: z ++ v)) = true := by
                simp [makesRange, ends]
              obtain ⟨last, found, both⟩ := (itemFrom?_range_iff (range t)).mp read
              exact (itemFrom?_range_iff (range u)).mpr
                ⟨last, classAtom_carry closes also found, both⟩
    · exact single (by simp [makesRange, hyphen]) (by simp [makesRange, hyphen])

theorem classItem_behind (read : classItem y = some (set, r)) : Behind r y := by
  rw [classItem_eq] at read
  obtain ⟨⟨first, rest⟩, found, item⟩ := Option.bind_eq_some_iff.mp read
  exact Behind.suffix_trans (itemFrom?_suffix item) (classAtom_behind found)

theorem classItem_carry (closes : Closes t) (also : Closes u)
    (read : classItem (x ++ t) = some (set, r ++ t)) : classItem (x ++ u) = some (set, r ++ u) := by
  rw [classItem_eq] at read ⊢
  obtain ⟨⟨first, rest⟩, found, item⟩ := Option.bind_eq_some_iff.mp read
  obtain ⟨y, rfl, -⟩ := exists_front (itemFrom?_suffix item)
  rw [classAtom_carry closes also found]
  exact itemFrom?_carry closes also item

/-! ### The front of a class -/

theorem leadingHyphens_suffix (y : List Char) : (leadingHyphens y).2 <:+ y := by
  fun_induction leadingHyphens y with
  | case1 rest count further read ih =>
      rw [read] at ih
      exact ih.trans (List.suffix_cons '-' rest)
  | case2 => exact List.suffix_refl _

theorem leadingHyphens_carry (more : ¬(leadingHyphens (x ++ t)).2 <:+ t) :
    ∃ count c z, c :: z <:+ x ∧ ∀ u, leadingHyphens (x ++ u) = (count, c :: (z ++ u)) := by
  induction x with
  | nil => exact absurd (leadingHyphens_suffix t) more
  | cons c x ih =>
      by_cases hyphen : c = '-'
      · subst hyphen
        obtain ⟨count, d, z, inside, next⟩ := ih more
        refine ⟨count + 1, d, z, inside.trans (List.suffix_cons _ _), fun u => ?_⟩
        rw [List.cons_append, leadingHyphens, next]
      · exact ⟨0, c, x, List.suffix_refl _, fun u => by simp [leadingHyphens, hyphen]⟩

theorem classFront_suffix (y : List Char) : (classFront y).2 <:+ (leadingHyphens y).2 := by
  unfold classFront
  split
  case h_1 read => exact read ▸ List.suffix_cons _ _
  case h_2 read => exact read ▸ List.suffix_refl _
  case h_3 read => exact read ▸ List.suffix_refl _

theorem classFront_carry (more : ¬(classFront (x ++ t)).2 <:+ t) :
    ∃ front z, z <:+ x ∧ ∀ u, classFront (x ++ u) = (front, z ++ u) := by
  obtain ⟨count, c, z, inside, next⟩ :=
    leadingHyphens_carry fun beyond => more ((classFront_suffix _).trans beyond)
  by_cases bracket : count = 0 ∧ c = ']'
  · obtain ⟨rfl, rfl⟩ := bracket
    refine ⟨⟨.single ']', [0]⟩, z, (List.suffix_cons _ _).trans inside, fun u => ?_⟩
    simp [classFront, next]
  · cases count with
    | zero =>
        refine ⟨.none, c :: z, inside, fun u => ?_⟩
        simp only [classFront, next]
        split <;> simp_all
    | succ count => exact ⟨_, c :: z, inside, fun u => by rw [classFront, next]; rfl⟩

/-- The sign of a class and what it begins with. -/
def classOpening : List Char → Bool × ClassItems × List Char
  | '^' :: rest => (true, classFront rest)
  | rest => (false, classFront rest)

theorem classOpening_plain (sign : y.head? ≠ some '^') : classOpening y = (false, classFront y) := by
  unfold classOpening
  split
  case h_1 => exact absurd rfl sign
  case h_2 => rfl

theorem readClass_succ (flags : Flags) (fuel : Nat) (y : List Char) :
    readClass flags (fuel + 1) y =
      let opening := classOpening y
      (readClassItems flags fuel none opening.2.1 opening.2.2).map fun read =>
        (⟨flags.finish opening.1 read.1.set, read.1.nesting + 1⟩, read.2) := by
  rw [Option.map_eq_bind]
  by_cases sign : y.head? = some '^'
  · obtain ⟨rest, rfl⟩ := List.head?_eq_some_iff.mp sign
    rw [readClass]
    rfl
  · rw [classOpening_plain sign, readClass]
    · rfl
    · rintro rest rfl
      exact sign rfl

theorem readClass_succ_iff {fuel : Nat} {part : ClassPart} :
    readClass flags (fuel + 1) y = some (part, r) ↔
      ∃ negated front rest inner, classOpening y = (negated, front, rest) ∧
        readClassItems flags fuel none front rest = some (inner, r) ∧
        ⟨flags.finish negated inner.set, inner.nesting + 1⟩ = part := by
  rw [readClass_succ]
  obtain ⟨negated, front, rest⟩ := classOpening y
  constructor
  · intro read
    obtain ⟨⟨inner, _⟩, found, same⟩ := Option.map_eq_some_iff.mp read
    obtain ⟨made, rfl⟩ := Prod.mk.inj same
    exact ⟨negated, front, rest, inner, rfl, found, made⟩
  · rintro ⟨_, _, _, inner, same, found, made⟩
    cases same
    simp [found, made]

theorem classOpening_suffix (y : List Char) : (classOpening y).2.2 <:+ y := by
  have front (y : List Char) : (classFront y).2 <:+ y :=
    (classFront_suffix y).trans (leadingHyphens_suffix y)
  unfold classOpening
  split
  case h_1 rest => exact (front rest).trans (List.suffix_cons _ _)
  case h_2 => exact front _

theorem classOpening_carry (more : ¬(classOpening (x ++ t)).2.2 <:+ t) :
    ∃ negated front z, z <:+ x ∧ ∀ u, classOpening (x ++ u) = (negated, front, z ++ u) := by
  cases x with
  | nil => exact absurd (classOpening_suffix t) more
  | cons c y =>
      by_cases caret : c = '^'
      · subst caret
        obtain ⟨front, z, inside, next⟩ := classFront_carry (x := y) more
        refine ⟨true, front, z, inside.trans (List.suffix_cons _ _), fun u => ?_⟩
        rw [List.cons_append, classOpening, next]
      · have plain (v : List Char) : classOpening (c :: y ++ v) = (false, classFront (c :: y ++ v)) :=
          classOpening_plain (by simp [caret])
        rw [plain] at more
        obtain ⟨front, z, inside, next⟩ := classFront_carry more
        exact ⟨false, front, z, inside, fun u => by rw [plain, next]⟩

/-! ### Whole classes -/

/-- The operators between the items of a class are signs written twice. -/
def classOp? : List Char → Option (ClassOp × List Char)
  | '&' :: '&' :: rest => some (.inter, rest)
  | '-' :: '-' :: rest => some (.difference, rest)
  | '~' :: '~' :: rest => some (.symmetricDifference, rest)
  | _ => none

/-- How a class is read on. -/
inductive ItemsStep (flags : Flags) (fuel : Nat) (pending : Pending) (items : ClassItems)
    (part : ClassPart) (r : List Char) : List Char → Prop
  | close : flags.combine pending items.part = part → ItemsStep flags fuel pending items part r (']' :: r)
  | named {rest next : List Char} {set : CharSet} : namedClass? flags rest = some (set, next) →
      readClassItems flags fuel pending (items.add ⟨set, 0⟩) next = some (part, r) →
      ItemsStep flags fuel pending items part r ('[' :: rest)
  | nested {rest next : List Char} {inner : ClassPart} : namedClass? flags rest = none →
      readClass flags fuel rest = some (inner, next) →
      readClassItems flags fuel pending (items.add inner) next = some (part, r) →
      ItemsStep flags fuel pending items part r ('[' :: rest)
  | operator {input next : List Char} {op : ClassOp} : classOp? input = some (op, next) →
      readClassItems flags fuel (some (op, flags.combine pending items.part)) .none next =
        some (part, r) →
      ItemsStep flags fuel pending items part r input
  | item {input next : List Char} {set : CharSet} : classOp? input = none →
      input.head? ≠ some ']' → input.head? ≠ some '[' → classItem input = some (set, next) →
      readClassItems flags fuel pending (items.add ⟨set, 0⟩) next = some (part, r) →
      ItemsStep flags fuel pending items part r input

theorem readClassItems_succ_iff {fuel : Nat} {pending : Pending} {items : ClassItems}
    {part : ClassPart} : readClassItems flags (fuel + 1) pending items y = some (part, r) ↔
      ItemsStep flags fuel pending items part r y := by
  simp only [readClassItems]
  constructor
  · intro read
    split at read
    case h_1 => contradiction
    case h_2 =>
      obtain ⟨made, rfl⟩ := Prod.mk.inj (Option.some.inj read)
      exact .close made
    case h_3 =>
      split at read
      case h_1 named => exact .named named read
      case h_2 unnamed =>
        obtain ⟨⟨inner, next⟩, nested, further⟩ := Option.bind_eq_some_iff.mp read
        exact .nested unnamed nested further
    case h_4 => exact .operator rfl read
    case h_5 => exact .operator rfl read
    case h_6 => exact .operator rfl read
    case h_7 _ noClose noNest noInter noDifference noSymmetric =>
      obtain ⟨⟨set, next⟩, found, further⟩ := Option.bind_eq_some_iff.mp read
      refine .item ?_ ?_ ?_ found further
      · unfold classOp?
        split
        case h_1 => exact absurd rfl (noInter _)
        case h_2 => exact absurd rfl (noDifference _)
        case h_3 => exact absurd rfl (noSymmetric _)
        case h_4 => rfl
      · intro head
        obtain ⟨rest, rfl⟩ := List.head?_eq_some_iff.mp head
        exact noClose rest rfl
      · intro head
        obtain ⟨rest, rfl⟩ := List.head?_eq_some_iff.mp head
        exact noNest rest rfl
  · intro step
    cases step with
    | close made => simp [made]
    | named named further => simp [named, further]
    | nested unnamed nested further => simp [unnamed, nested, further]
    | operator op further =>
        unfold classOp? at op
        split at op
        case h_4 => contradiction
        all_goals
          cases op
          exact further
    | item single close nest found further =>
        split
        case h_1 => contradiction
        case h_2 => exact absurd rfl close
        case h_3 => exact absurd rfl nest
        case h_7 => simp [found, further]
        all_goals contradiction

theorem classOp?_behind {op : ClassOp} (read : classOp? y = some (op, r)) : Behind r y := by
  unfold classOp? at read
  split at read
  case h_4 => contradiction
  all_goals
    cases read
    exact Behind.cons (List.suffix_cons _ _)

theorem classOp?_append (closes : Closes u) : classOp? (x ++ u) =
    (classOp? x).map fun read => (read.1, read.2 ++ u) := by
  cases x with
  | nil => cases closes <;> rfl
  | cons c x =>
      cases x with
      | nil => cases closes <;> simp [classOp?]
      | cons d x =>
          simp only [classOp?, List.cons_append]
          split <;> simp_all

/-- Reading a class takes something away. -/
theorem readClass_behind (flags : Flags) (fuel : Nat) :
    (∀ {pending items y part r}, readClassItems flags fuel pending items y = some (part, r) →
      Behind r y) ∧
    ∀ {y part r}, readClass flags fuel y = some (part, r) → Behind r y := by
  induction fuel with
  | zero => exact ⟨fun read => by simp [readClassItems] at read, fun read => by simp [readClass] at read⟩
  | succ fuel ih =>
      obtain ⟨items, nested⟩ := ih
      constructor
      · intro pending part y result r read
        have step := readClassItems_succ_iff.mp read
        cases step with
        | close => exact Behind.cons (List.suffix_refl r)
        | named found further =>
            obtain ⟨front, -, rfl, -⟩ := namedClass?_front found
            exact Behind.cons ((items further).suffix.trans (List.suffix_append front _))
        | nested _ found further =>
            exact Behind.cons ((items further).suffix.trans (nested found).suffix)
        | operator found further =>
            exact Behind.suffix_trans (items further).suffix (classOp?_behind found)
        | item _ _ _ found further =>
            exact Behind.suffix_trans (items further).suffix (classItem_behind found)
      · intro y part r read
        obtain ⟨negated, front, rest, inner, opening, found, -⟩ := readClass_succ_iff.mp read
        have suffix := classOpening_suffix y
        rw [opening] at suffix
        exact (items found).trans_suffix suffix

/-- Classes are read the same before `u` as before `t`, if the first reading calls itself no deeper than
`fuel`, and the second may call itself as often as there is something to read. -/
structure ReadsClass (flags : Flags) (t u : List Char) (fuel : Nat) : Prop where
  further {limit : Nat} {pending : Pending} {items : ClassItems} {part : ClassPart} {x r : List Char} :
    readClassItems flags fuel pending items (x ++ t) = some (part, r ++ t) →
    x.length ≤ limit + r.length →
    readClassItems flags limit pending items (x ++ u) = some (part, r ++ u)
  whole {limit : Nat} {part : ClassPart} {x r : List Char} :
    readClass flags fuel (x ++ t) = some (part, r ++ t) → x.length < limit + r.length →
    readClass flags limit (x ++ u) = some (part, r ++ u)

theorem ReadsClass.step {fuel limit : Nat} {pending : Pending} {items : ClassItems} {part : ClassPart}
    (reads : ReadsClass flags t u fuel) (closes : Closes t) (also : Closes u)
    (bound : y.length ≤ limit + r.length)
    (step : ItemsStep flags fuel pending items part (r ++ t) (c :: (y ++ t))) :
    ItemsStep flags limit pending items part (r ++ u) (c :: (y ++ u)) := by
  have rest {items : ClassItems} {pending : Pending} {next : List Char}
      (read : readClassItems flags fuel pending items next = some (part, r ++ t)) :
      Behind (r ++ t) next := (readClass_behind flags fuel).1 read
  generalize whole : c :: (y ++ t) = input at step
  cases step with
  | close made =>
      obtain ⟨rfl, same⟩ := List.cons.inj whole
      obtain rfl : y = r := List.append_cancel_right same
      exact .close made
  | named found further =>
      obtain ⟨rfl, rfl⟩ := List.cons.inj whole
      rw [namedClass?_append closes] at found
      obtain ⟨z, rfl, named⟩ := exists_own found
      obtain ⟨front, -, rfl, -⟩ := namedClass?_front named
      rw [List.length_append] at bound
      refine .named ?_ (reads.further further (by omega))
      rw [namedClass?_append also, named]
      rfl
  | nested unnamed found further =>
      obtain ⟨rfl, rfl⟩ := List.cons.inj whole
      obtain ⟨z, rfl, -⟩ := exists_front (rest further).suffix
      have shorter := ((readClass_behind flags fuel).2 found).length_lt
      have longer := (rest further).length_lt
      rw [namedClass?_append closes, Option.map_eq_none_iff] at unnamed
      refine .nested ?_ (reads.whole found (by omega)) (reads.further further (by omega))
      rw [namedClass?_append also, unnamed]
      rfl
  | operator found further =>
      rw [← whole, ← List.cons_append, classOp?_append closes] at found
      obtain ⟨z, rfl, op⟩ := exists_own found
      have shorter := (classOp?_behind op).shorter
      rw [List.length_cons] at shorter
      refine .operator ?_ (reads.further further (by omega))
      rw [← List.cons_append, classOp?_append also, op]
      rfl
  | item single close nest found further =>
      rw [← whole, ← List.cons_append] at single found
      rw [← whole] at close nest
      obtain ⟨z, rfl, -⟩ := exists_front (rest further).suffix
      have shorter := (classItem_behind found).length_lt
      rw [List.length_cons] at shorter
      rw [classOp?_append closes, Option.map_eq_none_iff] at single
      refine .item ?_ close nest (classItem_carry closes also found) (reads.further further (by omega))
      rw [← List.cons_append, classOp?_append also, single]
      rfl

/-- A class is read the same before another end. -/
theorem readsClass (flags : Flags) (closes : Closes t) (also : Closes u) (fuel : Nat) :
    ReadsClass flags t u fuel := by
  induction fuel with
  | zero => exact ⟨fun read => by simp [readClassItems] at read, fun read => by simp [readClass] at read⟩
  | succ fuel reads =>
      constructor
      · intro limit pending items part x r read bound
        have shorter := ((readClass_behind flags (fuel + 1)).1 read).length_lt
        cases x with
        | nil => contradiction
        | cons c y =>
            rw [List.length_cons] at shorter bound
            cases limit with
            | zero => omega
            | succ limit =>
                rw [List.cons_append, readClassItems_succ_iff] at read ⊢
                exact reads.step closes also (by omega) read
      · intro limit part x r read bound
        obtain ⟨negated, front, rest, inner, opening, found, made⟩ := readClass_succ_iff.mp read
        have behind := (readClass_behind flags fuel).1 found
        have more : ¬(classOpening (x ++ t)).2.2 <:+ t := by
          rw [opening]
          exact fun beyond => not_behind_of_suffix beyond behind
        obtain ⟨own, first, z, inside, always⟩ := classOpening_carry more
        obtain ⟨rfl, rfl, rfl⟩ : own = negated ∧ first = front ∧ z ++ t = rest := by
          simpa [always] using opening
        have shorter := behind.length_lt
        have fewer := inside.length_le
        cases limit with
        | zero => omega
        | succ limit =>
            rw [readClass_succ_iff]
            exact ⟨own, first, z ++ u, inner, always u, reads.further found (by omega), made⟩

end ServiceMesh.Pattern
