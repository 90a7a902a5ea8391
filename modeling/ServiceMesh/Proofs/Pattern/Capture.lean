import ServiceMesh.Pattern.Capture
import ServiceMesh.Proofs.Pattern.Search

/-! The ways to match a pattern lead to the places up to which it matches, and to no others, so that a
match is found wherever the pattern occurs. A group between a fixed text and the end of the text captures
what stands between them. -/
namespace ServiceMesh

variable {a b : Cursor} {text : List Char}

theorem Cursor.textTo_eq (read : List Char) (moved : a.after = read ++ b.after) : a.textTo b = read := by
  rw [textTo, moved, List.length_append, Nat.add_sub_cancel, List.take_left]

namespace Pattern

variable {p q body : Pattern} {trace next : Trace} {step : Trace → List Trace} {fuel least : Nat}
  {most : Option Nat} {captured : Option (List Char)}

/-- A match reads a part of the text and leaves the rest. -/
theorem Matches.reads (found : p.Matches a b) :
    ∃ read, a.after = read ++ b.after ∧ b.before = read.reverse ++ a.before := by
  induction found with
  | empty | anchor | repeatedDone => exact ⟨[], rfl, rfl⟩
  | @oneOf _ x => exact ⟨[x], rfl, rfl⟩
  | group _ ih | altLeft _ ih | altRight _ ih => exact ih
  | repeatedMore _ _ _ first rest | seq _ _ first rest =>
      obtain ⟨one, after, before⟩ := first
      obtain ⟨two, after', before'⟩ := rest
      refine ⟨one ++ two, ?_, ?_⟩
      · rw [after, after', List.append_assoc]
      · rw [before', before, List.reverse_append, List.append_assoc]

/-- A match that does not stay where it is leaves less of the text. -/
theorem Matches.length_lt (found : p.Matches a b) (moves : b ≠ a) : b.after.length < a.after.length := by
  obtain ⟨read, after, before⟩ := found.reads
  cases read with
  | nil =>
      refine absurd ?_ moves
      obtain ⟨_, _⟩ := a
      obtain ⟨_, _⟩ := b
      cases after
      cases before
      rfl
  | cons x read =>
      rw [after, List.length_append, List.length_cons]
      omega

/-! ### Rounds -/

theorem mem_roundWays_zero_iff :
    next ∈ roundWays step 0 least most trace ↔ least = 0 ∧ next = trace := by
  show next ∈ (if least = 0 then [trace] else []) ↔ _
  split <;> simp [*]

theorem roundWays_succ (fuel : Nat) : roundWays step (fuel + 1) least most trace =
    if least = 0 then
      (if most = some 0 then []
        else (step trace).flatMap (roundWays step fuel (least - 1) (most.map (· - 1)))) ++ [trace]
    else if most = some 0 then []
    else (step trace).flatMap (roundWays step fuel (least - 1) (most.map (· - 1))) := rfl

theorem mem_roundWays_succ_iff : next ∈ roundWays step (fuel + 1) least most trace ↔
    (most ≠ some 0 ∧ ∃ middle ∈ step trace,
      next ∈ roundWays step fuel (least - 1) (most.map (· - 1)) middle) ∨ least = 0 ∧ next = trace := by
  rw [roundWays_succ]
  by_cases none : most = some 0 <;> by_cases enough : least = 0 <;> simp [none, enough]

theorem mem_roundWays_self : trace ∈ roundWays step fuel 0 most trace := by
  cases fuel with
  | zero => exact mem_roundWays_zero_iff.mpr ⟨rfl, rfl⟩
  | succ fuel => exact mem_roundWays_succ_iff.mpr (.inr ⟨rfl, rfl⟩)

/-- With one more round at most there are all the ways that there were. -/
theorem roundWays_mono (member : next ∈ roundWays step fuel least (most.map (· - 1)) trace) :
    next ∈ roundWays step fuel least most trace := by
  induction fuel generalizing least most trace with
  | zero =>
      rw [mem_roundWays_zero_iff] at member ⊢
      exact member
  | succ fuel ih =>
      rw [mem_roundWays_succ_iff] at member ⊢
      refine member.imp_left fun ⟨allowed, middle, first, rest⟩ => ⟨?_, middle, first, ih rest⟩
      rintro rfl
      exact allowed rfl

theorem matches_of_mem_roundWays
    (sound : ∀ {trace next}, next ∈ p.ways trace → p.Matches trace.cursor next.cursor)
    (member : next ∈ roundWays p.ways fuel least most trace) :
    (Pattern.repeated p least most).Matches trace.cursor next.cursor := by
  induction fuel generalizing least most trace with
  | zero =>
      obtain ⟨rfl, rfl⟩ := mem_roundWays_zero_iff.mp member
      exact .repeatedDone
  | succ fuel ih =>
      rcases mem_roundWays_succ_iff.mp member with ⟨allowed, middle, first, rest⟩ | ⟨rfl, rfl⟩
      · exact .repeatedMore allowed (sound first) (ih rest)
      · exact .repeatedDone

/-- There is a way to each place up to which the pattern matches. -/
def Complete (p : Pattern) : Prop :=
  ∀ {a b}, p.Matches a b → ∀ captured, ∃ next ∈ p.ways ⟨a, captured⟩, next.cursor = b

/-- A round beyond the least number of them that stays where it is can be left out, so the rest of the text
bounds how many are needed. -/
theorem exists_mem_roundWays (complete : Complete p)
    (found : (Pattern.repeated p least most).Matches a b) (bound : least + a.after.length ≤ fuel)
    (captured : Option (List Char)) :
    ∃ next ∈ roundWays p.ways fuel least most ⟨a, captured⟩, next.cursor = b := by
  generalize whole : Pattern.repeated p least most = repetition at found
  induction found generalizing least most fuel captured with
  | repeatedDone =>
      cases whole
      exact ⟨_, mem_roundWays_self, rfl⟩
  | @repeatedMore _ _ _ a middle b allowed first _ _ ih =>
      obtain ⟨rfl, rfl, rfl⟩ := Pattern.repeated.inj whole
      by_cases stays : least = 0 ∧ middle = a
      · obtain ⟨rfl, rfl⟩ := stays
        obtain ⟨next, way, reached⟩ := ih bound captured rfl
        exact ⟨next, roundWays_mono way, reached⟩
      · obtain ⟨⟨middle, captured'⟩, way, rfl⟩ := complete first captured
        have fewer : (least - 1) + middle.after.length + 1 ≤ fuel := by
          by_cases moves : middle = a
          · have needed : least ≠ 0 := fun none => stays ⟨none, moves⟩
            rw [moves]
            omega
          · have less : middle.after.length < a.after.length := first.length_lt moves
            omega
        obtain ⟨fuel, rfl⟩ := Nat.exists_eq_add_of_le' (Nat.le_trans (Nat.le_add_left 1 _) fewer)
        obtain ⟨next, ways, reached⟩ := ih (Nat.le_of_succ_le_succ fewer) captured' rfl
        exact ⟨next, mem_roundWays_succ_iff.mpr (.inl ⟨allowed, _, way, ways⟩), reached⟩
  | _ => contradiction

/-! ### Ways by the form of the pattern -/

theorem ways_oneOf (chars : CharSet) : (Pattern.oneOf chars).ways trace =
    match trace.cursor.after with
    | [] => []
    | x :: after =>
        if chars.mem x then [⟨⟨x :: trace.cursor.before, after⟩, trace.captured⟩] else [] := rfl

theorem mem_ways_oneOf_iff {chars : CharSet} : next ∈ (Pattern.oneOf chars).ways trace ↔
    ∃ x rest, trace.cursor.after = x :: rest ∧ chars.mem x = true ∧
      next = ⟨⟨x :: trace.cursor.before, rest⟩, trace.captured⟩ := by
  rw [ways_oneOf]
  split
  case h_1 nothing => simp [nothing]
  case h_2 x rest read =>
    rw [read]
    split
    case isTrue member => simp [member]
    case isFalse other => simp [other]

theorem mem_ways_anchor_iff {condition : Anchor} : next ∈ (Pattern.anchor condition).ways trace ↔
    condition.holds trace.cursor = true ∧ next = trace := by
  show next ∈ (if condition.holds trace.cursor then [trace] else []) ↔ _
  split <;> simp [*]

theorem mem_ways_capturing_iff : next ∈ (Pattern.group true body).ways trace ↔
    ∃ last ∈ body.ways trace, next = ⟨last.cursor, some (trace.cursor.textTo last.cursor)⟩ := by
  show next ∈ (body.ways trace).map _ ↔ _
  rw [List.mem_map]
  exact exists_congr fun last => and_congr_right fun _ => eq_comm

theorem mem_ways_seq_iff : next ∈ (Pattern.seq p q).ways trace ↔
    ∃ middle ∈ p.ways trace, next ∈ q.ways middle := List.mem_flatMap

theorem matches_of_mem_ways (member : next ∈ p.ways trace) : p.Matches trace.cursor next.cursor := by
  induction p generalizing trace next with
  | empty =>
      rw [List.mem_singleton.mp member]
      exact .empty
  | oneOf chars =>
      obtain ⟨x, rest, read, inside, rfl⟩ := mem_ways_oneOf_iff.mp member
      exact matches_oneOf_iff.mpr ⟨x, rest, read, inside, rfl⟩
  | anchor condition =>
      obtain ⟨holds, rfl⟩ := mem_ways_anchor_iff.mp member
      exact .anchor holds
  | group captures body ih =>
      cases captures with
      | true =>
          obtain ⟨last, way, rfl⟩ := mem_ways_capturing_iff.mp member
          have found : body.Matches trace.cursor last.cursor := ih way
          exact .group found
      | false => exact .group (ih member)
  | repeated body least most ih => exact matches_of_mem_roundWays ih member
  | seq first second ihFirst ihSecond =>
      obtain ⟨middle, one, two⟩ := mem_ways_seq_iff.mp member
      exact .seq (ihFirst one) (ihSecond two)
  | alt left right ihLeft ihRight =>
      rcases List.mem_append.mp member with way | way
      · exact .altLeft (ihLeft way)
      · exact .altRight (ihRight way)

theorem complete (p : Pattern) : Complete p := by
  induction p with
  | empty =>
      intro a b found captured
      obtain rfl := matches_empty_iff.mp found
      exact ⟨_, List.mem_singleton_self _, rfl⟩
  | oneOf chars =>
      intro a b found captured
      obtain ⟨x, rest, read, inside, rfl⟩ := matches_oneOf_iff.mp found
      exact ⟨_, mem_ways_oneOf_iff.mpr ⟨x, rest, read, inside, rfl⟩, rfl⟩
  | anchor condition =>
      intro a b found captured
      obtain ⟨holds, rfl⟩ := matches_anchor_iff.mp found
      exact ⟨_, mem_ways_anchor_iff.mpr ⟨holds, rfl⟩, rfl⟩
  | group captures body ih =>
      intro a b found captured
      obtain ⟨next, way, rfl⟩ := ih (matches_group_iff.mp found) captured
      cases captures with
      | true => exact ⟨_, mem_ways_capturing_iff.mpr ⟨next, way, rfl⟩, rfl⟩
      | false => exact ⟨next, way, rfl⟩
  | repeated body least most ih =>
      intro a b found captured
      exact exists_mem_roundWays ih found (Nat.le_refl _) captured
  | seq first second ihFirst ihSecond =>
      intro a c found captured
      obtain ⟨b, one, two⟩ := matches_seq_iff.mp found
      obtain ⟨⟨_, captured'⟩, way, rfl⟩ := ihFirst one captured
      obtain ⟨next, way', rfl⟩ := ihSecond two captured'
      exact ⟨next, mem_ways_seq_iff.mpr ⟨_, way, way'⟩, rfl⟩
  | alt left right ihLeft ihRight =>
      intro a b found captured
      rcases matches_alt_iff.mp found with found | found
      · obtain ⟨next, way, reached⟩ := ihLeft found captured
        exact ⟨next, List.mem_append_left _ way, reached⟩
      · obtain ⟨next, way, reached⟩ := ihRight found captured
        exact ⟨next, List.mem_append_right _ way, reached⟩

/-! ### Searching -/

theorem isSome_head?_ways_iff : (p.ways ⟨a, captured⟩).head?.isSome = true ↔ ∃ b, p.Matches a b := by
  rw [List.isSome_head?, ← List.isEmpty_eq_false_iff, List.isEmpty_eq_false_iff_exists_mem]
  constructor
  · rintro ⟨next, way⟩
    exact ⟨next.cursor, matches_of_mem_ways way⟩
  · rintro ⟨b, found⟩
    obtain ⟨next, way, -⟩ := p.complete found captured
    exact ⟨next, way⟩

theorem firstMatch?_cons (before rest : List Char) (c : Char) : p.firstMatch? before (c :: rest) =
    (p.ways ⟨⟨before, c :: rest⟩, none⟩).head?.or (p.firstMatch? (c :: before) rest) := rfl

theorem isSome_firstMatch?_iff (before rest : List Char) :
    (p.firstMatch? before rest).isSome = true ↔
      ∃ front back, rest = front ++ back ∧ ∃ b, p.Matches ⟨front.reverse ++ before, back⟩ b := by
  induction rest generalizing before with
  | nil =>
      show (p.ways ⟨⟨before, []⟩, none⟩).head?.isSome = true ↔ _
      rw [isSome_head?_ways_iff]
      constructor
      · intro found
        exact ⟨[], [], rfl, found⟩
      · rintro ⟨front, back, same, found⟩
        obtain ⟨rfl, rfl⟩ := List.append_eq_nil_iff.mp same.symm
        exact found
  | cons c rest ih =>
      rw [firstMatch?_cons, Option.isSome_or, Bool.or_eq_true, isSome_head?_ways_iff, ih]
      constructor
      · rintro (found | ⟨front, back, rfl, found⟩)
        · exact ⟨[], c :: rest, rfl, found⟩
        · exact ⟨c :: front, back, rfl, by simpa using found⟩
      · rintro ⟨front, back, same, found⟩
        cases front with
        | nil =>
            obtain rfl : c :: rest = back := same
            exact .inl found
        | cons d front =>
            obtain ⟨rfl, rfl⟩ := List.cons.inj same
            exact .inr ⟨front, back, rfl, by simpa using found⟩

/-! ### Between a fixed text and the end -/

/-- A fixed text from the start on, and a group that captures what follows it up to the end. -/
def framed (front : List Char) (body : Pattern) : Pattern :=
  .concat (.anchor .textStart :: (front.map (fun c => .oneOf (.single c)) ++
    [.group true body, .anchor .textEnd]))

theorem CharSet.mem_single_iff {x y : Char} : (CharSet.single y).mem x = true ↔ x = y := by
  simp only [mem, single, range, Text.CodePointRanges.contains, List.any_cons, List.any_nil, Bool.or_false,
    Bool.and_eq_true, decide_eq_true_eq]
  rw [← Char.toNat_inj]
  omega

theorem mem_ways_literals_iff {front : List Char} {parts : List Pattern} {before after : List Char} :
    next ∈ (concat (front.map (fun c => .oneOf (.single c)) ++ parts)).ways ⟨⟨before, after⟩, captured⟩ ↔
      ∃ rest, after = front ++ rest ∧
        next ∈ (concat parts).ways ⟨⟨front.reverse ++ before, rest⟩, captured⟩ := by
  induction front generalizing before after with
  | nil => simp
  | cons c front ih =>
      rw [List.map_cons, List.cons_append, concat, List.foldr_cons, mem_ways_seq_iff]
      constructor
      · rintro ⟨middle, first, rest⟩
        obtain ⟨x, behind, rfl, same, rfl⟩ := mem_ways_oneOf_iff.mp first
        obtain rfl := CharSet.mem_single_iff.mp same
        obtain ⟨rest', rfl, way⟩ := ih.mp rest
        exact ⟨rest', rfl, by simpa using way⟩
      · rintro ⟨rest, rfl, way⟩
        refine ⟨_, mem_ways_oneOf_iff.mpr ⟨c, _, rfl, CharSet.mem_single_iff.mpr rfl, rfl⟩, ih.mpr ?_⟩
        exact ⟨rest, rfl, by simpa using way⟩

theorem mem_ways_framed_iff {front : List Char} :
    next ∈ (framed front body).ways ⟨.start text, none⟩ ↔ ∃ behind, text = front ++ behind ∧
      next = ⟨.finish text, some behind⟩ ∧ body.Matches ⟨front.reverse, behind⟩ (.finish text) := by
  rw [framed, concat, List.foldr_cons, mem_ways_seq_iff]
  constructor
  · rintro ⟨middle, first, rest⟩
    obtain ⟨-, rfl⟩ := mem_ways_anchor_iff.mp first
    obtain ⟨behind, rfl, way⟩ := mem_ways_literals_iff.mp rest
    obtain ⟨_, group, rest⟩ := mem_ways_seq_iff.mp way
    obtain ⟨last, inside, rfl⟩ := mem_ways_capturing_iff.mp group
    obtain ⟨_, stop, rest⟩ := mem_ways_seq_iff.mp rest
    obtain ⟨ends, rfl⟩ := mem_ways_anchor_iff.mp stop
    obtain rfl := List.mem_singleton.mp rest
    have found := matches_of_mem_ways inside
    have target : last.cursor.IsIn (front ++ behind) := found.isIn (by simp [Cursor.IsIn])
    obtain ⟨⟨before, after⟩, _⟩ := last
    obtain rfl : after = [] := List.isEmpty_iff.mp ends
    obtain rfl : before = (front ++ behind).reverse := by
      simpa [Cursor.IsIn] using congrArg List.reverse target
    refine ⟨behind, rfl, ?_, by simpa [Cursor.finish] using found⟩
    rw [Cursor.textTo_eq behind (by simp)]
    rfl
  · rintro ⟨behind, rfl, rfl, found⟩
    refine ⟨_, mem_ways_anchor_iff.mpr ⟨rfl, rfl⟩, mem_ways_literals_iff.mpr ⟨behind, rfl, ?_⟩⟩
    obtain ⟨last, inside, reached⟩ := body.complete found none
    have group := mem_ways_capturing_iff.mpr ⟨last, inside, rfl⟩
    rw [reached, Cursor.textTo_eq behind (by simp [Cursor.finish])] at group
    have stop : ⟨.finish (front ++ behind), some behind⟩ ∈
        (concat [.anchor .textEnd]).ways ⟨.finish (front ++ behind), some behind⟩ := by
      refine mem_ways_seq_iff.mpr ⟨⟨.finish (front ++ behind), some behind⟩, ?_, List.mem_singleton_self _⟩
      exact mem_ways_anchor_iff.mpr ⟨rfl, rfl⟩
    exact mem_ways_seq_iff.mpr ⟨_, by simpa using group, stop⟩

/-- A pattern that begins with the start of the text is not found behind it. -/
theorem firstMatch?_framed {front : List Char} :
    (framed front body).firstMatch? [] text = ((framed front body).ways ⟨.start text, none⟩).head? := by
  have stuck {before rest : List Char} (nonempty : before ≠ []) :
      (framed front body).firstMatch? before rest = none := by
    rw [← Option.not_isSome_iff_eq_none, isSome_firstMatch?_iff]
    rintro ⟨middle, back, rfl, b, found⟩
    obtain ⟨_, first, -⟩ := matches_seq_iff.mp found
    have holds := (matches_anchor_iff.mp first).1
    simp [Anchor.holds, nonempty] at holds
  cases text with
  | nil => rfl
  | cons c rest =>
      rw [firstMatch?_cons, stuck (List.cons_ne_nil c []), Option.or_none]
      rfl

/-- The group captures all that stands behind the fixed text, if its pattern spans just that. -/
theorem capture?_framed_iff {front behind : List Char} :
    (framed front body).capture? text = some behind ↔
      text = front ++ behind ∧ body.Matches ⟨front.reverse, behind⟩ (.finish text) := by
  rw [capture?, firstMatch?_framed]
  constructor
  · intro result
    obtain ⟨next, first, captured⟩ := Option.bind_eq_some_iff.mp result
    obtain ⟨behind', same, rfl, found⟩ := mem_ways_framed_iff.mp (List.mem_of_head? first)
    obtain rfl := Option.some.inj captured
    exact ⟨same, found⟩
  · rintro ⟨same, found⟩
    have way := mem_ways_framed_iff.mpr ⟨behind, same, rfl, found⟩
    obtain ⟨next, first⟩ := Option.isSome_iff_exists.mp (List.isSome_head?.mpr (List.ne_nil_of_mem way))
    obtain ⟨behind', same', rfl, -⟩ := mem_ways_framed_iff.mp (List.mem_of_head? first)
    rw [same] at same'
    obtain rfl := List.append_cancel_left same'
    exact Option.bind_eq_some_iff.mpr ⟨_, first, rfl⟩

end Pattern

end ServiceMesh
