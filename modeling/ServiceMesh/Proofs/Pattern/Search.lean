import ServiceMesh.Proofs.Pattern.Rounds

/-! The search finds the places up to which a pattern matches, and no others, whatever the pattern is and
however its repetitions are nested. -/
namespace ServiceMesh

variable {text : List Char} {i j : Nat} {a b c : Cursor} {p q : Pattern}

/-! ### Places of a text -/

/-- The end of a text. -/
def Cursor.finish (text : List Char) : Cursor := ⟨text.reverse, []⟩

/-- The place of a text with so many characters before it. -/
def Cursor.place (text : List Char) (i : Nat) : Cursor := ⟨(text.take i).reverse, text.drop i⟩

/-- The cursor is at a place of the text. -/
def Cursor.IsIn (cursor : Cursor) (text : List Char) : Prop :=
  cursor.before.reverse ++ cursor.after = text

theorem Cursor.isIn_place (text : List Char) (i : Nat) : (place text i).IsIn text := by
  rw [IsIn, place, List.reverse_reverse, List.take_append_drop]

theorem Cursor.IsIn.eq_place (within : c.IsIn text) : c = place text c.before.length := by
  obtain ⟨before, after⟩ := c
  obtain rfl : before.reverse ++ after = text := within
  have front : before.length = before.reverse.length := List.length_reverse.symm
  simp only [place]
  rw [front, List.take_left, List.drop_left, List.reverse_reverse]

theorem Cursor.IsIn.length_le (within : c.IsIn text) : c.before.length ≤ text.length := by
  obtain rfl : c.before.reverse ++ c.after = text := within
  simp

/-- Places have numbers of their own. -/
theorem Cursor.length_before_place (bound : i ≤ text.length) : (place text i).before.length = i := by
  simp [place, bound]

namespace Pattern

/-- A match goes from one place of a text to another. -/
theorem Matches.isIn (found : p.Matches a b) (within : a.IsIn text) : b.IsIn text := by
  induction found with
  | empty | anchor | repeatedDone => exact within
  | oneOf member =>
      rw [← within]
      simp [Cursor.IsIn]
  | group _ ih | altLeft _ ih | altRight _ ih => exact ih within
  | repeatedMore _ _ _ first rest => exact rest (first within)
  | seq _ _ first second => exact second (first within)

/-- The pattern matches from one place of the text, given by its number, up to another. -/
def Reaches (text : List Char) (p : Pattern) (i j : Nat) : Prop :=
  j ≤ text.length ∧ p.Matches (.place text i) (.place text j)

theorem exists_place_iff (p : Pattern) {i : Nat} (next : Cursor → Prop) :
    (∃ b, p.Matches (.place text i) b ∧ next b) ↔
      ∃ m, p.Reaches text i m ∧ next (.place text m) := by
  constructor
  · rintro ⟨b, found, further⟩
    have within := found.isIn (Cursor.isIn_place text i)
    rw [within.eq_place] at found further
    exact ⟨b.before.length, ⟨within.length_le, found⟩, further⟩
  · rintro ⟨m, ⟨-, found⟩, further⟩
    exact ⟨_, found, further⟩

theorem place_injOn {m : Nat} (first : i ≤ text.length) (second : m ≤ text.length)
    (same : Cursor.place text i = .place text m) : i = m := by
  rw [← Cursor.length_before_place first, ← Cursor.length_before_place second, same]

theorem testBit_placesWhere (holds : Cursor → Bool) (before text : List Char) (i : Nat) :
    (placesWhere holds before text).testBit i = true ↔
      i ≤ text.length ∧ holds ⟨(text.take i).reverse ++ before, text.drop i⟩ = true := by
  induction text generalizing before i with
  | nil =>
      rw [placesWhere]
      cases i <;> cases h : holds ⟨before, []⟩ <;> simp [h, Nat.testBit_succ]
  | cons c rest ih =>
      rw [placesWhere]
      cases i with
      | zero =>
          rw [Nat.testBit_zero]
          cases h : holds ⟨before, c :: rest⟩ <;> simp [h]
      | succ i =>
          have half : ((holds ⟨before, c :: rest⟩).toNat +
              2 * placesWhere holds (c :: before) rest) / 2 =
              placesWhere holds (c :: before) rest := by
            have bit := Bool.toNat_le (holds ⟨before, c :: rest⟩)
            omega
          rw [Nat.testBit_succ, half, ih]
          simp

/-! ### Matches by the form of the pattern -/

theorem matches_empty_iff : Pattern.empty.Matches a b ↔ a = b :=
  ⟨fun found => by cases found; rfl, fun same => same ▸ .empty⟩

theorem matches_oneOf_iff {chars : CharSet} : (Pattern.oneOf chars).Matches a b ↔
    ∃ x rest, a.after = x :: rest ∧ chars.mem x = true ∧ b = ⟨x :: a.before, rest⟩ := by
  constructor
  · intro found
    cases found with
    | oneOf member => exact ⟨_, _, rfl, member, rfl⟩
  · rintro ⟨x, rest, next, member, rfl⟩
    obtain ⟨before, after⟩ := a
    cases next
    exact .oneOf member

theorem matches_anchor_iff {condition : Anchor} :
    (Pattern.anchor condition).Matches a b ↔ condition.holds a = true ∧ a = b := by
  constructor
  · intro found
    cases found with
    | anchor holds => exact ⟨holds, rfl⟩
  · rintro ⟨holds, rfl⟩
    exact .anchor holds

theorem matches_group_iff {captures : Bool} : (Pattern.group captures p).Matches a b ↔ p.Matches a b :=
  ⟨fun found => by cases found; assumption, .group⟩

theorem matches_seq_iff : (Pattern.seq p q).Matches a c ↔ ∃ b, p.Matches a b ∧ q.Matches b c :=
  ⟨fun found => by cases found with | seq first second => exact ⟨_, first, second⟩,
    fun ⟨_, first, second⟩ => .seq first second⟩

theorem matches_alt_iff : (Pattern.alt p q).Matches a b ↔ p.Matches a b ∨ q.Matches a b := by
  constructor
  · intro found
    cases found with
    | altLeft found => exact .inl found
    | altRight found => exact .inr found
  · rintro (found | found)
    · exact .altLeft found
    · exact .altRight found

/-- A repetition matches in any number of rounds between its counts. -/
theorem matches_repeated_iff {least : Nat} {most : Option Nat} :
    (Pattern.repeated p least most).Matches a c ↔
      ∃ rounds, least ≤ rounds ∧ (∀ limit ∈ most, rounds ≤ limit) ∧ Rounds p.Matches rounds a c := by
  constructor
  · intro found
    generalize shape : Pattern.repeated p least most = q at found
    induction found generalizing least most with
    | repeatedDone =>
        cases shape
        exact ⟨0, Nat.le_refl 0, fun _ _ => Nat.zero_le _, rfl⟩
    | repeatedMore more first _ _ ih =>
        cases shape
        obtain ⟨rounds, reached, limited, path⟩ := ih rfl
        refine ⟨rounds + 1, by omega, fun limit given => ?_, _, first, path⟩
        have below := limited (limit - 1) (Option.mem_map.mpr ⟨limit, given, rfl⟩)
        have nonzero : limit ≠ 0 := by
          rintro rfl
          exact more given
        omega
    | _ => contradiction
  · rintro ⟨rounds, reached, limited, path⟩
    induction rounds generalizing least most a with
    | zero =>
        obtain rfl := Nat.le_zero.mp reached
        obtain rfl : a = c := path
        exact .repeatedDone
    | succ rounds ih =>
        obtain ⟨b, first, rest⟩ := path
        have more : most ≠ some 0 := by
          rintro rfl
          exact Nat.not_succ_le_zero rounds (limited 0 rfl)
        refine .repeatedMore more first (ih (by omega) (fun less given => ?_) rest)
        obtain ⟨limit, own, rfl⟩ := Option.map_eq_some_iff.mp given
        have below := limited limit own
        omega

theorem rounds_matches_iff {rounds : Nat} (bound : i ≤ text.length) (target : j ≤ text.length) :
    Rounds p.Matches rounds (.place text i) (.place text j) ↔ Rounds (p.Reaches text) rounds i j := by
  induction rounds generalizing i with
  | zero => exact ⟨place_injOn bound target, congrArg _⟩
  | succ rounds ih =>
      simp only [Rounds]
      rw [exists_place_iff]
      exact exists_congr fun m => and_congr_right fun reached => ih reached.1

/-- All counts of repetitions allow for some number of rounds. -/
def Feasible : Pattern → Prop
  | .empty | .oneOf _ | .anchor _ => True
  | .group _ body => body.Feasible
  | .repeated body least most => body.Feasible ∧ ∀ limit ∈ most, least ≤ limit
  | .seq first second => first.Feasible ∧ second.Feasible
  | .alt left right => left.Feasible ∧ right.Feasible

/-! ### Tracks -/

theorem rounds_inside {R : Nat → Nat → Prop} {last rounds : Nat} {step : Nat → Nat}
    (leads : Leads last R step) (bound : i ≤ last) (path : Rounds R rounds i j) : j ≤ last :=
  (leads.iterate rounds).inside bound path

/-- Exactly the least number of rounds and then as many more as are allowed, or, without a limit, one round
less and then one or more. -/
theorem leads_repeated {track : Track} {R : Nat → Nat → Prop} (leads : Leads text.length R track.ends)
    {least : Nat} {most : Option Nat} (feasible : ∀ limit ∈ most, least ≤ limit) :
    Leads text.length
      (fun i j => ∃ rounds, least ≤ rounds ∧ (∀ limit ∈ most, rounds ≤ limit) ∧ Rounds R rounds i j)
      (Track.repeated text track least most).ends := by
  cases most with
  | some limit =>
      have both := (leads.iterate least).seq (leads.spread (limit - least))
      refine both.congr fun i _ j => ?_
      have order : least ≤ limit := feasible limit rfl
      constructor
      · rintro ⟨m, front, rounds, few, back⟩
        refine ⟨least + rounds, by omega, fun limit given => ?_, (rounds_add _ _ _ _).mpr ⟨m, front, back⟩⟩
        cases given
        omega
      · rintro ⟨rounds, reached, limited, path⟩
        obtain ⟨more, rfl⟩ := Nat.exists_eq_add_of_le reached
        obtain ⟨m, front, back⟩ := (rounds_add _ _ _ _).mp path
        have below := limited limit rfl
        exact ⟨m, front, more, by omega, back⟩
  | none =>
      cases least with
      | zero =>
          have both := (Leads.id text.length).alt leads.advance
          refine both.congr fun i _ j => ?_
          rw [transGen_iff_rounds]
          constructor
          · rintro (here | ⟨rounds, path⟩)
            · exact ⟨0, Nat.le_refl 0, by simp, here⟩
            · exact ⟨rounds + 1, Nat.zero_le _, by simp, path⟩
          · rintro ⟨_ | rounds, -, -, path⟩
            · exact .inl path
            · exact .inr ⟨rounds, path⟩
      | succ least =>
          have both := (leads.iterate least).seq leads.advance
          refine both.congr fun i _ j => ?_
          simp only [transGen_iff_rounds]
          constructor
          · rintro ⟨m, front, rounds, back⟩
            exact ⟨least + (rounds + 1), by omega, by simp, (rounds_add _ _ _ _).mpr ⟨m, front, back⟩⟩
          · rintro ⟨rounds, reached, -, path⟩
            obtain ⟨more, rfl⟩ := Nat.exists_eq_add_of_le reached
            rw [Nat.succ_add, ← Nat.add_succ] at path
            obtain ⟨m, front, back⟩ := (rounds_add _ _ _ _).mp path
            exact ⟨m, front, more, back⟩

/-- The places where a condition holds lead to themselves. -/
theorem leads_check (text : List Char) (holds : Cursor → Bool) :
    Leads text.length (fun i j => holds (.place text i) = true ∧ i = j)
      (· &&& placesWhere holds [] text) where
  testBit places j := by
    have here : (placesWhere holds [] text).testBit j = true ↔
        j ≤ text.length ∧ holds (.place text j) = true := by
      rw [testBit_placesWhere, List.append_nil]
      rfl
    rw [Nat.testBit_and, Bool.and_eq_true, here]
    constructor
    · rintro ⟨known, -, there⟩
      exact ⟨j, known, there, rfl⟩
    · rintro ⟨i, known, there, rfl⟩
      exact ⟨known, places i known, there⟩
  inside bound related := related.2 ▸ bound

theorem place_succ {x : Char} {rest : List Char} (bound : i ≤ text.length)
    (next : (Cursor.place text i).after = x :: rest) : i + 1 ≤ text.length ∧
      Cursor.place text (i + 1) = ⟨x :: (Cursor.place text i).before, rest⟩ := by
  have within : Cursor.IsIn ⟨x :: (Cursor.place text i).before, rest⟩ text := by
    have whole := Cursor.isIn_place text i
    rw [Cursor.IsIn, next] at whole
    simpa [Cursor.IsIn] using whole
  have length := Cursor.length_before_place bound
  have inside := within.length_le
  have moved := within.eq_place
  rw [List.length_cons, length] at inside moved
  exact ⟨inside, moved.symm⟩

/-- The places that a character of the set follows lead to the next ones. -/
theorem leads_step (text : List Char) (chars : CharSet) :
    Leads text.length
      (fun i j => (∃ x rest, (Cursor.place text i).after = x :: rest ∧ chars.mem x = true) ∧ i + 1 = j)
      (fun s => 2 * (s &&& placesWhere (fun cursor => cursor.after.head?.any chars.mem) [] text)) where
  testBit {s} places j := by
    have follows (i : Nat) :
        (placesWhere (fun cursor => cursor.after.head?.any chars.mem) [] text).testBit i = true ↔
          i ≤ text.length ∧ ∃ x rest, (Cursor.place text i).after = x :: rest ∧ chars.mem x = true := by
      rw [testBit_placesWhere, Cursor.place]
      cases text.drop i <;> simp
    cases j with
    | zero => simp
    | succ j =>
        rw [Nat.testBit_succ, Nat.mul_div_cancel_left _ Nat.two_pos, Nat.testBit_and,
          Bool.and_eq_true, follows]
        constructor
        · rintro ⟨known, -, next⟩
          exact ⟨j, known, next, rfl⟩
        · rintro ⟨i, known, next, same⟩
          obtain rfl := Nat.succ.inj same
          exact ⟨known, places i known, next⟩
  inside bound related := by
    obtain ⟨⟨x, rest, next, -⟩, rfl⟩ := related
    exact (place_succ bound next).1

/-- The track of a pattern over a text leads where the pattern matches. -/
theorem leads_track (text : List Char) (feasible : p.Feasible) :
    Leads text.length (p.Reaches text) (p.track text).ends := by
  induction p with
  | empty =>
      refine (Leads.id text.length).congr fun i bound j => ?_
      rw [Reaches, matches_empty_iff]
      constructor
      · rintro rfl
        exact ⟨bound, rfl⟩
      · rintro ⟨target, same⟩
        exact place_injOn bound target same
  | oneOf chars =>
      refine (leads_step text chars).congr fun i bound j => ?_
      rw [Reaches, matches_oneOf_iff]
      constructor
      · rintro ⟨⟨x, rest, next, member⟩, rfl⟩
        have moved := place_succ bound next
        exact ⟨moved.1, x, rest, next, member, moved.2⟩
      · rintro ⟨target, x, rest, next, member, same⟩
        obtain ⟨inside, moved⟩ := place_succ bound next
        exact ⟨⟨x, rest, next, member⟩, place_injOn inside target (moved.trans same.symm)⟩
  | anchor condition =>
      refine (leads_check text (fun cursor => condition.holds cursor)).congr fun i bound j => ?_
      rw [Reaches, matches_anchor_iff]
      constructor
      · rintro ⟨holds, rfl⟩
        exact ⟨bound, holds, rfl⟩
      · rintro ⟨target, holds, same⟩
        exact ⟨holds, place_injOn bound target same⟩
  | group captures body ih =>
      refine (ih feasible).congr fun i _ j => ?_
      rw [Reaches, Reaches, matches_group_iff]
  | repeated body least most ih =>
      refine (leads_repeated (ih feasible.1) feasible.2).congr fun i bound j => ?_
      rw [Reaches, matches_repeated_iff]
      constructor
      · rintro ⟨rounds, reached, limited, path⟩
        have target := rounds_inside (ih feasible.1) bound path
        exact ⟨target, rounds, reached, limited, (rounds_matches_iff bound target).mpr path⟩
      · rintro ⟨target, rounds, reached, limited, path⟩
        exact ⟨rounds, reached, limited, (rounds_matches_iff bound target).mp path⟩
  | seq first second ihFirst ihSecond =>
      refine ((ihFirst feasible.1).seq (ihSecond feasible.2)).congr fun i _ j => ?_
      rw [Reaches, matches_seq_iff, exists_place_iff]
      simp only [Reaches]
      grind
  | alt left right ihLeft ihRight =>
      refine ((ihLeft feasible.1).alt (ihRight feasible.2)).congr fun i _ j => ?_
      rw [Reaches, Reaches, Reaches, matches_alt_iff, and_or_left]

/-! ### Searching -/

/-- A feasible pattern occurs in a text exactly if it matches between two of its places. -/
theorem occursIn_iff (feasible : p.Feasible) :
    p.occursIn text = true ↔ ∃ a b, a.IsIn text ∧ p.Matches a b := by
  have everywhere (i : Nat) : (everyPlace text).testBit i = true ↔ i ≤ text.length := by
    rw [everyPlace, testBit_placesWhere, and_iff_left rfl]
  have leads := leads_track text feasible
  have found (j : Nat) : ((p.track text).ends (everyPlace text)).testBit j = true ↔
      ∃ i, i ≤ text.length ∧ p.Reaches text i j := by
    rw [leads.testBit fun i member => (everywhere i).mp member]
    simp only [everywhere]
  rw [occursIn, bne_iff_ne]
  constructor
  · intro nonzero
    obtain ⟨j, member⟩ := Nat.exists_testBit_of_ne_zero nonzero
    obtain ⟨i, -, -, reached⟩ := (found j).mp member
    exact ⟨_, _, Cursor.isIn_place text i, reached⟩
  · rintro ⟨a, b, within, reached⟩ none
    have target := reached.isIn within
    have bound := within.length_le
    rw [within.eq_place, target.eq_place] at reached
    have member := (found b.before.length).mpr ⟨_, bound, target.length_le, reached⟩
    rw [none, Nat.zero_testBit] at member
    contradiction

end Pattern

end ServiceMesh
