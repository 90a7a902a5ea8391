import ServiceMesh.Pattern.Escape
import ServiceMesh.Proofs.Pattern.Capture
import ServiceMesh.Proofs.Pattern.Wrapping

/-! An escaped text is read as a row of its characters, whatever they would mean without a backslash. With
an anchor before it and a captured number behind it, any text makes a pattern of the texts that continue it
with a colon and digits. -/
namespace ServiceMesh.Pattern

variable {text : List Char} {c : Char} {progress : Progress} {names : List (List Char)} {nested : Nested}
  {after : Scan} {fuel : Nat}

/-! ### Reading -/

/-- A backslash makes a character stand for itself, and the others do so by themselves. -/
theorem part?_escape (c : Char) (rest : List Char) :
    part? .default (escape [c] ++ rest) = some (.oneOf (.single c), rest) := by
  by_cases special : c ∈ metaCharacters
  case pos =>
    have alone : escape [c] ++ rest = '\\' :: c :: rest := by simp [escape, special]
    have read : ∀ c ∈ metaCharacters, readEscape (c :: rest) = some (.literal c, rest) := by
      simp only [metaCharacters, List.forall_mem_cons]
      repeat' apply And.intro
      all_goals first | rfl | simp
    rw [alone, part?, read c special]
    rfl
  case neg =>
    have alone : escape [c] ++ rest = c :: rest := by simp [escape, special]
    rw [alone]
    unfold part?
    dsimp only
    split
    case h_13 => rfl
    all_goals exact absurd (by decide) special

theorem length_le_escape (text : List Char) : text.length ≤ (escape text).length := by
  induction text with
  | nil => exact Nat.le_refl 0
  | cons c text ih =>
      have first : escape (c :: text) = escape [c] ++ escape text := by simp [escape]
      have nonempty : 1 ≤ (escape [c]).length := by
        by_cases special : c ∈ metaCharacters <;> simp [escape, special]
      rw [first, List.length_append, List.length_cons]
      omega

/-- What has been read with a part for each further character of a text. -/
def Progress.spell (progress : Progress) (text : List Char) : Progress :=
  text.foldl (fun progress c => progress.push (.oneOf (.single c)) 0) progress

theorem readBranches_escape {rest : List Char}
    (read : readBranches fuel (progress.spell text) ⟨.default, names, rest⟩ = some (nested, after)) :
    readBranches (fuel + text.length) progress ⟨.default, names, escape text ++ rest⟩ =
      some (nested, after) := by
  induction text generalizing progress with
  | nil => exact read
  | cons c text ih =>
      have first : escape (c :: text) ++ rest = escape [c] ++ (escape text ++ rest) := by simp [escape]
      rw [first, List.length_cons, ← Nat.add_assoc, readBranches_succ_iff]
      exact .part (part?_escape c _) (ih read)

theorem Progress.parts_spell (progress : Progress) (text : List Char) : progress.spell text =
    { progress with
      parts := (text.map fun c => ⟨⟨.oneOf (.single c), 0⟩, true⟩).reverse ++ progress.parts } := by
  induction text generalizing progress with
  | nil => rfl
  | cons c text ih =>
      rw [spell, List.foldl_cons, ← spell, ih]
      simp [push]

/-- Digits of any script, one or more of them. -/
def digits : Pattern := .concat [.repeated (.oneOf .digit) 1 none]

/-- What has been read when the group with the digits is closed and the end is asked for. -/
def numbered (text : List Char) : Progress :=
  ((((Progress.start.push (.anchor .textStart) 0).spell text).push (.oneOf (.single ':')) 0).push
    (.group true digits) 2).push (.anchor .textEnd) 0

theorem numbered_eq (text : List Char) : numbered text =
    ⟨[], [⟨⟨.anchor .textEnd, 0⟩, true⟩, ⟨⟨.group true digits, 2⟩, true⟩,
        ⟨⟨.oneOf (.single ':'), 0⟩, true⟩] ++
      (text.map fun c => ⟨⟨.oneOf (.single c), 0⟩, true⟩).reverse ++
      [⟨⟨.anchor .textStart, 0⟩, true⟩]⟩ := by
  simp [numbered, Progress.parts_spell, Progress.push, Progress.start]

theorem numbered_pattern (text : List Char) :
    (numbered text).finish.pattern = framed (text ++ [':']) digits := by
  rw [numbered_eq]
  show concat (List.map (fun part : Part => part.pattern) (List.reverse _)) = _
  simp [framed, Function.comp_def]

theorem rowNesting_le {row : List Nat} {most : Nat} (all : ∀ n ∈ row, n ≤ most) :
    rowNesting row ≤ most + 1 := by
  have deepest : row.foldr max 0 ≤ most := by
    induction row with
    | nil => exact Nat.zero_le most
    | cons n row ih =>
        obtain ⟨first, others⟩ := List.forall_mem_cons.mp all
        exact Nat.max_le.mpr ⟨first, ih others⟩
  rw [rowNesting_eq]
  split <;> omega

/-- Only the group with the digits is nested at all. -/
theorem numbered_nesting (text : List Char) : (numbered text).finish.nesting ≤ maxNesting := by
  have each : ∀ n ∈ (numbered text).parts.map (·.nesting), n ≤ 2 := by
    intro n member
    obtain ⟨part, inside, rfl⟩ := List.mem_map.mp member
    rw [numbered_eq] at inside
    rcases List.mem_append.mp inside with inside | first
    · rcases List.mem_append.mp inside with last | spelled
      · simp only [List.mem_cons, List.not_mem_nil, or_false] at last
        rcases last with rfl | rfl | rfl <;> decide
      · obtain ⟨c, -, rfl⟩ := List.mem_map.mp (List.mem_reverse.mp spelled)
        exact Nat.zero_le 2
    · rw [List.mem_singleton.mp first]
      exact Nat.zero_le 2
  have whole : (numbered text).finish.nesting = rowNesting ((numbered text).parts.map (·.nesting)) := by
    rw [Progress.finish_nesting, numbered_eq]
    rfl
  rw [whole]
  exact (rowNesting_le each).trans (by decide)

/-- Whatever a text consists of, it can be escaped to stand before a number. -/
theorem parseChars?_numbered (text : List Char) :
    parseChars? ('^' :: (escape text ++ ":(\\d+)$".toList)) = some (framed (text ++ [':']) digits) := by
  refine parseChars?_eq_some_iff.mpr
    ⟨(numbered text).finish, ⟨.default, [], ?_⟩, numbered_nesting text, numbered_pattern text⟩
  have tail (fuel : Nat) (progress : Progress) :
      readBranches (fuel + 6) progress ⟨.default, [], ":(\\d+)$".toList⟩ =
        some (((((progress.push (.oneOf (.single ':')) 0).push (.group true digits) 2).push
          (.anchor .textEnd) 0)).finish, ⟨.default, [], []⟩) := rfl
  -- Each character takes one call, and there is one more for each backslash than is needed.
  obtain ⟨spare, long⟩ := Nat.exists_eq_add_of_le (length_le_escape text)
  have fuel : ('^' :: (escape text ++ ":(\\d+)$".toList)).length + 1 = spare + 2 + 6 + text.length + 1 := by
    show (escape text ++ [':', '(', '\\', 'd', '+', ')', '$']).length + 1 + 1 = _
    rw [List.length_append, long]
    simp only [List.length_cons, List.length_nil]
    omega
  rw [readText, fuel]
  exact readBranches_succ_iff.mpr (.part rfl (readBranches_escape (tail (spare + 2) _)))

/-! ### Matching -/

/-- Rounds of single characters read so many of them. -/
theorem rounds_oneOf_iff {chars : CharSet} {rounds : Nat} {before read after : List Char} :
    Rounds (Pattern.oneOf chars).Matches rounds ⟨before, read⟩ ⟨after, []⟩ ↔
      read.length = rounds ∧ (∀ c ∈ read, chars.mem c = true) ∧ after = read.reverse ++ before := by
  induction rounds generalizing before read with
  | zero =>
      rw [List.length_eq_zero_iff]
      constructor
      · intro same
        obtain ⟨rfl, rfl⟩ := Cursor.mk.inj same
        simp
      · rintro ⟨rfl, -, rfl⟩
        rfl
  | succ rounds ih =>
      rw [Rounds]
      constructor
      · rintro ⟨middle, first, further⟩
        obtain ⟨x, rest, rfl, member, rfl⟩ := matches_oneOf_iff.mp first
        obtain ⟨length, members, rfl⟩ := ih.mp further
        exact ⟨congrArg (· + 1) length, List.forall_mem_cons.mpr ⟨member, members⟩, by simp⟩
      · rintro ⟨length, members, rfl⟩
        obtain ⟨x, rest, rfl⟩ := List.exists_cons_of_length_eq_add_one length
        obtain ⟨member, members⟩ := List.forall_mem_cons.mp members
        exact ⟨⟨x :: before, rest⟩, .oneOf member, ih.mpr ⟨Nat.succ.inj length, members, by simp⟩⟩

theorem matches_digits_iff {before read : List Char} :
    digits.Matches ⟨before, read⟩ ⟨read.reverse ++ before, []⟩ ↔
      read ≠ [] ∧ ∀ c ∈ read, Text.isDigit c = true := by
  rw [digits, concat, List.foldr_cons, List.foldr_nil, matches_seq_iff]
  simp only [matches_empty_iff, exists_eq_right, matches_repeated_iff, rounds_oneOf_iff]
  constructor
  · rintro ⟨rounds, positive, -, rfl, members, -⟩
    exact ⟨List.ne_nil_of_length_pos positive, members⟩
  · rintro ⟨nonempty, members⟩
    exact ⟨read.length, List.length_pos_of_ne_nil nonempty, by simp, rfl, members, trivial⟩

/-- The texts that continue a fixed text with a colon and digits are those of the pattern, which captures
their digits. -/
theorem capture?_numbered_iff {tag number : List Char} :
    (framed (text ++ [':']) digits).capture? tag = some number ↔
      tag = text ++ ':' :: number ∧ number ≠ [] ∧ ∀ c ∈ number, Text.isDigit c = true := by
  have front : (text ++ [':']) ++ number = text ++ ':' :: number := by simp
  rw [capture?_framed_iff, front]
  refine and_congr_right fun same => ?_
  rw [← matches_digits_iff, same, ← front, Cursor.finish, ← List.reverse_append]

end ServiceMesh.Pattern
