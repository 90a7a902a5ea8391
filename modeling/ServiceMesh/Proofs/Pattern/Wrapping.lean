import ServiceMesh.Proofs.Pattern.Progress

/-! A text between anchors, in a group of its own. If the text is a pattern by itself, the group holds that
pattern, two levels deeper, and what it matches are the texts that the pattern matches as a whole. -/
namespace ServiceMesh.Pattern

variable {text : List Char} {own pattern : Pattern} {flags : Flags} {names : List (List Char)}
  {nested : Nested}

/-! ### Texts read whole -/

/-- How a text is read from its start on, up to its end or a parenthesis that nothing opens. -/
def readText (text : List Char) : Option (Nested × Scan) :=
  readBranches (text.length + 1) .start ⟨.default, [], text⟩

/-- The nesting of a text that can be read. -/
def nestingOf (text : List Char) : Nat := (readText text).elim 0 (·.1.nesting)

/-- The text is a pattern, however deep it is nested. -/
def Reads (text : List Char) (nested : Nested) : Prop :=
  ∃ flags names, readText text = some (nested, ⟨flags, names, []⟩)

theorem parse_of_reads (reads : Reads text nested) : parseChars? text =
    if nested.nesting ≤ maxNesting then some nested.pattern else none := by
  obtain ⟨flags, names, read⟩ := reads
  have read : readBranches (text.length + 1) .start ⟨.default, [], text⟩ =
      some (nested, ⟨flags, names, []⟩) := read
  simp [parseChars?, read]

theorem parseChars?_eq_some_iff : parseChars? text = some pattern ↔
    ∃ nested, Reads text nested ∧ nested.nesting ≤ maxNesting ∧ nested.pattern = pattern := by
  constructor
  · intro parsed
    obtain ⟨⟨nested, flags, names, left⟩, read, checked⟩ := Option.bind_eq_some_iff.mp parsed
    dsimp only at checked
    split at checked
    case isTrue fine =>
      obtain ⟨none, shallow⟩ : left = [] ∧ nested.nesting ≤ maxNesting := by simpa using fine
      subst none
      exact ⟨nested, ⟨flags, names, read⟩, shallow, Option.some.inj checked⟩
    case isFalse => contradiction
  · rintro ⟨nested, reads, shallow, rfl⟩
    rw [parse_of_reads reads, if_pos shallow]

theorem Reads.nestingOf (reads : Reads text nested) : nestingOf text = nested.nesting := by
  obtain ⟨flags, names, read⟩ := reads
  simp [Pattern.nestingOf, read]

/-! ### Between anchors -/

/-- The pattern between anchors, in a group of its own. -/
def whole (own : Pattern) : Pattern :=
  .concat [.anchor .textStart, .group false own, .anchor .textEnd]

/-- The text with what `whole` puts around a pattern. -/
def wrap (text : List Char) : List Char := '^' :: '(' :: '?' :: ':' :: (text ++ [')', '$'])

/-- What has been read of a wrapped text when its group is closed. -/
def opened (body : Nested) : Progress :=
  (Progress.start.push (.anchor .textStart) 0).push (.group false body.pattern) (body.nesting + 1)

theorem readText_wrap (text : List Char) : readText (wrap text) = (do
    let (body, inner) ← readBranches (text.length + 5) .start ⟨.default, [], text ++ [')', '$']⟩
    let ')' :: rest := inner.input | none
    readBranches (text.length + 5) (opened body) { inner with flags := .default, input := rest }) := by
  have length : (wrap text).length + 1 = text.length + 5 + 2 := by simp [wrap]
  rw [readText, length, wrap]
  rfl

theorem readBranches_dollar (fuel : Nat) (body : Nested) (names : List (List Char)) :
    readBranches (fuel + 2) (opened body) ⟨.default, names, ['$']⟩ =
      some (⟨whole body.pattern, body.nesting + 2⟩, ⟨.default, names, []⟩) := by
  have made : ((opened body).push (.anchor .textEnd) 0).finish =
      ⟨whole body.pattern, body.nesting + 2⟩ := by
    refine congrArg (Nested.mk (whole body.pattern)) ?_
    show max 0 (max (body.nesting + 1) (max 0 0)) + 1 = body.nesting + 2
    omega
  rw [← made]
  rfl

/-- A pattern by itself stays one between its anchors, two levels deeper. -/
theorem reads_wrap (reads : Reads text nested) :
    Reads (wrap text) ⟨whole nested.pattern, nested.nesting + 2⟩ := by
  obtain ⟨flags, names, read⟩ := reads
  rw [readText, ← List.append_nil text] at read
  have body := readsBranches (r := []) .nothing (.parenthesis ['$']) _ read
    (show text.length < text.length + 5 by omega)
  refine ⟨.default, names, ?_⟩
  rw [readText_wrap, body]
  exact readBranches_dollar (text.length + 3) nested names

/-! ### Patterns -/

/-- The pattern matches the text from its start to its end. -/
def Spans (p : Pattern) (text : List Char) : Prop := p.Matches (.start text) (.finish text)

theorem Reads.feasible (reads : Reads text nested) : nested.pattern.Feasible := by
  obtain ⟨flags, names, read⟩ := reads
  exact readBranches_feasible .start read

/-- The pattern matches some part of the text. -/
def Occurs (p : Pattern) (text : List Char) : Prop := ∃ a b, a.IsIn text ∧ p.Matches a b

/-- Between its anchors a pattern occurs in the texts that it spans. -/
theorem occurs_whole_iff (own : Pattern) : (whole own).Occurs text ↔ own.Spans text := by
  simp only [Occurs, whole, concat, List.foldr_cons, List.foldr_nil, matches_seq_iff, matches_anchor_iff,
    matches_group_iff, matches_empty_iff]
  constructor
  · rintro ⟨a, _, within, _, ⟨first, rfl⟩, b, found, _, ⟨last, rfl⟩, rfl⟩
    have target := found.isIn within
    obtain ⟨before, after⟩ := a
    obtain ⟨before', after'⟩ := b
    obtain rfl := List.isEmpty_iff.mp first
    obtain rfl := List.isEmpty_iff.mp last
    obtain rfl : after = text := within
    obtain rfl : before'.reverse = after := by simpa [Cursor.IsIn] using target
    rwa [Spans, Cursor.finish, List.reverse_reverse]
  · intro found
    exact ⟨.start text, .finish text, rfl, _, ⟨rfl, rfl⟩, _, found, _, ⟨rfl, rfl⟩, rfl⟩

end ServiceMesh.Pattern
