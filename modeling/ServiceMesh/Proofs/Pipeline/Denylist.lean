import ServiceMesh.Pipeline.Denylist
import ServiceMesh.Proofs.Pattern.Library

/-! Denylists keep out whole names. A list of patterns is accepted as a denylist unless the anchors exceed
what the patterns may nest or what the library has room for, and it then keeps out the names that one of them
spans. A text that is no pattern is accepted if it closes the group that the anchors put around it. -/
namespace ServiceMesh.Denylist

open Pattern (Nested wrap whole nestingOf maxNesting)

variable {library : PatternLibrary} {texts : List String} {patterns : List Pattern} {denylist : Denylist}

theorem toList_anchored (text : String) : (anchored text).toList = wrap text.toList := by
  simp [anchored, wrap]

theorem ofPatterns_eq_ok_iff : ofPatterns library texts = .ok denylist ↔
    library.compile (texts.map anchored) = .ok denylist.excludes := by
  unfold ofPatterns
  cases library.compile (texts.map anchored) with
  | error problem => exact iff_of_false nofun nofun
  | ok finds =>
      constructor
      · intro made
        cases made
        rfl
      · intro same
        cases same
        rfl

theorem mapM_eq_some_iff {α β : Type} {f : α → Option β} {xs : List α} {ys : List β} :
    xs.mapM f = some ys ↔ List.Forall₂ (fun x y => f x = some y) xs ys := by
  induction xs generalizing ys with
  | nil => cases ys <;> simp
  | cons x xs ih =>
      rw [List.mapM_cons]
      cases ys with
      | nil => simp [Option.bind_eq_some_iff]
      | cons y ys => simp [Option.bind_eq_some_iff, ih]

/-- Texts that are patterns by themselves are patterns between their anchors, two levels deeper. -/
theorem reads_anchored (valid : texts.mapM Pattern.parse? = some patterns) : ∃ read,
    ReadsAll (texts.map anchored) read ∧ read.map (·.pattern) = patterns.map whole ∧
      read.map (·.nesting) = texts.map fun text => nestingOf text.toList + 2 := by
  have alone := mapM_eq_some_iff.mp valid
  clear valid
  induction alone with
  | nil => exact ⟨[], .nil, rfl, rfl⟩
  | @cons text _ _ _ first _ ih =>
      obtain ⟨read, reads, made, deep⟩ := ih
      obtain ⟨own, reading, -, rfl⟩ := Pattern.parseChars?_eq_some_iff.mp first
      have wrapped := Pattern.reads_wrap reading
      rw [← toList_anchored] at wrapped
      refine ⟨⟨whole own.pattern, own.nesting + 2⟩ :: read, .cons wrapped reads, ?_, ?_⟩
      · rw [List.map_cons, made, List.map_cons]
      · rw [List.map_cons, deep, List.map_cons, reading.nestingOf]

/-- The anchors need two further levels, and the library may have no room for what they make. -/
theorem accepts_iff (documented : library.Documented)
    (valid : texts.mapM Pattern.parse? = some patterns) :
    (∃ denylist, ofPatterns library texts = .ok denylist) ↔
      (∀ text ∈ texts, nestingOf text.toList + 2 ≤ maxNesting) ∧
        library.compile (texts.map anchored) ≠ .error .tooLarge := by
  obtain ⟨read, reads, -, deep⟩ := reads_anchored valid
  have compiles : (∃ denylist, ofPatterns library texts = .ok denylist) ↔
      ∃ finds, library.compile (texts.map anchored) = .ok finds :=
    ⟨fun ⟨denylist, made⟩ => ⟨denylist.excludes, ofPatterns_eq_ok_iff.mp made⟩,
      fun ⟨finds, compiled⟩ => ⟨⟨finds⟩, ofPatterns_eq_ok_iff.mpr compiled⟩⟩
  have depths : (∀ n ∈ read.map (·.nesting), n ≤ maxNesting) ↔
      ∀ n ∈ texts.map fun text => nestingOf text.toList + 2, n ≤ maxNesting := by rw [deep]
  rw [compiles, documented.compiles_iff reads]
  exact and_congr_left' (by simpa only [List.forall_mem_map] using depths)

/-- Patterns are accepted exactly if they are not nested too deep for the two levels around them and the library
has room for them, and the names that are kept out are the ones that some pattern matches from their start to
their end. -/
theorem excludes_spanned_names (documented : library.Documented)
    (valid : texts.mapM Pattern.parse? = some patterns) :
    ((∃ denylist, ofPatterns library texts = .ok denylist) ↔
        (∀ text ∈ texts, nestingOf text.toList + 2 ≤ maxNesting) ∧
          library.compile (texts.map anchored) ≠ .error .tooLarge) ∧
      ∀ denylist, ofPatterns library texts = .ok denylist → ∀ name : String,
        denylist.excludes name = true ↔ ∃ own ∈ patterns, own.Spans name.toList := by
  refine ⟨accepts_iff documented valid, ?_⟩
  intro denylist accepted name
  obtain ⟨read, reads, made, -⟩ := reads_anchored valid
  have found : (∃ p ∈ read.map (·.pattern), p.Occurs name.toList) ↔
      ∃ p ∈ patterns.map whole, p.Occurs name.toList := by rw [made]
  rw [documented.finds_iff reads (ofPatterns_eq_ok_iff.mp accepted) name]
  simpa only [List.mem_map, exists_exists_and_eq_and, Pattern.occurs_whole_iff] using found

/-- Alternatives stay together between the anchors. -/
theorem excludes_spanned_names_alternatives :
    ∃ denylist, ofPatterns .engine ["a|b", "c"] = .ok denylist ∧
      ∀ name : String, denylist.excludes name = true ↔
        ∃ own ∈ [.alt (.concat [.oneOf (.single 'a')]) (.concat [.oneOf (.single 'b')]),
          .concat [.oneOf (.single 'c')]], Pattern.Spans own name.toList := by
  have valid : ["a|b", "c"].mapM Pattern.parse? =
      some [.alt (.concat [.oneOf (.single 'a')]) (.concat [.oneOf (.single 'b')]),
        .concat [.oneOf (.single 'c')]] := by decide +kernel
  obtain ⟨limits, names⟩ := excludes_spanned_names PatternLibrary.engine_documented valid
  have room : (PatternLibrary.engine.compile (["a|b", "c"].map anchored)).isOk = true := by
    decide +kernel
  have fit : PatternLibrary.engine.compile (["a|b", "c"].map anchored) ≠ .error .tooLarge := by
    intro refused
    rw [refused] at room
    contradiction
  obtain ⟨denylist, accepted⟩ := limits.mpr ⟨by decide +kernel, fit⟩
  exact ⟨denylist, accepted, names denylist accepted⟩

/-- A letter in 249 pairs of parentheses. -/
def deepText : String := String.ofList (List.replicate 249 '(' ++ 'a' :: List.replicate 249 ')')

/-- A letter in so many groups is a pattern by itself, but leaves no level for the anchors, and two patterns
that are accepted one at a time can be too large for one list. -/
theorem valid_patterns_refused :
    ((Pattern.parse? deepText).isSome = true ∧
      ∀ library : PatternLibrary, library.Documented →
        ∀ denylist, ofPatterns library [deepText] ≠ .ok denylist) ∧
    (Pattern.parse? "a{200000}").isSome = true ∧ (ofPatterns .engine ["a{200000}"]).isOk = true ∧
      (ofPatterns .engine ["a{200000}", "a{200000}"]).isOk = false := by
  refine ⟨?_, by decide +kernel⟩
  have letters : deepText.toList = List.replicate 249 '(' ++ 'a' :: List.replicate 249 ')' :=
    String.toList_ofList
  have alone : (Pattern.parse? deepText).isSome = true := by
    rw [Pattern.parse?, letters]
    decide +kernel
  have tooDeep : ¬nestingOf deepText.toList + 2 ≤ maxNesting := by
    rw [letters]
    decide +kernel
  refine ⟨alone, fun library documented denylist accepted => ?_⟩
  obtain ⟨own, parsed⟩ := Option.isSome_iff_exists.mp alone
  have valid : [deepText].mapM Pattern.parse? = some [own] := by simp [parsed]
  obtain ⟨shallow, -⟩ := (accepts_iff documented valid).mp ⟨denylist, accepted⟩
  exact tooDeep (shallow deepText (List.mem_singleton_self deepText))

/-! ### Texts that close their group -/

/-- The text is no pattern, but with the parentheses around it there are two, each with an anchor at one end
only. -/
theorem closing_text_accepted :
    Pattern.parse? "a)|(b" = none ∧ (ofPatterns .engine ["a)|(b"]).isOk = true ∧
      ∀ library : PatternLibrary, library.Documented →
        library.compile [anchored "a)|(b"] ≠ .error .tooLarge →
          ∃ denylist, ofPatterns library ["a)|(b"] = .ok denylist ∧ denylist.excludes "ax" = true := by
  refine ⟨by decide +kernel, by decide +kernel, fun library documented room => ?_⟩
  have valid : Pattern.parseChars? (anchored "a)|(b").toList = some (.alt
      (.concat [.anchor .textStart, .group false (.concat [.oneOf (.single 'a')])])
      (.concat [.group true (.concat [.oneOf (.single 'b')]), .anchor .textEnd])) := by decide +kernel
  obtain ⟨nested, reading, shallow, made⟩ := Pattern.parseChars?_eq_some_iff.mp valid
  have reads : ReadsAll [anchored "a)|(b"] [nested] := .cons reading .nil
  obtain ⟨finds, compiled⟩ := (documented.compiles_iff reads).mpr ⟨by simpa using shallow, room⟩
  refine ⟨⟨finds⟩, ofPatterns_eq_ok_iff.mpr compiled, ?_⟩
  refine (documented.finds_iff reads compiled "ax").mpr ⟨nested, List.mem_singleton_self nested, ?_⟩
  rw [made]
  exact (Pattern.occursIn_iff (made ▸ reading.feasible)).mp (by decide +kernel)

end ServiceMesh.Denylist
