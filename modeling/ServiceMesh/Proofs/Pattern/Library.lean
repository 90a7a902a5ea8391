import ServiceMesh.Pattern.Engine
import ServiceMesh.Proofs.Pattern.Wrapping

/-! What is relied on where the library compiles patterns: what is documented of it about the texts that are
read as patterns here. About other texts nothing is assumed, and nothing about the limit on size. -/
namespace ServiceMesh

open Pattern (Nested Reads maxNesting)

variable {texts : List String} {read : List Nested}

/-- Each text is a pattern. -/
abbrev ReadsAll (texts : List String) (read : List Nested) : Prop :=
  List.Forall₂ (fun text nested => Reads text.toList nested) texts read

/-- The library takes patterns for patterns unless one of them is nested too deep, and a set that it has
compiled finds a match wherever one of the patterns has one. -/
structure PatternLibrary.Documented (library : PatternLibrary) : Prop where
  malformed_iff {texts : List String} {read : List Nested} : ReadsAll texts read →
    (library.compile texts = .error .malformed ↔ ∃ nested ∈ read, maxNesting < nested.nesting)
  finds_iff {texts : List String} {read : List Nested} {finds : String → Bool} : ReadsAll texts read →
    library.compile texts = .ok finds → ∀ name : String,
      (finds name = true ↔ ∃ nested ∈ read, nested.pattern.Occurs name.toList)

/-- Nothing but the limits on nesting and on size speaks against patterns. -/
theorem PatternLibrary.Documented.compiles_iff {library : PatternLibrary} (documented : library.Documented)
    (reads : ReadsAll texts read) : (∃ finds, library.compile texts = .ok finds) ↔
      (∀ nested ∈ read, nested.nesting ≤ maxNesting) ∧ library.compile texts ≠ .error .tooLarge := by
  have deep := documented.malformed_iff reads
  constructor
  · rintro ⟨finds, compiled⟩
    rw [compiled] at deep ⊢
    refine ⟨fun nested member => ?_, nofun⟩
    by_contra tooDeep
    exact nomatch deep.mpr ⟨nested, member, Nat.not_le.mp tooDeep⟩
  · rintro ⟨shallow, room⟩
    cases compiled : library.compile texts with
    | ok finds => exact ⟨finds, rfl⟩
    | error problem =>
        cases problem with
        | tooLarge => contradiction
        | malformed =>
            obtain ⟨nested, member, tooDeep⟩ := deep.mp compiled
            exact absurd (shallow nested member) (Nat.not_le.mpr tooDeep)

/-! ### The library to run with -/

theorem exists_of_mem_right {α β : Type} {R : α → β → Prop} {xs : List α} {ys : List β} {y : β}
    (related : List.Forall₂ R xs ys) (member : y ∈ ys) : ∃ x ∈ xs, R x y := by
  induction related with
  | nil => contradiction
  | @cons x _ _ _ first _ ih =>
      rcases List.mem_cons.mp member with rfl | member
      · exact ⟨x, List.mem_cons_self, first⟩
      · obtain ⟨other, inside, own⟩ := ih member
        exact ⟨other, List.mem_cons_of_mem x inside, own⟩

theorem mapM_parse_of_reads (reads : ReadsAll texts read) : texts.mapM Pattern.parse? =
    if ∀ nested ∈ read, nested.nesting ≤ maxNesting then some (read.map (·.pattern)) else none := by
  induction reads with
  | nil => simp
  | @cons text nested _ rest first _ ih =>
      have parsed : Pattern.parse? text = _ := Pattern.parse_of_reads first
      rw [List.mapM_cons, parsed, ih]
      by_cases here : nested.nesting ≤ maxNesting
      · by_cases others : ∀ other ∈ rest, other.nesting ≤ maxNesting
        · simp [here, if_pos others]
        · simp [here, others]
      · simp [here]

theorem PatternLibrary.engine_compile (reads : ReadsAll texts read) : engine.compile texts =
    if ∀ nested ∈ read, nested.nesting ≤ maxNesting then
      if Pattern.fits (read.map (·.pattern)) then
        .ok fun name => read.any fun nested => nested.pattern.occursIn name.toList
      else .error .tooLarge
    else .error .malformed := by
  simp only [engine, mapM_parse_of_reads reads]
  by_cases shallow : ∀ nested ∈ read, nested.nesting ≤ maxNesting
  · simp only [if_pos shallow, List.any_map, Function.comp_def]
  · simp only [if_neg shallow]

theorem PatternLibrary.engine_documented : engine.Documented where
  malformed_iff {texts read} reads := by
    rw [engine_compile reads]
    split
    case isTrue shallow =>
      refine iff_of_false ?_ fun ⟨nested, member, tooDeep⟩ => ?_
      · split <;> nofun
      · exact absurd (shallow nested member) (Nat.not_le.mpr tooDeep)
    case isFalse deep => exact iff_of_true rfl (by simpa using deep)
  finds_iff {texts read finds} reads compiled name := by
    rw [engine_compile reads] at compiled
    split at compiled
    case isFalse => contradiction
    case isTrue =>
      split at compiled
      case isFalse => contradiction
      case isTrue =>
        cases compiled
        rw [List.any_eq_true]
        refine exists_congr fun nested => and_congr_right fun member => ?_
        obtain ⟨text, -, own⟩ := exists_of_mem_right reads member
        exact Pattern.occursIn_iff own.feasible

end ServiceMesh
