import Mathlib.Data.List.DropRight
import Mathlib.Data.List.TakeWhile
import ServiceMesh.Text.Blank
import ServiceMesh.Text.Split

/-! Texts that are cut at a separator and joined again, and texts without white space at their ends. -/
namespace ServiceMesh.Text

variable {separator c : Char} {text front back piece : List Char} {names : List (List Char)}

/-! ### Separators -/

theorem dropWhile_of_notMem (without : separator ∉ text) :
    text.dropWhile (· != separator) = [] := by
  refine List.dropWhile_eq_nil_iff.mpr fun c member => ?_
  simp only [bne_iff_ne]
  rintro rfl
  exact without member

theorem cut?_append (without : separator ∉ front) :
    cut? separator (front ++ separator :: back) = some (front, back) := by
  have passes : ∀ c ∈ front, (c != separator) = true := by
    intro c member
    simp only [bne_iff_ne]
    rintro rfl
    exact without member
  rw [cut?, List.dropWhile_append_of_pos passes, List.takeWhile_append_of_pos passes]
  simp

theorem cut?_of_notMem (without : separator ∉ text) : cut? separator text = none := by
  rw [cut?, dropWhile_of_notMem without]

/-- A text is cut at its first separator. -/
theorem cut?_eq_some (found : cut? separator text = some (front, back)) :
    separator ∉ front ∧ text = front ++ separator :: back := by
  unfold cut? at found
  split at found
  case h_1 => contradiction
  case h_2 head rest split =>
    obtain ⟨rfl, rfl⟩ := Prod.mk.inj (Option.some.inj found)
    have here : head = separator := by
      have stopped := List.head?_dropWhile_not (· != separator) text
      rw [split] at stopped
      simpa using stopped
    constructor
    · intro member
      simpa using List.mem_takeWhile_imp member
    · rw [← here, ← split, here]
      exact List.takeWhile_append_dropWhile.symm

theorem notMem_of_cut?_eq_none (missing : cut? separator text = none) : separator ∉ text := by
  unfold cut? at missing
  split at missing
  case h_1 none =>
    intro member
    simpa using List.dropWhile_eq_nil_iff.mp none separator member
  case h_2 => contradiction

theorem pieces_of_notMem (without : separator ∉ text) : pieces separator text = [text] := by
  induction text with
  | nil => rfl
  | cons c rest ih =>
      obtain ⟨other, later⟩ := not_or.mp (mt List.mem_cons.mpr without)
      have apart : (c == separator) = false := beq_false_of_ne (Ne.symm other)
      simp [pieces, apart, ih later]

theorem pieces_append (without : separator ∉ front) :
    pieces separator (front ++ separator :: back) = front :: pieces separator back := by
  induction front with
  | nil => simp [pieces]
  | cons c rest ih =>
      obtain ⟨other, later⟩ := not_or.mp (mt List.mem_cons.mpr without)
      have apart : (c == separator) = false := beq_false_of_ne (Ne.symm other)
      simp [pieces, apart, ih later]

/-- What is joined is cut into the same pieces again. -/
theorem pieces_intercalate (nonempty : names ≠ []) (without : ∀ name ∈ names, separator ∉ name) :
    pieces separator (List.intercalate [separator] names) = names := by
  induction names with
  | nil => contradiction
  | cons name names ih =>
      obtain ⟨here, later⟩ := List.forall_mem_cons.mp without
      cases names with
      | nil =>
          rw [List.intercalate_singleton]
          exact pieces_of_notMem here
      | cons next others =>
          rw [List.intercalate_cons_cons, List.append_assoc, List.singleton_append,
            pieces_append here, ih (List.cons_ne_nil _ _) later]

theorem notMem_of_mem_pieces (member : piece ∈ pieces separator text) : separator ∉ piece := by
  induction text generalizing piece with
  | nil =>
      obtain rfl := List.mem_singleton.mp member
      exact List.not_mem_nil
  | cons c rest ih =>
      unfold pieces at member
      split at member
      case isTrue =>
        rcases List.mem_cons.mp member with rfl | later
        · exact List.not_mem_nil
        · exact ih later
      case isFalse other =>
        have apart : separator ≠ c := fun same => other (beq_iff_eq.mpr same.symm)
        split at member
        case h_1 =>
          obtain rfl := List.mem_singleton.mp member
          simpa using apart
        case h_2 first later split =>
          rw [split] at ih
          rcases List.mem_cons.mp member with rfl | behind
          · exact mt List.mem_cons.mp (not_or.mpr ⟨apart, ih List.mem_cons_self⟩)
          · exact ih (List.mem_cons_of_mem _ behind)

/-! ### Runs -/

/-- A run of characters ends where another kind of character follows. -/
theorem takeWhile_run {p : Char → Bool} (run : ∀ c ∈ front, p c = true)
    (stops : ∀ c ∈ back.head?, p c = false) :
    (front ++ back).takeWhile p = front ∧ (front ++ back).dropWhile p = back := by
  rw [List.takeWhile_append_of_pos run, List.dropWhile_append_of_pos run]
  cases back with
  | nil => simp
  | cons c back => simp [stops c rfl]

/-! ### White space -/

/-- A text that neither begins nor ends with white space. -/
structure Trimmed (text : List Char) : Prop where
  start : ∀ c ∈ text.head?, isBlank c = false
  finish : ∀ c ∈ text.getLast?, isBlank c = false

theorem Trimmed.trim_eq (trimmed : Trimmed text) : trim text = text := by
  have start : trimStart text = text := by
    cases text with
    | nil => rfl
    | cons c rest => exact List.dropWhile_cons_of_neg (by simp [trimmed.start c rfl])
  have finish : trimEnd text = text := by
    refine List.rdropWhile_eq_self_iff.mpr fun nonempty => ?_
    simp [trimmed.finish _ (List.getLast?_eq_some_getLast nonempty)]
  rw [trim, start, finish]

theorem trim_isPrefix (text : List Char) : trim text <+: trimStart text :=
  List.rdropWhile_prefix isBlank (trimStart text)

theorem mem_of_mem_trim (member : c ∈ trim text) : c ∈ text :=
  (List.dropWhile_sublist isBlank).subset ((trim_isPrefix text).subset member)

theorem trimmed_trim (text : List Char) : Trimmed (trim text) where
  start c first := by
    obtain ⟨blank, whole⟩ := trim_isPrefix text
    have same : (trimStart text).head? = some c := by
      rw [← whole, List.head?_append, Option.mem_def.mp first]
      rfl
    have stopped := List.head?_dropWhile_not isBlank text
    rw [trimStart] at same
    rw [same] at stopped
    exact stopped
  finish c last := by
    obtain ⟨nonempty, rfl⟩ := List.mem_getLast?_eq_getLast last
    exact eq_false_of_ne_true (List.rdropWhile_last_not isBlank (trimStart text) nonempty)

theorem Trimmed.intercalate (nonempty : ∀ name ∈ names, name ≠ [])
    (trimmed : ∀ name ∈ names, Trimmed name) : Trimmed (List.intercalate [separator] names) := by
  induction names with
  | nil => exact ⟨fun _ first => by simp at first, fun _ last => by simp at last⟩
  | cons name names ih =>
      obtain ⟨here, later⟩ := List.forall_mem_cons.mp nonempty
      obtain ⟨own, others⟩ := List.forall_mem_cons.mp trimmed
      cases names with
      | nil => rwa [List.intercalate_singleton]
      | cons next names =>
          rw [List.intercalate_cons_cons, List.append_assoc]
          have rest := ih later others
          have joined : List.intercalate [separator] (next :: names) ≠ [] := by
            cases names with
            | nil => simpa using later next
            | cons => simp [List.intercalate_cons_cons]
          constructor
          · intro c first
            rw [List.head?_append_of_ne_nil _ here] at first
            exact own.start c first
          · intro c last
            rw [← List.append_assoc, List.getLast?_append_of_ne_nil _ joined] at last
            exact rest.finish c last

end ServiceMesh.Text
