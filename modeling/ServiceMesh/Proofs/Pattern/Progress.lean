import ServiceMesh.Proofs.Pattern.Reading

/-! What reading a group adds up to: all repetitions of the pattern allow for some number of rounds, and the
pattern is nested as deep as the rows of its parts and branches make it. -/
namespace ServiceMesh.Pattern

variable {flags : Flags} {names : List (List Char)} {y : List Char} {least : Nat} {most : Option Nat}
  {pattern : Pattern} {progress repeated : Progress} {nested : Nested} {after : Scan} {fuel m n : Nat}

/-! ### Feasible patterns -/

theorem feasible_concat {parts : List Pattern} (all : ∀ part ∈ parts, part.Feasible) :
    (concat parts).Feasible := by
  induction parts with
  | nil => trivial
  | cons part parts ih => exact ⟨all part (by simp), ih fun other member => all other (by simp [member])⟩

theorem feasible_choice {first : Pattern} {rest : List Pattern} (feasible : first.Feasible)
    (all : ∀ other ∈ rest, other.Feasible) : (choice first rest).Feasible := by
  induction rest generalizing first with
  | nil => exact feasible
  | cons second rest ih =>
      exact ⟨feasible, ih (all second (by simp)) fun other member => all other (by simp [member])⟩

/-- What has been read allows for some number of rounds in all its repetitions. -/
structure Progress.Feasible (progress : Progress) : Prop where
  branches : ∀ branch ∈ progress.branches, branch.pattern.Feasible
  parts : ∀ part ∈ progress.parts, part.pattern.Feasible

namespace Progress.Feasible

theorem start : Progress.start.Feasible := ⟨by simp [Progress.start], by simp [Progress.start]⟩

theorem push (feasible : progress.Feasible) (part : pattern.Feasible) (n : Nat) :
    (progress.push pattern n).Feasible :=
  ⟨feasible.branches, List.forall_mem_cons.mpr ⟨part, feasible.parts⟩⟩

theorem pushFlags (feasible : progress.Feasible) : progress.pushFlags.Feasible :=
  ⟨feasible.branches, List.forall_mem_cons.mpr ⟨trivial, feasible.parts⟩⟩

theorem branch (feasible : progress.Feasible) : progress.branch.pattern.Feasible := by
  refine feasible_concat fun pattern member => ?_
  obtain ⟨part, inside, rfl⟩ := List.mem_map.mp member
  exact feasible.parts part (List.mem_reverse.mp inside)

theorem next (feasible : progress.Feasible) : progress.next.Feasible := by
  refine ⟨fun branch member => ?_, by simp [Progress.next]⟩
  rcases List.mem_cons.mp member with rfl | member
  · exact feasible.branch
  · exact feasible.branches branch member

theorem repeatLast (feasible : progress.Feasible) (order : ∀ limit ∈ most, least ≤ limit)
    (last : progress.repeatLast least most = some repeated) : repeated.Feasible := by
  obtain ⟨branches, parts⟩ := feasible
  unfold Progress.repeatLast at last
  split at last
  case h_1 body nesting rest whole =>
    cases last
    rw [whole, List.forall_mem_cons] at parts
    exact ⟨branches, List.forall_mem_cons.mpr ⟨⟨parts.1, order⟩, parts.2⟩⟩
  case h_2 => contradiction

theorem finish (feasible : progress.Feasible) : progress.finish.pattern.Feasible := by
  have all : ∀ branch ∈ (progress.branch :: progress.branches).reverse, branch.pattern.Feasible := by
    intro branch member
    rw [List.mem_reverse] at member
    exact feasible.next.branches branch member
  unfold Progress.finish
  dsimp only
  generalize (progress.branch :: progress.branches).reverse = branches at all
  cases branches with
  | nil => trivial
  | cons first rest =>
      obtain ⟨feasible, others⟩ := List.forall_mem_cons.mp all
      refine feasible_choice feasible fun pattern member => ?_
      obtain ⟨branch, inside, rfl⟩ := List.mem_map.mp member
      exact others branch inside

end Progress.Feasible

theorem part?_feasible {r : List Char} (read : part? flags y = some (pattern, r)) : pattern.Feasible := by
  have atom (atom : Atom) : (flags.atom atom).Feasible := by cases atom <;> trivial
  cases y with
  | nil => contradiction
  | cons c y =>
      unfold part? at read
      dsimp only at read
      split at read
      case h_9 =>
        obtain ⟨⟨_, next⟩, -, same⟩ := Option.map_eq_some_iff.mp read
        cases same
        exact atom _
      all_goals
        first
        | contradiction
        | cases read
          trivial

/-- The pattern that is read is feasible. -/
theorem readBranches_feasible (feasible : progress.Feasible)
    (read : readBranches fuel progress ⟨flags, names, y⟩ = some (nested, after)) :
    nested.pattern.Feasible := by
  induction fuel generalizing progress flags names y nested after with
  | zero => simp [readBranches] at read
  | succ fuel ih =>
      cases readBranches_succ_iff.mp read with
      | stop _ made _ => exact made ▸ feasible.finish
      | bar further => exact ih feasible.next further
      | switch _ further => exact ih feasible.pushFlags further
      | group _ inside further =>
          refine ih (feasible.push ?_ _) further
          exact ih .start inside
      | set _ further =>
          refine ih (feasible.push ?_ _) further
          trivial
      | repetition given last further =>
          exact ih (feasible.repeatLast (repetition?_le given) last) further
      | part given further => exact ih (feasible.push (part?_feasible given) _) further

/-! ### Nesting -/

theorem rowNesting_eq (row : List Nat) :
    rowNesting row = row.foldr max 0 + if row.length ≤ 1 then 0 else 1 := by
  rcases row with _ | ⟨first, _ | ⟨second, rest⟩⟩ <;> simp [rowNesting]

theorem rowNesting_reverse (row : List Nat) : rowNesting row.reverse = rowNesting row := by
  rw [rowNesting_eq, rowNesting_eq, List.length_reverse, (List.reverse_perm row).foldr_eq 0]

namespace Progress

theorem finish_nesting (progress : Progress) : progress.finish.nesting =
    rowNesting (rowNesting (progress.parts.map (·.nesting)) :: progress.branches.map (·.nesting)) := by
  rw [← rowNesting_reverse (progress.parts.map (·.nesting)), ← List.map_reverse]
  rfl

end Progress

end ServiceMesh.Pattern
