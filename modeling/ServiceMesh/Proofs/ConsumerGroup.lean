import ServiceMesh.ConsumerGroup
import ServiceMesh.Proofs.SortedSet
import ServiceMesh.Proofs.Text.Pieces

/-! What the text of a consumer group tells when it is read again. A group that has been read has names
that survive being written, with one exception: the star, alone, is no name any more but stands for all
services. -/
namespace ServiceMesh

open ServiceMesh.Text

/-- What is read from a text as a list of names is written in the same way: no name is empty, has white
space at its ends, or holds the sign that joins them. -/
structure SortedSet.Nameable (names : SortedSet String) : Prop where
  nonempty : ∀ name ∈ names, name.toList ≠ []
  trimmed : ∀ name ∈ names, Trimmed name.toList
  unjoined : ∀ name ∈ names, '+' ∉ name.toList

/-- The only dependency is named like the sign for all services. -/
def Dependencies.loneStar : Dependencies := .services (SortedSet.ofList ["*"])

namespace ConsumerGroup

variable {text : List Char} {group : ConsumerGroup} {names : SortedSet String}

/-! ### Dependencies -/

def renderDependencies : Dependencies → List Char
  | .all => ['*']
  | .services names => List.intercalate ['+'] (names.toList.map String.toList)

theorem parseDependencies_of_star (star : trim text = ['*']) : parseDependencies text = .all := by
  simp only [parseDependencies, star]

theorem parseDependencies_of_ne (other : trim text ≠ ['*']) : parseDependencies text =
    .services (SortedSet.ofList
      ((((pieces '+' (trim text)).map trim).filter (!·.isEmpty)).map String.ofList)) := by
  unfold parseDependencies
  split
  case h_1 star => exact absurd star other
  case h_2 => rfl

theorem nameable_of_parseDependencies (read : parseDependencies text = .services names) :
    names.Nameable := by
  by_cases star : trim text = ['*']
  · rw [parseDependencies_of_star star] at read
    contradiction
  · rw [parseDependencies_of_ne star] at read
    obtain rfl := Dependencies.services.inj read
    have origin (name : String) (member : name ∈ SortedSet.ofList
        ((((pieces '+' (trim text)).map trim).filter (!·.isEmpty)).map String.ofList)) :
        ∃ piece ∈ pieces '+' (trim text), trim piece ≠ [] ∧ name.toList = trim piece := by
      rw [SortedSet.mem_ofList, List.mem_map] at member
      obtain ⟨chars, kept, rfl⟩ := member
      obtain ⟨listed, nonempty⟩ := List.mem_filter.mp kept
      obtain ⟨piece, cut, rfl⟩ := List.mem_map.mp listed
      exact ⟨piece, cut, by simpa using nonempty, String.toList_ofList⟩
    constructor
    · intro name member
      obtain ⟨piece, -, nonempty, told⟩ := origin name member
      rwa [told]
    · intro name member
      obtain ⟨piece, -, -, told⟩ := origin name member
      rw [told]
      exact trimmed_trim piece
    · intro name member
      obtain ⟨piece, cut, -, told⟩ := origin name member
      rw [told]
      exact fun inside => notMem_of_mem_pieces cut (mem_of_mem_trim inside)

/-- Names that are joined with something are not a star, unless it is the star alone. -/
theorem intercalate_eq_star_iff (nameable : names.Nameable) :
    List.intercalate ['+'] (names.toList.map String.toList) = ['*'] ↔
      Dependencies.services names = .loneStar := by
  have known : Dependencies.services names = .loneStar ↔ names.toList = ["*"] := by
    rw [Dependencies.loneStar, Dependencies.services.injEq]
    exact ⟨fun same => congrArg SortedSet.toList same, fun same => SortedSet.ext same⟩
  rw [known]
  have nonempty := nameable.nonempty
  rcases split : names.toList with _ | ⟨name, _ | ⟨next, others⟩⟩
  · simp
  · simp [← String.toList_inj]
  · -- Two names have a character each, and the sign stands between them.
    have first := nonempty name (by rw [← SortedSet.mem_toList, split]; simp)
    obtain ⟨c, rest, told⟩ := List.exists_cons_of_ne_nil first
    simp [List.intercalate_cons_cons, told]

/-- Dependencies that have been read are read from their text again, unless the star is the only one. -/
theorem parseDependencies_render {dependencies : Dependencies}
    (nameable : ∀ names, dependencies = .services names → names.Nameable) :
    parseDependencies (renderDependencies dependencies) =
      if dependencies = .loneStar then .all else dependencies := by
  cases dependencies with
  | all => rfl
  | services names =>
      obtain ⟨nonempty, trimmed, unjoined⟩ := nameable names rfl
      have own : trim (renderDependencies (.services names)) = renderDependencies (.services names) := by
        apply Trimmed.trim_eq
        apply Trimmed.intercalate
        · exact List.forall_mem_map.mpr nonempty
        · exact List.forall_mem_map.mpr trimmed
      split
      case isTrue lone =>
        apply parseDependencies_of_star
        rw [own]
        exact (intercalate_eq_star_iff (nameable names rfl)).mpr lone
      case isFalse several =>
        have other : trim (renderDependencies (.services names)) ≠ ['*'] := by
          rw [own]
          exact mt (intercalate_eq_star_iff (nameable names rfl)).mp several
        have again : ((pieces '+' (renderDependencies (.services names))).map trim).filter
            (!·.isEmpty) = names.toList.map String.toList := by
          by_cases none : names.toList = []
          · simp [renderDependencies, none, pieces, trim, trimStart, trimEnd]
          · have inhabited : names.toList.map String.toList ≠ [] := by simpa using none
            rw [renderDependencies,
              pieces_intercalate inhabited (List.forall_mem_map.mpr unjoined), List.map_map]
            have same : names.toList.map (trim ∘ String.toList) = names.toList.map String.toList :=
              List.map_congr_left fun name member => (trimmed name member).trim_eq
            rw [same, List.filter_eq_self]
            exact List.forall_mem_map.mpr fun name member => by simpa using nonempty name member
        have back : String.ofList ∘ String.toList = id := funext fun _ => String.ofList_toList
        rw [parseDependencies_of_ne other, own, again, List.map_map, back, List.map_id,
          SortedSet.ofList_toList]

/-! ### Groups -/

/-- A group whose parts can be told from each other in a text. -/
structure Legible (group : ConsumerGroup) : Prop where
  named : group.service.toList ≠ []
  trimmed : Trimmed group.service.toList
  undivided : '=' ∉ group.service.toList ∧ ':' ∉ group.service.toList
  nameable : ∀ names, group.dependencies = .services names → names.Nameable

theorem parseHead_eq_ok {head name : List Char} {view : View}
    (read : parseHead head = .ok (name, view)) : ':' ∉ name ∧ ∀ c ∈ name, c ∈ head := by
  unfold parseHead at read
  split at read
  case h_1 missing =>
    cases read
    exact ⟨notMem_of_cut?_eq_none missing, fun _ member => member⟩
  case h_2 front told found =>
    obtain ⟨first, rfl⟩ := cut?_eq_some found
    have own : name = front := by
      split at read
      all_goals cases read
      all_goals rfl
    rw [own]
    exact ⟨first, fun _ member => List.mem_append_left _ member⟩

/-- A group is put together from a name, a view, and dependencies. -/
theorem parseChars_eq_ok_iff : parseChars text = .ok group ↔
    ∃ head name, '=' ∉ head ∧ parseHead head = .ok (name, group.view) ∧
      trim name ≠ [] ∧ group.service = String.ofList (trim name) ∧
      (text = head ∧ group.dependencies = .all ∨
        ∃ told, text = head ++ '=' :: told ∧ group.dependencies = parseDependencies told) := by
  have finish (head : List Char) (dependencies : Dependencies) :
      (do
        let parts ← parseHead head
        let name := trim parts.1
        if name.isEmpty then throw ParseError.missingName
        return (⟨String.ofList name, parts.2, dependencies⟩ : ConsumerGroup)) = .ok group ↔
      ∃ name, parseHead head = .ok (name, group.view) ∧ trim name ≠ [] ∧
        group.service = String.ofList (trim name) ∧ group.dependencies = dependencies := by
    cases read : parseHead head with
    | error problem => simp [bind, Except.bind]
    | ok parts =>
        obtain ⟨name, view⟩ := parts
        cases group
        by_cases none : trim name = []
        · simp [bind, Except.bind, none, throw, throwThe, MonadExceptOf.throw]
        · simp [bind, Except.bind, none, pure, Except.pure]
          grind
  unfold parseChars
  cases found : cut? '=' text with
  | none =>
      refine (finish _ _).trans ?_
      have without := notMem_of_cut?_eq_none found
      constructor
      · rintro ⟨name, read, nonempty, service, dependencies⟩
        exact ⟨text, name, without, read, nonempty, service, .inl ⟨rfl, dependencies⟩⟩
      · rintro ⟨head, name, -, read, nonempty, service, ⟨rfl, dependencies⟩ | ⟨told, rfl, -⟩⟩
        · exact ⟨name, read, nonempty, service, dependencies⟩
        · simp at without
  | some parts =>
      obtain ⟨front, back⟩ := parts
      obtain ⟨first, rfl⟩ := cut?_eq_some found
      refine (finish _ _).trans ?_
      constructor
      · rintro ⟨name, read, nonempty, service, dependencies⟩
        exact ⟨front, name, first, read, nonempty, service, .inr ⟨back, rfl, dependencies⟩⟩
      · rintro ⟨head, name, without, read, nonempty, service, ⟨rfl, -⟩ | ⟨told, same, dependencies⟩⟩
        · simp at without
        · rw [same, cut?_append without] at found
          obtain ⟨rfl, rfl⟩ := Prod.mk.inj (Option.some.inj found)
          exact ⟨name, read, nonempty, service, dependencies⟩

theorem legible_of_parse (parsed : parseChars text = .ok group) : group.Legible := by
  obtain ⟨head, name, undivided, read, nonempty, service, told⟩ := parseChars_eq_ok_iff.mp parsed
  obtain ⟨viewless, inHead⟩ := parseHead_eq_ok read
  have chars : group.service.toList = trim name := by rw [service, String.toList_ofList]
  constructor
  · rwa [chars]
  · rw [chars]
    exact trimmed_trim name
  · rw [chars]
    exact ⟨fun inside => undivided (inHead _ (mem_of_mem_trim inside)),
      fun inside => viewless (mem_of_mem_trim inside)⟩
  · intro names services
    rcases told with ⟨-, all⟩ | ⟨told, -, read⟩
    · rw [all] at services
      contradiction
    · exact nameable_of_parseDependencies (read.symm.trans services)

/-- The text of a group behind its service. -/
def renderView : View → List Char
  | .global => []
  | .local => ":local".toList

theorem toList_render (group : ConsumerGroup) : group.render.toList =
    group.service.toList ++ renderView group.view ++ '=' :: renderDependencies group.dependencies := by
  obtain ⟨service, view, dependencies⟩ := group
  cases view <;> cases dependencies <;>
    simp [render, renderView, renderDependencies, String.toList_intercalate]

theorem parseHead_render {name : List Char} (view : View) (viewless : ':' ∉ name) :
    parseHead (name ++ renderView view) = .ok (name, view) := by
  cases view with
  | global => rw [renderView, List.append_nil, parseHead, cut?_of_notMem viewless]
  | «local» =>
      have found : cut? ':' (name ++ renderView .local) = some (name, "local".toList) :=
        cut?_append viewless
      rw [parseHead, found]
      rfl

/-- A group whose parts can be told is read from its text, but for the star. -/
theorem Legible.parse_render (legible : group.Legible) : parse group.render =
    .ok (if group.dependencies = .loneStar then { group with dependencies := .all } else group) := by
  obtain ⟨named, trimmed, ⟨undivided, viewless⟩, nameable⟩ := legible
  rw [parse, toList_render, parseChars_eq_ok_iff]
  refine ⟨group.service.toList ++ renderView group.view, group.service.toList, ?_, ?_, ?_, ?_,
    .inr ⟨_, rfl, ?_⟩⟩
  · cases group.view <;> simp [renderView, undivided]
  · rw [parseHead_render _ viewless]
    split <;> rfl
  · rwa [trimmed.trim_eq]
  · rw [trimmed.trim_eq, String.ofList_toList]
    split <;> rfl
  · rw [parseDependencies_render nameable]
    split <;> rfl

/-- A group that has been read is read again from its own text exactly if the star is not its only
dependency. With the star alone its text is that of the group that depends on all services. -/
theorem parse_render_of_parse {text : String} {group : ConsumerGroup}
    (parsed : parse text = .ok group) :
    (parse group.render = .ok group ↔ group.dependencies ≠ .loneStar) ∧
    (group.dependencies = .loneStar →
      parse group.render = .ok { group with dependencies := .all }) := by
  rw [(legible_of_parse parsed).parse_render]
  constructor
  · split
    case isTrue lone =>
      have apart : { group with dependencies := Dependencies.all } ≠ group := by
        intro same
        have all : Dependencies.all = group.dependencies := congrArg dependencies same
        rw [lone] at all
        contradiction
      simp [lone, apart]
    case isFalse several => simp [several]
  · intro lone
    rw [if_pos lone]

/-- Signs in the names of dependencies do no harm where they are not alone. -/
theorem parse_render_of_parse_signs :
    let group : ConsumerGroup := ⟨"a b", .local, .services (SortedSet.ofList ["*", "c=:d"])⟩
    parse " a b :local= * ++c=:d" = .ok group ∧ group.dependencies ≠ .loneStar ∧
      parse group.render = .ok group := by
  intro group
  have parsed : parse " a b :local= * ++c=:d" = .ok group := by decide +kernel
  have several : group.dependencies ≠ .loneStar := by decide
  exact ⟨parsed, several, (parse_render_of_parse parsed).1.mpr several⟩

/-- The star as a name is read, but its text means all services. -/
theorem lone_star_reread :
    ∃ group, parse "x=*+" = .ok group ∧ group.render = "x=*" ∧ group.isWildcard = false ∧
      ∃ other, parse group.render = .ok other ∧ other ≠ group ∧ other.isWildcard = true :=
  ⟨⟨"x", .global, .loneStar⟩, by decide +kernel, by decide +kernel, by decide, ⟨"x", .global, .all⟩,
    by decide +kernel, by decide, by decide⟩

end ConsumerGroup

end ServiceMesh
