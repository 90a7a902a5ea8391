import ServiceMesh.Proofs.Json.Literals

/-! Documents that are read as they are written: those of texts, truth values and whole numbers, in
arrays and objects. Each call of the reader uses up at least one character of what it reads, so that
the length of the text is fuel enough. -/
namespace ServiceMesh.Json

/-- Documents of characters, truth values and whole numbers that 64 bits hold. -/
inductive Exact : Json → Prop
  | null : Exact .null
  | bool (value : Bool) : Exact (.bool value)
  | number {n : Nat} : n < UInt64.size → Exact (.ofNat n)
  | text (chars : List Char) : Exact (.text (chars.map some))
  | array {items : List Json} : (∀ item ∈ items, Exact item) → Exact (.array items)
  | object {members : List (List Symbol × Json)} :
      (∀ member ∈ members, ∃ chars : List Char, member.1 = chars.map some) →
      (∀ member ∈ members, Exact member.2) → Exact (.object members)

theorem Exact.ofString (s : String) : Exact (.ofString s) := .text s.toList

theorem Exact.record (members : List (String × Json))
    (exact : ∀ member ∈ members, Exact member.2) : Exact (.record members) :=
  .object (List.forall_mem_map.mpr fun member _ => ⟨member.1.toList, rfl⟩)
    (List.forall_mem_map.mpr exact)

theorem skipSpace_cons {c : Char} (visible : isSpace c = false) (rest : List Symbol) :
    skipSpace (some c :: rest) = some c :: rest := by
  rw [skipSpace, if_neg (by simp [visible])]

theorem ne_of_isDigit {c d : Char} (digit : c.isDigit = true) (other : d.isDigit = false) :
    c ≠ d := by
  rintro rfl
  rw [digit] at other
  contradiction

/-- The text of a document begins with something visible that ends nothing. -/
theorem Exact.exists_cons {json : Json} (exact : Exact json) :
    ∃ c more, json.write = c :: more ∧ isSpace c = false ∧ c ≠ ']' := by
  cases exact with
  | null => exact ⟨_, _, rfl, by decide⟩
  | bool value => cases value <;> exact ⟨_, _, rfl, by decide⟩
  | @number n fits =>
      obtain ⟨c, more, split, isDigit⟩ := exists_digit n
      refine ⟨c, more, by rw [← split, ofNat, write, writeNumber_ofNat], ?_,
        ne_of_isDigit isDigit rfl⟩
      simp [isSpace, ne_of_isDigit isDigit]
  | text chars => exact ⟨_, _, by rw [write]; rfl, by decide⟩
  | array => exact ⟨_, _, by rw [write]; rfl, by decide⟩
  | object => exact ⟨_, _, by rw [write]; rfl, by decide⟩

/-! ### Single values -/

/-- A document is read as it is written, whatever stands behind it. -/
def Reads (json : Json) : Prop :=
  ∀ {fuel : Nat} {rest : List Symbol}, json.write.length ≤ fuel + 1 → Ends rest →
    readValue (fuel + 1) (json.write.map some ++ rest) = some (json, rest)

theorem reads_null : Reads .null := fun _ _ => rfl

theorem reads_bool (value : Bool) : Reads (.bool value) := fun _ _ => by
  cases value <;> rfl

theorem reads_number {n : Nat} (fits : n < UInt64.size) : Reads (.ofNat n) := by
  intro fuel rest _ ends
  have number := readNumber_toDigits fits ends
  rw [ofNat, write, writeNumber_ofNat]
  obtain ⟨c, more, split, isDigit⟩ := exists_digit n
  rw [split, List.map_cons, List.cons_append] at number ⊢
  unfold readValue
  split
  case h_7 => exact number
  all_goals
    rename_i first
    cases first
    contradiction

theorem reads_text (chars : List Char) : Reads (.text (chars.map some)) := by
  intro fuel rest enough _
  rw [write, writeContent_map] at enough ⊢
  simp only [List.cons_append, List.length_cons, List.length_append] at enough
  simp only [List.cons_append, List.map_cons, List.map_append, List.append_assoc, List.map_nil,
    List.nil_append, readValue]
  rw [readContent_escaped chars (by omega)]
  rfl

theorem Exact.skipSpace {json : Json} (exact : Exact json) (rest : List Symbol) :
    skipSpace (json.write.map some ++ rest) = json.write.map some ++ rest := by
  obtain ⟨c, more, split, visible, -⟩ := exact.exists_cons
  rw [split]
  exact skipSpace_cons visible _

/-! ### Items and members -/

theorem writeItems_cons (item next : Json) (more : List Json) :
    writeItems (item :: next :: more) = item.write ++ ',' :: writeItems (next :: more) := by
  simp [writeItems]

/-- Where there is fuel for a document there is some. -/
theorem exists_fuel {json : Json} (exact : Exact json) {fuel : Nat}
    (enough : json.write.length ≤ fuel) : ∃ less, fuel = less + 1 := by
  obtain ⟨c, more, split, -⟩ := exact.exists_cons
  rw [split, List.length_cons] at enough
  exact Nat.exists_eq_add_of_le' (Nat.le_trans (Nat.le_add_left 1 _) enough)

theorem exists_cons_writeItems {item : Json} (exact : Exact item) (more : List Json) :
    ∃ c behind, writeItems (item :: more) = c :: behind ∧ isSpace c = false ∧ c ≠ ']' := by
  obtain ⟨c, behind, split, known⟩ := exact.exists_cons
  cases more with
  | nil => exact ⟨c, behind, by rw [writeItems, split], known⟩
  | cons next more => exact ⟨c, _, by rw [writeItems_cons, split, List.cons_append], known⟩

theorem skipSpace_writeItems {item : Json} (exact : Exact item) (more : List Json)
    (rest : List Symbol) : skipSpace ((writeItems (item :: more)).map some ++ rest) =
      (writeItems (item :: more)).map some ++ rest := by
  obtain ⟨c, behind, split, visible, -⟩ := exists_cons_writeItems exact more
  rw [split]
  exact skipSpace_cons visible _

/-- Items are read up to the closing bracket. -/
theorem readItems_writeItems {item : Json} {more : List Json}
    (exact : ∀ other ∈ item :: more, Exact other) (reads : ∀ other ∈ item :: more, Reads other)
    {fuel : Nat} (enough : (writeItems (item :: more)).length ≤ fuel) (rest : List Symbol) :
    readItems (fuel + 1) ((writeItems (item :: more)).map some ++ some ']' :: rest) =
      some (item :: more, rest) := by
  induction more generalizing item fuel with
  | nil =>
      have itemExact := exact item List.mem_cons_self
      rw [writeItems] at enough ⊢
      obtain ⟨fuel, rfl⟩ := exists_fuel itemExact enough
      rw [readItems, reads item List.mem_cons_self enough (.bracket rest)]
      rfl
  | cons next more ih =>
      obtain ⟨itemExact, moreExact⟩ := List.forall_mem_cons.mp exact
      obtain ⟨itemReads, moreReads⟩ := List.forall_mem_cons.mp reads
      rw [writeItems_cons] at enough ⊢
      rw [List.length_append, List.length_cons] at enough
      obtain ⟨fuel, rfl⟩ := exists_fuel itemExact (Nat.le_trans (Nat.le_add_right _ _) enough)
      have later : readItems (fuel + 1) _ = _ := ih moreExact moreReads (by omega)
      rw [List.map_append, List.append_assoc, readItems, List.map_cons, List.cons_append,
        itemReads (by omega) (.comma _)]
      have comma := skipSpace_cons (c := ',') rfl
        ((writeItems (next :: more)).map some ++ some ']' :: rest)
      simp only [Option.bind_eq_bind, Option.bind_some, comma,
        skipSpace_writeItems (moreExact next List.mem_cons_self), later]
      rfl

theorem writeMembers_cons (key : List Symbol) (value : Json) (next : List Symbol × Json)
    (more : List (List Symbol × Json)) :
    writeMembers ((key, value) :: next :: more) =
      writeContent key ++ ':' :: value.write ++ ',' :: writeMembers (next :: more) := by
  simp [writeMembers]

theorem exists_cons_writeMembers (member : List Symbol × Json)
    (more : List (List Symbol × Json)) :
    ∃ behind, writeMembers (member :: more) = '"' :: behind := by
  obtain ⟨key, value⟩ := member
  cases more with
  | nil => exact ⟨_, by rw [writeMembers]; rfl⟩
  | cons next more => exact ⟨_, by rw [writeMembers_cons]; rfl⟩

theorem skipSpace_writeMembers (member : List Symbol × Json) (more : List (List Symbol × Json))
    (rest : List Symbol) : skipSpace ((writeMembers (member :: more)).map some ++ rest) =
      (writeMembers (member :: more)).map some ++ rest := by
  obtain ⟨behind, split⟩ := exists_cons_writeMembers member more
  rw [split]
  rfl

/-- A key and its value are read together. -/
theorem readMember {chars : List Char} {value : Json} (exact : Exact value) (reads : Reads value)
    {fuel : Nat} {behind : List Symbol}
    (enough : (writeContent (chars.map some) ++ ':' :: value.write).length ≤ fuel)
    (ends : Ends behind) :
    readMembers (fuel + 1)
        ((writeContent (chars.map some) ++ ':' :: value.write).map some ++ behind) =
      match skipSpace behind with
      | some '\x7d' :: rest => some ([(chars.map some, value)], rest)
      | some ',' :: rest => do
          let (members, rest) ← readMembers fuel (skipSpace rest)
          return ((chars.map some, value) :: members, rest)
      | _ => none := by
  simp only [List.length_append, List.length_cons] at enough
  obtain ⟨fuel, rfl⟩ := exists_fuel exact (show value.write.length ≤ fuel by omega)
  rw [writeContent_map] at enough ⊢
  simp only [List.length_append, List.length_cons] at enough
  simp only [List.map_append, List.map_cons, List.cons_append, List.append_assoc,
    List.nil_append, readMembers]
  rw [readContent_escaped chars (by omega)]
  have colon := skipSpace_cons (c := ':') rfl (value.write.map some ++ behind)
  simp only [Option.bind_eq_bind, Option.bind_some, colon, exact.skipSpace]
  rw [reads (by omega) ends]
  rfl

/-- Members are read up to the closing brace. -/
theorem readMembers_writeMembers {member : List Symbol × Json} {more : List (List Symbol × Json)}
    (keys : ∀ other ∈ member :: more, ∃ chars : List Char, other.1 = chars.map some)
    (exact : ∀ other ∈ member :: more, Exact other.2)
    (reads : ∀ other ∈ member :: more, Reads other.2)
    {fuel : Nat} (enough : (writeMembers (member :: more)).length ≤ fuel) (rest : List Symbol) :
    readMembers (fuel + 1) ((writeMembers (member :: more)).map some ++ some '\x7d' :: rest) =
      some (member :: more, rest) := by
  induction more generalizing member fuel with
  | nil =>
      obtain ⟨key, value⟩ := member
      obtain ⟨chars, rfl⟩ := keys _ List.mem_cons_self
      rw [writeMembers] at enough ⊢
      rw [readMember (exact _ List.mem_cons_self) (reads _ List.mem_cons_self) enough (.brace rest)]
      rfl
  | cons next more ih =>
      obtain ⟨key, value⟩ := member
      obtain ⟨⟨chars, rfl⟩, moreKeys⟩ := List.forall_mem_cons.mp keys
      obtain ⟨valueExact, moreExact⟩ := List.forall_mem_cons.mp exact
      obtain ⟨valueReads, moreReads⟩ := List.forall_mem_cons.mp reads
      rw [writeMembers_cons] at enough ⊢
      simp only [List.length_append, List.length_cons] at enough
      obtain ⟨fuel, rfl⟩ := exists_fuel valueExact (show value.write.length ≤ fuel by omega)
      have later : readMembers (fuel + 1) _ = _ := ih moreKeys moreExact moreReads (by omega)
      have comma := skipSpace_cons (c := ',') rfl
        ((writeMembers (next :: more)).map some ++ some '\x7d' :: rest)
      rw [List.map_append, List.append_assoc, List.map_cons, List.cons_append,
        readMember valueExact valueReads (by simp; omega) (.comma _), comma]
      simp only [skipSpace_writeMembers, later]
      rfl

/-! ### Documents -/

theorem reads_array {items : List Json} (exact : ∀ item ∈ items, Exact item)
    (reads : ∀ item ∈ items, Reads item) : Reads (.array items) := by
  intro fuel rest enough _
  cases items with
  | nil => rfl
  | cons item more =>
      have itemExact := exact item List.mem_cons_self
      rw [write] at enough ⊢
      simp only [List.cons_append, List.length_cons, List.length_append] at enough
      obtain ⟨fuel, rfl⟩ : ∃ less, fuel = less + 1 := ⟨fuel - 1, by omega⟩
      have inside : readItems (fuel + 1) _ = _ := readItems_writeItems exact reads (by omega) rest
      simp only [List.cons_append, List.map_cons, List.map_append, List.append_assoc, List.map_nil,
        List.nil_append, readValue, skipSpace_writeItems itemExact]
      split
      case h_1 closed =>
        obtain ⟨c, behind, split, -, apart⟩ := exists_cons_writeItems itemExact more
        rw [split] at closed
        exact absurd (Option.some.inj (List.cons.inj closed).1) apart
      case h_2 =>
        rw [inside]
        rfl

theorem reads_object {members : List (List Symbol × Json)}
    (keys : ∀ member ∈ members, ∃ chars : List Char, member.1 = chars.map some)
    (exact : ∀ member ∈ members, Exact member.2) (reads : ∀ member ∈ members, Reads member.2) :
    Reads (.object members) := by
  intro fuel rest enough _
  cases members with
  | nil => rfl
  | cons member more =>
      rw [write] at enough ⊢
      simp only [List.cons_append, List.length_cons, List.length_append] at enough
      obtain ⟨fuel, rfl⟩ : ∃ less, fuel = less + 1 := ⟨fuel - 1, by omega⟩
      have inside : readMembers (fuel + 1) _ = _ :=
        readMembers_writeMembers keys exact reads (by omega) rest
      simp only [List.cons_append, List.map_cons, List.map_append, List.append_assoc, List.map_nil,
        List.nil_append, readValue, skipSpace_writeMembers]
      split
      case h_1 closed =>
        obtain ⟨behind, split⟩ := exists_cons_writeMembers member more
        rw [split] at closed
        exact absurd (Option.some.inj (List.cons.inj closed).1) (by decide)
      case h_2 =>
        rw [inside]
        rfl

theorem Exact.reads {json : Json} (exact : Exact json) : Reads json := by
  induction exact with
  | null => exact reads_null
  | bool value => exact reads_bool value
  | number fits => exact reads_number fits
  | text chars => exact reads_text chars
  | array exact reads => exact reads_array exact reads
  | object keys exact reads => exact reads_object keys exact reads

/-- A document is read as it is written. -/
theorem Exact.read_write {json : Json} (exact : Exact json) :
    read (json.write.map some) = some json := by
  have spaceless := exact.skipSpace []
  have whole : readValue ((json.write.map some).length + 1) (json.write.map some ++ []) =
      some (json, []) := exact.reads (by simp) .nothing
  rw [List.append_nil] at spaceless whole
  rw [read, spaceless, whole]
  rfl

end ServiceMesh.Json
