import ServiceMesh.Proofs.Registry.PathSegment
import ServiceMesh.Proofs.Text.Pieces

/-! Targets that hold neither a query nor a fragment: a path is its own path, and an address has the path
that follows its authority. -/
namespace ServiceMesh.Admin

open ServiceMesh.Consul (address isSegmentChar)

variable {target path authority : String} {text : List Char}

/-- Holds for characters that may stand in a path and do not end it. -/
def staysInPath (c : Char) : Bool := isPathChar c && c != '?' && c != '#'

theorem staysInPath_of_isSegmentChar {c : Char} (segment : isSegmentChar c = true) :
    staysInPath c = true := by
  rw [isSegmentChar, Bool.and_eq_true, Bool.and_eq_true] at segment
  obtain ⟨⟨-, path⟩, others⟩ := segment
  rw [staysInPath, path, Bool.true_and, Bool.and_eq_true, bne_iff_ne, bne_iff_ne]
  constructor
  · rintro rfl
    contradiction
  · rintro rfl
    contradiction

theorem path?_eq_self (filled : text ≠ []) (stays : text.all staysInPath = true) :
    path? text = some text := by
  have each (c : Char) (member : c ∈ text) :
      isPathChar c = true ∧ (c != '?' && c != '#') = true := by
    have both := List.all_eq_true.mp stays c member
    rwa [staysInPath, Bool.and_assoc, Bool.and_eq_true] at both
  have inPath : text.all isPathChar = true :=
    List.all_eq_true.mpr fun c member => (each c member).1
  have goesOn : ∀ c ∈ text, (c != '?' && c != '#') = true := fun c member => (each c member).2
  have whole := List.takeWhile_eq_self_iff.mpr goesOn
  have nothing := List.dropWhile_eq_nil_iff.mpr goesOn
  unfold path?
  simp only [whole, nothing, inPath, List.isEmpty_eq_false_iff.mpr filled]
  rfl

/-- A path is its own target, unless it is too long. -/
theorem targetPath?_eq (absolute : target.toList.head? = some '/')
    (stays : target.toList.all staysInPath = true) :
    targetPath? target = if 65534 < target.utf8ByteSize then none else some target := by
  obtain ⟨more, shape⟩ := List.head?_eq_some_iff.mp absolute
  have path : path? target.toList = some target.toList :=
    path?_eq_self (by simp [shape]) stays
  unfold targetPath?
  split
  · rfl
  · calc
      _ = (path? target.toList).map String.ofList := by
        rw [shape]
        rfl
      _ = some target := by rw [path, Option.map_some, String.ofList_toList]

/-! ### Addresses -/

theorem AuthorityScan.inside_of_read {scan later : AuthorityScan} {c : Char}
    (read : scan.read c = some later) : endsAuthority c = false := by
  cases ends : endsAuthority c with
  | false => rfl
  | true =>
      simp only [endsAuthority, Bool.or_eq_true, beq_iff_eq] at ends
      obtain (rfl | rfl) | rfl := ends <;> contradiction

theorem AuthorityScan.inside_of_scan {scan later : AuthorityScan}
    (scanned : text.foldlM AuthorityScan.read scan = some later) :
    ∀ c ∈ text, endsAuthority c = false := by
  induction text generalizing scan with
  | nil => exact fun _ member => absurd member List.not_mem_nil
  | cons c rest ih =>
      rw [List.foldlM_cons] at scanned
      obtain ⟨next, first, others⟩ := Option.bind_eq_some_iff.mp scanned
      exact List.forall_mem_cons.mpr ⟨inside_of_read first, ih others⟩

/-- No character of an authority ends it. -/
theorem inside_of_isAuthority (valid : isAuthority text = true) :
    ∀ c ∈ text, endsAuthority c = false := by
  unfold isAuthority at valid
  split at valid
  case h_1 => contradiction
  case h_2 scan scanned => exact AuthorityScan.inside_of_scan scanned

/-- An address has the path that follows its authority, unless it is too long. -/
theorem targetPath?_address (valid : isAuthority authority.toList = true) (named : authority ≠ "")
    (absolute : path.toList.head? = some '/') (stays : path.toList.all staysInPath = true) :
    targetPath? (address authority path) =
      if 65534 < (address authority path).utf8ByteSize then none else some path := by
  have text : (address authority path).toList =
      "http://".toList ++ (authority.toList ++ path.toList) := by
    rw [address, String.toList_append, String.toList_append, List.append_assoc]
  obtain ⟨more, shape⟩ := List.head?_eq_some_iff.mp absolute
  have behind : afterScheme? (address authority path).toList =
      some (authority.toList ++ path.toList) := by
    rw [text]
    rfl
  have inside : ∀ c ∈ authority.toList, (!endsAuthority c) = true := by
    intro c member
    rw [inside_of_isAuthority valid c member, Bool.not_false]
  have stops : ∀ c ∈ path.toList.head?, (!endsAuthority c) = false := by
    rw [absolute]
    rintro c ⟨rfl⟩
    rfl
  obtain ⟨front, back⟩ := Text.takeWhile_run inside stops
  have filled : authority.toList.isEmpty = false := by
    rwa [List.isEmpty_eq_false_iff, ne_eq, String.toList_eq_nil_iff]
  unfold targetPath?
  split
  · rfl
  · calc
      _ = (path? path.toList).map String.ofList := by
        rw [text] at behind ⊢
        simp only [behind, front, back, filled, valid]
        rfl
      _ = some path := by
        rw [path?_eq_self (by simp [shape]) stays, Option.map_some, String.ofList_toList]

end ServiceMesh.Admin
