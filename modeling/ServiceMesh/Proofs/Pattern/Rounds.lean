import Mathlib.Data.Finset.Card
import Mathlib.Data.Finset.Range
import Mathlib.Data.Nat.Bitwise
import Mathlib.Logic.Function.Iterate
import Mathlib.Logic.Relation
import ServiceMesh.Pattern.Matcher

/-! Rounds over sets of places. One round leads from a set of places to all places that are related to one
of them; what is shown is where any number of rounds leads, where a limited number does, and that one
round or more need not be made more often than there are places. -/
namespace ServiceMesh.Pattern

variable {last s rounds started reached latest i j : Nat} {R S : Nat → Nat → Prop} {step : Nat → Nat}

/-! ### Relations -/

/-- So many steps of a relation. -/
def Rounds {α : Type} (R : α → α → Prop) : Nat → α → α → Prop
  | 0, a, b => a = b
  | rounds + 1, a, c => ∃ b, R a b ∧ Rounds R rounds b c

theorem rounds_add {α : Type} {R : α → α → Prop} (m n : Nat) (a c : α) :
    Rounds R (m + n) a c ↔ ∃ b, Rounds R m a b ∧ Rounds R n b c := by
  induction m generalizing a with
  | zero => simp [Rounds]
  | succ m ih =>
      rw [Nat.succ_add]
      simp only [Rounds, ih]
      grind

theorem transGen_iff_rounds {α : Type} {R : α → α → Prop} (a b : α) :
    Relation.TransGen R a b ↔ ∃ rounds, Rounds R (rounds + 1) a b := by
  constructor
  · intro path
    induction path using Relation.TransGen.head_induction_on with
    | single once => exact ⟨0, b, once, rfl⟩
    | head once _ ih =>
        obtain ⟨rounds, further⟩ := ih
        exact ⟨rounds + 1, _, once, further⟩
  · rintro ⟨rounds, path⟩
    induction rounds generalizing a with
    | zero =>
        obtain ⟨_, once, rfl⟩ := path
        exact .single once
    | succ rounds ih =>
        obtain ⟨m, once, further⟩ := path
        exact .head once (ih m further)

/-- At most so many steps of a relation. -/
def UpTo (R : Nat → Nat → Prop) (most i j : Nat) : Prop := ∃ rounds ≤ most, Rounds R rounds i j

theorem upTo_self (most i : Nat) : UpTo R most i i := ⟨0, Nat.zero_le most, rfl⟩

theorem upTo_succ_iff {most : Nat} : UpTo R (most + 1) i j ↔ i = j ∨ ∃ m, R i m ∧ UpTo R most m j := by
  constructor
  · rintro ⟨_ | rounds, limit, path⟩
    · exact .inl path
    · obtain ⟨m, once, further⟩ := path
      exact .inr ⟨m, once, rounds, Nat.le_of_succ_le_succ limit, further⟩
  · rintro (rfl | ⟨m, once, rounds, limit, further⟩)
    · exact upTo_self _ _
    · exact ⟨rounds + 1, Nat.succ_le_succ limit, m, once, further⟩

theorem UpTo.succ {most : Nat} (path : UpTo R most i j) : UpTo R (most + 1) i j := by
  obtain ⟨rounds, limit, path⟩ := path
  exact ⟨rounds, Nat.le_succ_of_le limit, path⟩

/-- Where nothing new is related, no number of steps leads to anything new. -/
theorem UpTo.closed {P : Nat → Prop} {most : Nat} (closed : ∀ i j, P i → R i j → P j)
    (path : UpTo R most i j) (start : P i) : P j := by
  obtain ⟨rounds, -, path⟩ := path
  induction rounds generalizing i with
  | zero => exact path ▸ start
  | succ rounds ih =>
      obtain ⟨m, once, further⟩ := path
      exact ih (closed i m start once) further

/-! ### Sets of places -/

/-- No place of the set is behind the last one. -/
def Within (last s : Nat) : Prop := ∀ i, s.testBit i = true → i ≤ last

theorem within_or (left : Within last reached) (right : Within last s) : Within last (reached ||| s) := by
  intro i member
  rw [Nat.testBit_or, Bool.or_eq_true] at member
  exact member.elim (left i) (right i)

theorem testBit_without (places others i : Nat) :
    (without places others).testBit i = (places.testBit i && !others.testBit i) := by
  rw [without, Nat.testBit_xor, Nat.testBit_or]
  cases places.testBit i <;> cases others.testBit i <;> rfl

/-- The function leads from a set of places to those that are related to one of them. -/
structure Leads (last : Nat) (R : Nat → Nat → Prop) (step : Nat → Nat) : Prop where
  testBit : ∀ {s}, Within last s → ∀ j,
    (step s).testBit j = true ↔ ∃ i, s.testBit i = true ∧ R i j
  inside : ∀ {i j}, i ≤ last → R i j → j ≤ last

namespace Leads

theorem within (leads : Leads last R step) (places : Within last s) : Within last (step s) := by
  intro j member
  obtain ⟨i, known, related⟩ := (leads.testBit places j).mp member
  exact leads.inside (places i known) related

theorem congr (leads : Leads last R step) (same : ∀ i ≤ last, ∀ j, R i j ↔ S i j) :
    Leads last S step where
  testBit places j := by
    rw [leads.testBit places]
    refine exists_congr fun i => and_congr_right fun member => same i (places i member) j
  inside bound related := leads.inside bound ((same _ bound _).mpr related)

theorem id (last : Nat) : Leads last Eq id where
  testBit _ j := by simp
  inside bound same := same ▸ bound

theorem seq {next : Nat → Nat} (first : Leads last R step) (second : Leads last S next) :
    Leads last (fun i j => ∃ m, R i m ∧ S m j) (next ∘ step) where
  testBit places j := by
    rw [Function.comp, second.testBit (first.within places)]
    simp only [first.testBit places]
    grind
  inside bound related := by
    obtain ⟨m, one, two⟩ := related
    exact second.inside (first.inside bound one) two

theorem alt {next : Nat → Nat} (first : Leads last R step) (second : Leads last S next) :
    Leads last (fun i j => R i j ∨ S i j) (fun s => step s ||| next s) where
  testBit places j := by
    rw [Nat.testBit_or, Bool.or_eq_true, first.testBit places, second.testBit places]
    grind
  inside bound related := related.elim (first.inside bound) (second.inside bound)

/-! ### Rounds -/

/-- Rounds that are left out change nothing. -/
theorem iterate_eq (step : Nat → Nat) (rounds s : Nat) : iterate step rounds s = step^[rounds] s := by
  induction rounds generalizing s with
  | zero => rfl
  | succ rounds ih =>
      rw [iterate, Function.iterate_succ_apply]
      split
      case isTrue fixed => rw [fixed, Function.iterate_fixed fixed]
      case isFalse => exact ih _

theorem iterate (leads : Leads last R step) (rounds : Nat) :
    Leads last (Rounds R rounds) (iterate step rounds) := by
  induction rounds with
  | zero => exact Leads.id last
  | succ rounds ih =>
      have both := leads.seq ih
      have same : Pattern.iterate step rounds ∘ step = Pattern.iterate step (rounds + 1) := by
        funext s
        rw [Function.comp, iterate_eq, iterate_eq, Function.iterate_succ_apply]
      rwa [same] at both

end Leads

/-! ### Rounds from new places only -/

theorem without_or (s places : Nat) : without (s ||| places) s = without places s := by
  refine Nat.eq_of_testBit_eq fun i => ?_
  rw [testBit_without, testBit_without, Nat.testBit_or]
  cases s.testBit i <;> simp

theorem or_without (s places : Nat) : s ||| without places s = s ||| places := by
  refine Nat.eq_of_testBit_eq fun i => ?_
  rw [Nat.testBit_or, Nat.testBit_or, testBit_without]
  cases s.testBit i <;> simp

theorem testBit_new : (without (reached ||| step latest) started).testBit j = true ↔
    (reached ||| step latest).testBit j = true ∧ started.testBit j = false := by
  rw [testBit_without, Bool.and_eq_true, Bool.not_eq_true']

/-- The number of places that are not in the set. -/
def missing (last s : Nat) : Nat := ((Finset.range (last + 1)).filter (s.testBit · = false)).card

theorem missing_lt (bound : i ≤ last) (new : s.testBit i = false) (more : reached.testBit i = true)
    (kept : ∀ j, s.testBit j = true → reached.testBit j = true) :
    missing last reached < missing last s := by
  refine Finset.card_lt_card (Finset.ssubset_iff_of_subset ?_ |>.mpr ⟨i, ?_, ?_⟩)
  · intro j member
    rw [Finset.mem_filter] at member ⊢
    refine ⟨member.1, eq_false_of_ne_true fun known => ?_⟩
    simp [kept j known] at member
  · simp [new, Nat.lt_succ_of_le bound]
  · simp [more]

/-- Invariant of rounds that start from new places only: a place that rounds have started from is among the
latest, or has had its round. -/
structure Frontier (last : Nat) (R : Nat → Nat → Prop) (started reached latest : Nat) : Prop where
  within : Within last started
  newest : ∀ i, latest.testBit i = true → started.testBit i = true
  sooner : ∀ i, reached.testBit i = true → started.testBit i = true
  done : ∀ i, started.testBit i = true → latest.testBit i = false →
    ∀ j, R i j → reached.testBit j = true

/-- Before the first round all places are the latest. -/
theorem Frontier.start (places : Within last s)
    (sooner : ∀ i, reached.testBit i = true → s.testBit i = true) : Frontier last R s reached s where
  within := places
  newest _ known := known
  sooner := sooner
  done i begun old := by
    rw [begun] at old
    contradiction

namespace Leads

theorem testBit_reach (leads : Leads last R step) (front : Frontier last R started reached latest) :
    (reached ||| step latest).testBit j = true ↔
      reached.testBit j = true ∨ ∃ i, latest.testBit i = true ∧ R i j := by
  have own : Within last latest := fun i member => front.within i (front.newest i member)
  rw [Nat.testBit_or, Bool.or_eq_true, leads.testBit own]

/-- After a round all is reached that is related to where rounds have started from. -/
theorem reach_of_started (leads : Leads last R step) (front : Frontier last R started reached latest)
    (begun : started.testBit i = true) (related : R i j) :
    (reached ||| step latest).testBit j = true := by
  rw [leads.testBit_reach front]
  cases fresh : latest.testBit i with
  | true => exact .inr ⟨i, fresh, related⟩
  | false => exact .inl (front.done i begun fresh j related)

theorem exists_of_new (leads : Leads last R step) (front : Frontier last R started reached latest)
    (new : (without (reached ||| step latest) started).testBit j = true) :
    ∃ i, latest.testBit i = true ∧ R i j := by
  obtain ⟨there, unstarted⟩ := testBit_new.mp new
  rcases (leads.testBit_reach front).mp there with old | recent
  · exact absurd (front.sooner j old) (by simp [unstarted])
  · exact recent

theorem next_frontier (leads : Leads last R step) (front : Frontier last R started reached latest) :
    Frontier last R (started ||| without (reached ||| step latest) started) (reached ||| step latest)
      (without (reached ||| step latest) started) where
  within := by
    refine within_or front.within fun j new => ?_
    obtain ⟨i, recent, related⟩ := leads.exists_of_new front new
    exact leads.inside (front.within i (front.newest i recent)) related
  newest i new := by rw [Nat.testBit_or, new, Bool.or_true]
  sooner i there := by
    rw [Nat.testBit_or, Bool.or_eq_true, testBit_new]
    cases begun : started.testBit i with
    | true => exact .inl rfl
    | false => exact .inr ⟨there, rfl⟩
  done i begun old j related := by
    rw [Nat.testBit_or, old, Bool.or_false] at begun
    exact leads.reach_of_started front begun related

theorem missing_next (leads : Leads last R step) (front : Frontier last R started reached latest)
    (more : without (reached ||| step latest) started ≠ 0) :
    missing last (started ||| without (reached ||| step latest) started) < missing last started := by
  obtain ⟨i, new⟩ := Nat.exists_testBit_of_ne_zero more
  have after := leads.next_frontier front
  have begun := after.newest i new
  refine missing_lt (after.within i begun) (testBit_new.mp new).2 begun fun j known => ?_
  rw [Nat.testBit_or, known, Bool.true_or]

/-- A path from the latest places ends at a place that is reached now, or goes on from a new one. -/
theorem reach_or_path (leads : Leads last R step) (front : Frontier last R started reached latest)
    (fresh : latest.testBit i = true) (path : Relation.TransGen R i j) :
    (reached ||| step latest).testBit j = true ∨
      ∃ m, (without (reached ||| step latest) started).testBit m = true ∧ Relation.TransGen R m j := by
  induction path with
  | single related => exact .inl (leads.reach_of_started front (front.newest i fresh) related)
  | @tail m j _ related ih =>
      rcases ih with there | ⟨n, new, path⟩
      · cases begun : started.testBit m with
        | true => exact .inl (leads.reach_of_started front begun related)
        | false => exact .inr ⟨m, testBit_new.mpr ⟨there, begun⟩, .single related⟩
      · exact .inr ⟨n, new, path.tail related⟩

theorem testBit_spread (leads : Leads last R step) (front : Frontier last R reached reached latest)
    (j : Nat) : (spread step rounds reached latest).testBit j = true ↔
      ∃ i, reached.testBit i = true ∧ UpTo R rounds i j := by
  induction rounds generalizing reached latest with
  | zero =>
      simp only [spread, UpTo, Nat.le_zero_eq, exists_eq_left, Rounds]
      simp
  | succ rounds ih =>
      have after := leads.next_frontier front
      rw [without_or, or_without] at after
      simp only [spread, or_without]
      split
      case isTrue none =>
        have closed (i m : Nat) (known : reached.testBit i = true) (related : R i m) :
            reached.testBit m = true := by
          have there := leads.reach_of_started front known related
          rwa [← or_without, none, Nat.or_zero] at there
        constructor
        · intro known
          exact ⟨j, known, upTo_self _ _⟩
        · rintro ⟨i, known, path⟩
          exact path.closed closed known
      case isFalse =>
        rw [ih after]
        simp only [leads.testBit_reach front, upTo_succ_iff]
        constructor
        · rintro ⟨i, known | ⟨l, recent, related⟩, path⟩
          · exact ⟨i, known, upTo_succ_iff.mp path.succ⟩
          · exact ⟨l, front.newest l recent, .inr ⟨i, related, path⟩⟩
        · rintro ⟨i, known, rfl | ⟨m, related, path⟩⟩
          · exact ⟨i, .inl known, upTo_self _ _⟩
          · have there := leads.reach_of_started front known related
            exact ⟨m, (leads.testBit_reach front).mp there, path⟩

theorem spread (leads : Leads last R step) (rounds : Nat) :
    Leads last (UpTo R rounds) (fun s => spread step rounds s s) where
  testBit places := leads.testBit_spread (.start places fun _ known => known)
  inside bound path := path.closed (P := (· ≤ last)) (fun _ _ => leads.inside) bound

/-- Each further round starts from a place that is new, so there are enough of them. -/
theorem testBit_advance (leads : Leads last R step) (front : Frontier last R started reached latest)
    (enough : missing last started < rounds) (j : Nat) :
    (advance step rounds started reached latest).testBit j = true ↔
      reached.testBit j = true ∨ ∃ i, latest.testBit i = true ∧ Relation.TransGen R i j := by
  induction rounds generalizing started reached latest with
  | zero => contradiction
  | succ rounds ih =>
      simp only [advance]
      split
      case isTrue none =>
        rw [leads.testBit_reach front]
        constructor
        · rintro (old | ⟨i, fresh, related⟩)
          · exact .inl old
          · exact .inr ⟨i, fresh, .single related⟩
        · rintro (old | ⟨i, fresh, path⟩)
          · exact .inl old
          · rcases leads.reach_or_path front fresh path with there | ⟨m, new, -⟩
            · exact (leads.testBit_reach front).mp there
            · rw [none, Nat.zero_testBit] at new
              contradiction
      case isFalse more =>
        have fewer := leads.missing_next front more
        rw [ih (leads.next_frontier front) (by omega), leads.testBit_reach front]
        constructor
        · rintro ((old | ⟨i, fresh, related⟩) | ⟨m, new, path⟩)
          · exact .inl old
          · exact .inr ⟨i, fresh, .single related⟩
          · obtain ⟨i, recent, related⟩ := leads.exists_of_new front new
            exact .inr ⟨i, recent, .head related path⟩
        · rintro (old | ⟨i, fresh, path⟩)
          · exact .inl (.inl old)
          · exact (leads.reach_or_path front fresh path).imp_left (leads.testBit_reach front).mp

/-- One round or more, from a set of places, need not be made more often than there are places. -/
theorem advance (leads : Leads last R step) :
    Leads last (Relation.TransGen R) (fun s => advance step (last + 1) s 0 s) where
  testBit {s} places j := by
    by_cases none : s = 0
    · subst none
      have nowhere : step 0 = 0 := by
        refine Nat.zero_of_testBit_eq_false fun m => eq_false_of_ne_true fun there => ?_
        obtain ⟨i, known, -⟩ := (leads.testBit places m).mp there
        simp at known
      simp [Pattern.advance, nowhere, without]
    · obtain ⟨m, known⟩ := Nat.exists_testBit_of_ne_zero none
      have enough : missing last s < last + 1 := by
        have fewer : missing last s < missing last 0 :=
          missing_lt (places m known) (Nat.zero_testBit m) known (by simp)
        have all : missing last 0 ≤ last + 1 :=
          (Finset.card_filter_le _ _).trans_eq (Finset.card_range (last + 1))
        omega
      rw [leads.testBit_advance (.start places (by simp)) enough]
      simp
  inside bound path := by
    induction path with
    | single related => exact leads.inside bound related
    | tail _ related ih => exact leads.inside ih related

end Leads

end ServiceMesh.Pattern
