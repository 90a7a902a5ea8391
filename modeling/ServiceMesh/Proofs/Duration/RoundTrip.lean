import Mathlib.Tactic.FieldSimp
import ServiceMesh.Duration.Printer
import ServiceMesh.Proofs.Duration.Grammar
import ServiceMesh.Proofs.Number.Rounding

/-! When a duration comes back from its own text. The text is one number with a unit and tells the duration
exactly, but it is read as a float, and beyond 2^23 seconds there are fewer floats than nanoseconds. -/
namespace ServiceMesh.Duration

open ServiceMesh.Number ServiceMesh.Text

variable {d : Duration} {count places rest : Nat} {unit : String} {seconds x : Rat}

/-! ### Decimal texts -/

theorem ofDigits_append (front back : List Char) :
    ofDigits (front ++ back) = 10 ^ back.length * ofDigits front + ofDigits back :=
  (Nat.ofDigitChars_append 0).trans Nat.ofDigitChars_eq_ofDigitChars_zero

theorem ofDigits_zeros (digits : List Char) (zeros : Nat) :
    ofDigits (digits ++ List.replicate zeros '0') = 10 ^ zeros * ofDigits digits :=
  (Nat.ofDigitChars_append 0).trans Nat.ofDigitChars_replicate_zero

/-- The zeros at the end of digits, and what stands in front of them. -/
theorem trailing_zeros (digits : List Char) :
    ∃ zeros, digits = (digits.reverse.dropWhile (· == '0')).reverse ++ List.replicate zeros '0' := by
  have split := List.takeWhile_append_dropWhile (p := (· == '0')) (l := digits.reverse)
  have zeros : digits.reverse.takeWhile (· == '0') =
      List.replicate (digits.reverse.takeWhile (· == '0')).length '0' := by
    apply List.eq_replicate_iff.mpr
    refine ⟨rfl, ?_⟩
    intro c member
    exact beq_iff_eq.mp (List.mem_takeWhile_imp (p := (· == '0')) member)
  refine ⟨(digits.reverse.takeWhile (· == '0')).length, ?_⟩
  apply List.reverse_injective
  rw [List.reverse_append, List.reverse_reverse, List.reverse_replicate, ← zeros, split]

/-- Decimal places tell the number that stands behind the point. -/
theorem fractionDigits_spec (positive : 0 < places) (small : rest < 10 ^ places) :
    (∀ c ∈ fractionDigits rest places, c.isDigit = true) ∧
    ∃ zeros, (fractionDigits rest places).length + zeros = places ∧
      10 ^ zeros * ofDigits (fractionDigits rest places) = rest := by
  have short : (Nat.toDigits 10 rest).length ≤ places :=
    (Nat.length_toDigits_le_iff (by decide) positive).mpr small
  set padded := List.replicate (places - (Nat.toDigits 10 rest).length) '0' ++ Nat.toDigits 10 rest with told
  have length : padded.length = places := by
    rw [told, List.length_append, List.length_replicate]
    omega
  have value : ofDigits padded = rest := by
    have none := ofDigits_zeros [] (places - (Nat.toDigits 10 rest).length)
    rw [List.nil_append] at none
    have own : ofDigits (Nat.toDigits 10 rest) = rest := Nat.ofDigitChars_ten_toDigits
    rw [told, ofDigits_append, none, own]
    simp [ofDigits]
  have digits : ∀ c ∈ padded, c.isDigit = true := by
    intro c member
    rcases List.mem_append.mp member with zero | digit
    · rw [List.eq_of_mem_replicate zero]
      rfl
    · exact Nat.isDigit_of_mem_toDigits (by decide) (by decide) digit
  obtain ⟨zeros, split⟩ := trailing_zeros padded
  have own : fractionDigits rest places = (padded.reverse.dropWhile (· == '0')).reverse := rfl
  rw [← own] at split
  refine ⟨?_, zeros, ?_, ?_⟩
  · intro c member
    apply digits
    rw [split]
    exact List.mem_append_left _ member
  · have sum := congrArg List.length split
    rw [length, List.length_append, List.length_replicate] at sum
    exact sum.symm
  · rw [← ofDigits_zeros, ← split, value]

/-- Positional notation is a literal, and its value is exact. -/
theorem positional_spec (count places : Nat) : ∃ whole fraction,
    Decimal.Unsigned whole fraction (positional count places).toList ∧
      Decimal.magnitude ⟨false, whole, fraction⟩ = (count : Rat) / 10 ^ places := by
  set whole := Nat.toDigits 10 (count / 10 ^ places)
  set fraction := fractionDigits (count % 10 ^ places) places with told
  obtain ⟨digits, zeros, length, value⟩ : (∀ c ∈ fraction, c.isDigit = true) ∧ ∃ zeros,
      fraction.length + zeros = places ∧ 10 ^ zeros * ofDigits fraction = count % 10 ^ places := by
    rcases Nat.eq_zero_or_pos places with rfl | positive
    · have none : fraction = [] := by
        rw [told, Nat.pow_zero, Nat.mod_one]
        rfl
      rw [none, Nat.pow_zero, Nat.mod_one]
      exact ⟨fun _ member => absurd member List.not_mem_nil, 0, rfl, rfl⟩
    · exact fractionDigits_spec positive (Nat.mod_lt _ (Nat.pow_pos (by decide)))
  refine ⟨whole, fraction, ⟨?_, ?_, ?_⟩, ?_⟩
  · intro c member
    rcases List.mem_append.mp member with front | behind
    · exact Nat.isDigit_of_mem_toDigits (by decide) (by decide) front
    · exact digits c behind
  · exact List.append_ne_nil_of_left_ne_nil Nat.toDigits_ne_nil fraction
  · have front : (toString (count / Nat.pow 10 places)).toList = whole := Nat.toList_repr
    unfold positional
    dsimp only
    split
    case h_1 none => exact .inr ⟨none, front⟩
    case h_2 =>
      left
      simp only [String.toList_append, String.toList_ofList, front, List.append_assoc]
      rfl
  · have sum : 10 ^ zeros * ofDigits (whole ++ fraction) = count := by
      have front : ofDigits whole = count / 10 ^ places := Nat.ofDigitChars_ten_toDigits
      rw [ofDigits_append, Nat.mul_add, value, front, ← Nat.mul_assoc, ← Nat.pow_add, Nat.add_comm zeros,
        length, Nat.div_add_mod]
    have scale : (10 : Rat) ^ places = 10 ^ fraction.length * 10 ^ zeros := by rw [← pow_add, length]
    have same : (count : Rat) = 10 ^ zeros * ofDigits (whole ++ fraction) := by exact_mod_cast sum.symm
    rw [Decimal.magnitude, same, scale]
    field_simp

/-! ### Texts of durations -/

/-- A number in positional notation with a unit is one component. -/
theorem lists_positional (listed : (unit, seconds) ∈ unitLengths) (count places : Nat) :
    ∃ part literal, Lists (positional count places ++ unit).toList [part] ∧
      part.Sized literal seconds ∧ literal.magnitude = (count : Rat) / 10 ^ places := by
  obtain ⟨whole, fraction, unsigned, value⟩ := positional_spec count places
  let part : Component := ⟨(positional count places).toList, unit.toList⟩
  have sized : part.Sized ⟨false, whole, fraction⟩ seconds := by
    refine ⟨⟨[], _, .none, unsigned, rfl⟩, rfl, ?_⟩
    rwa [String.ofList_toList]
  refine ⟨part, _, ⟨List.cons_ne_nil _ _, ?_, ?_⟩, sized, value⟩
  · rw [List.forall_mem_singleton]
    exact ⟨_, _, sized⟩
  · obtain ⟨c, rest, begins, digit⟩ := unsigned.head
    have sign : (c == '+') = false := by
      apply beq_false_of_ne
      rintro rfl
      simp at digit
    rw [String.toList_append, begins, List.cons_append, List.dropWhile_cons_of_neg (by simp [sign])]
    simp [spelled, part, begins]

theorem parse_positional (listed : (unit, seconds) ∈ unitLengths) (count places : Nat) :
    parse (positional count places ++ unit) =
      (scaled? ((count : Rat) / 10 ^ places) seconds).elim (.error .overflow) .ok := by
  obtain ⟨part, literal, lists, sized, value⟩ := lists_positional listed count places
  rw [parse, lists.parseChars_eq, sum_singleton, sized.toDuration, value]

/-- The text of a duration is one component. -/
theorem lists_render (d : Duration) : ∃ part, Lists d.render.toList [part] := by
  have shown (unit : String) (seconds : Rat) (places : Nat) (listed : (unit, seconds) ∈ unitLengths) :
      ∃ part, Lists (positional d.nanos places ++ unit).toList [part] := by
    obtain ⟨part, -, lists, -⟩ := lists_positional listed d.nanos places
    exact ⟨part, lists⟩
  unfold render
  split_ifs
  · exact shown "s" 1 9 (by simp [unitLengths])
  · exact shown "ms" (1 / 1_000) 6 (by simp [unitLengths])
  · exact shown "µs" (1 / 1_000_000) 3 (by simp [unitLengths])
  · exact shown "ns" (1 / 1_000_000_000) 0 (by simp [unitLengths])

/-! ### Numbers of seconds -/

theorem ofNanos?_nanos (d : Duration) : ofNanos? d.nanos = some d := by
  rw [ofNanos?, dif_pos d.inRange]

/-- A number of seconds that is less than half a nanosecond from a duration denotes it. -/
theorem ofSeconds?_of_near (near : |x * 1_000_000_000 - d.nanos| < 1 / 2) : ofSeconds? x = some d := by
  have whole : roundHalfEven (x * 1_000_000_000) = (d.nanos : Int) := by
    apply roundHalfEven_eq
    rw [abs_sub_comm, Int.cast_natCast]
    exact near
  rw [ofSeconds?, whole, Int.toNat_natCast, ofNanos?_nanos]

/-- Up to a second no rounding reaches half a nanosecond. -/
theorem scaled?_of_small {number length : Rat} (whole : length * number * 1_000_000_000 = d.nanos)
    (small : d.nanos ≤ 1_000_000_000) (normal : (2 : Rat) ^ (-100 : Int) ≤ number ∧ number ≤ 2 ^ 10)
    (unit : (2 : Rat) ^ (-100 : Int) ≤ length ∧ length ≤ 1) : scaled? number length = some d := by
  have smaller : (2 : Rat) ^ (-1022 : Int) ≤ 2 ^ (-100 : Int) := zpow_le_zpow_right₀ one_le_two (by decide)
  obtain ⟨product, high, near⟩ := rounded_mul_near unit.1 normal.1
  have read_number := toBinary64_of_normal (smaller.trans normal.1) (normal.2.trans (by norm_num))
  have read_unit := toBinary64_of_normal (smaller.trans unit.1) (unit.2.trans (by norm_num))
  have read_product : toBinary64 (rounded length * rounded number) =
      some (rounded (rounded length * rounded number)) := by
    apply toBinary64_of_normal product
    calc rounded length * rounded number ≤ 2 * (length * number) := high
      _ ≤ 2 * (1 * 2 ^ 10) := by
        have positive : (0 : Rat) ≤ number := (zpow_pos two_pos _).le.trans normal.1
        gcongr
        · exact unit.2
        · exact normal.2
      _ ≤ 2 ^ 100 := by norm_num
  rw [scaled?, read_number, read_unit]
  change (toBinary64 (rounded length * rounded number)).bind ofSeconds? = some d
  rw [read_product]
  apply ofSeconds?_of_near
  have count : (d.nanos : Rat) ≤ 1_000_000_000 := by exact_mod_cast small
  rw [← whole] at count ⊢
  rw [abs_le] at near
  rw [abs_lt]
  constructor <;> linarith

/-- What is shown in a unit below a second comes back, as long as the number in front is of a fit size. -/
theorem parse_positional_of_lt (listed : (unit, seconds) ∈ unitLengths)
    (scale : seconds * 1_000_000_000 = 10 ^ places) (size : 10 ^ places ≤ d.nanos)
    (small : d.nanos < 10 ^ places * 1000) (short : places ≤ 6) :
    parse (positional d.nanos places ++ unit) = .ok d := by
  have power : (0 : Rat) < 10 ^ places := by positivity
  have length : seconds = 10 ^ places / 1_000_000_000 := by linarith
  have bound : (10 : Rat) ^ places ≤ 10 ^ 6 := pow_le_pow_right₀ (by norm_num) short
  have least : (1 : Rat) ≤ 10 ^ places := one_le_pow₀ (by norm_num)
  have below : d.nanos ≤ 1_000_000_000 := by
    have : 10 ^ places ≤ 10 ^ 6 := Nat.pow_le_pow_right (by decide) short
    omega
  have scaled : scaled? ((d.nanos : Rat) / 10 ^ places) seconds = some d := by
    refine scaled?_of_small ?_ below ⟨?_, ?_⟩ ⟨?_, ?_⟩
    · rw [length]
      field_simp
    · have low : (10 : Rat) ^ places ≤ d.nanos := by exact_mod_cast size
      calc (2 : Rat) ^ (-100 : Int) ≤ 1 := by norm_num
        _ ≤ d.nanos / 10 ^ places := (one_le_div power).mpr low
    · have high : (d.nanos : Rat) ≤ 10 ^ places * 1000 := by exact_mod_cast small.le
      calc (d.nanos : Rat) / 10 ^ places ≤ 1000 := (div_le_iff₀' power).mpr high
        _ ≤ 2 ^ 10 := by norm_num
    · calc (2 : Rat) ^ (-100 : Int) ≤ 1 / 1_000_000_000 := by norm_num
        _ ≤ seconds := by linarith
    · linarith
  rw [parse_positional listed, scaled]
  rfl

/-- A duration of less than a second comes back from its text. -/
theorem parse_render_of_lt (small : d.nanos < 1_000_000_000) : parse d.render = .ok d := by
  have millis : ("ms", 1 / 1_000) ∈ unitLengths := by simp [unitLengths]
  have micros : ("µs", 1 / 1_000_000) ∈ unitLengths := by simp [unitLengths]
  have nanos : ("ns", 1 / 1_000_000_000) ∈ unitLengths := by simp [unitLengths]
  unfold render
  split_ifs with large middle little
  · omega
  · exact parse_positional_of_lt millis (by norm_num) middle (by omega) (by decide)
  · exact parse_positional_of_lt micros (by norm_num) little (by omega) (by decide)
  · rcases Nat.eq_zero_or_pos d.nanos with none | positive
    · obtain rfl : d = zero := eq_of_nanos none
      decide +kernel
    · exact parse_positional_of_lt nanos (by norm_num) positive (by omega) (by decide)

/-! ### Seconds -/

/-- A duration in seconds. -/
def inSeconds (d : Duration) : Rat := d.nanos / 1_000_000_000

theorem inSeconds_mul (d : Duration) : d.inSeconds * 1_000_000_000 = d.nanos := by
  rw [inSeconds]
  field_simp

theorem inSeconds_lt (d : Duration) : d.inSeconds < 2 ^ 64 := by
  have inRange : (d.nanos : Rat) < 18_446_744_073_709_551_616 * 1_000_000_000 := by exact_mod_cast d.inRange
  rw [← inSeconds_mul] at inRange
  linarith

theorem one_le_inSeconds (large : 1_000_000_000 ≤ d.nanos) : 1 ≤ d.inSeconds := by
  have count : (1_000_000_000 : Rat) ≤ d.nanos := by exact_mod_cast large
  rw [← inSeconds_mul] at count
  linarith

theorem normal_of_one_le (low : 1 ≤ x) : (2 : Rat) ^ (-1022 : Int) ≤ x := by
  calc (2 : Rat) ^ (-1022 : Int) ≤ 2 ^ (0 : Int) := zpow_le_zpow_right₀ one_le_two (by decide)
    _ ≤ x := by rwa [zpow_zero]

/-- From a second on, what is shown is read as the nearest float. -/
theorem parse_render_of_le (large : 1_000_000_000 ≤ d.nanos) :
    parse d.render = (ofSeconds? (rounded d.inSeconds)).elim (.error .overflow) .ok := by
  have listed : ("s", 1) ∈ unitLengths := by simp [unitLengths]
  have low := one_le_inSeconds large
  have normal := normal_of_one_le low
  have high := d.inSeconds_lt
  have one : toBinary64 1 = some 1 := by decide +kernel
  have float_low : 1 ≤ rounded d.inSeconds := by
    have power := zpow_le_rounded (k := 0) normal (by rwa [zpow_zero])
    rwa [zpow_zero] at power
  have float_high : rounded d.inSeconds ≤ 2 ^ 100 := by
    have near := (rounded_between normal).2
    linarith
  have scaled : scaled? d.inSeconds 1 = ofSeconds? (rounded d.inSeconds) := by
    rw [scaled?, toBinary64_of_normal normal (by linarith), one]
    change (toBinary64 (1 * rounded d.inSeconds)).bind ofSeconds? = _
    rw [one_mul, toBinary64_of_normal (normal_of_one_le float_low) float_high,
      rounded_rounded (by linarith) (normal_of_one_le float_low)]
    rfl
  have read := parse_positional listed d.nanos 9
  have own : (d.nanos : Rat) / 10 ^ 9 = d.inSeconds := by norm_num [inSeconds]
  rw [own, scaled] at read
  rw [render, if_pos large, read]

/-- Where floats are not further apart than a nanosecond, no nanosecond is lost. -/
theorem parse_render_of_fine (large : 1_000_000_000 ≤ d.nanos) (fine : d.inSeconds < 2 ^ 23) :
    parse d.render = .ok d := by
  have normal := normal_of_one_le (one_le_inSeconds large)
  have places : spacing d.inSeconds ≤ 2 ^ (-30 : Int) := by
    have below := floorLog2_lt (k := 23) ((zpow_pos two_pos _).trans_le normal) (by exact_mod_cast fine)
    rw [spacing_eq normal]
    exact zpow_le_zpow_right₀ one_le_two (by omega)
  have near := abs_le.mp (rounded_near d.inSeconds)
  have denoted : ofSeconds? (rounded d.inSeconds) = some d := by
    apply ofSeconds?_of_near
    rw [← inSeconds_mul, abs_lt]
    norm_num at places
    constructor <;> linarith
  rw [parse_render_of_le large, denoted]
  rfl

theorem ofSeconds?_eq_some_iff : ofSeconds? x = some d ↔
    (roundHalfEven (x * 1_000_000_000)).toNat = d.nanos := by
  unfold ofSeconds? ofNanos?
  split
  case isTrue inRange =>
    rw [Option.some.injEq]
    exact ⟨fun same => same ▸ rfl, fun same => eq_of_nanos same⟩
  case isFalse beyond =>
    refine iff_of_false (by simp) ?_
    intro same
    exact beyond (same ▸ d.inRange)

/-- A number of seconds is at most half a nanosecond from the duration it denotes. -/
theorem near_of_ofSeconds? (read : ofSeconds? x = some d) (positive : 0 < d.nanos ∨ 0 ≤ x) :
    |x * 1_000_000_000 - d.nanos| ≤ 1 / 2 := by
  have own := ofSeconds?_eq_some_iff.mp read
  have whole : roundHalfEven (x * 1_000_000_000) = (d.nanos : Int) := by
    rcases positive with above | nonnegative
    · omega
    · have := le_roundHalfEven (n := 0) (x := x * 1_000_000_000) (by push_cast; linarith)
      omega
  have near := roundHalfEven_near (x * 1_000_000_000)
  rwa [whole, Int.cast_natCast, abs_sub_comm] at near

/-- Where floats are further apart than a nanosecond, only one can denote a duration. -/
theorem parse_render_of_measures {part : Component} (measured : part.Measures d)
    (coarse : 2 ^ 23 ≤ d.inSeconds) : parse d.render = .ok d := by
  have large : 1_000_000_000 ≤ d.nanos := by
    have count : (1_000_000_000 : Rat) ≤ d.nanos := by
      rw [← inSeconds_mul]
      linarith
    exact_mod_cast count
  have normal := normal_of_one_le (one_le_inSeconds large)
  obtain ⟨literal, seconds, -, value⟩ := measured
  obtain ⟨y, x, float, denoted⟩ : ∃ y x, toBinary64 y = some x ∧ ofSeconds? x = some d := by
    simp only [scaled?, Option.bind_eq_bind, Option.bind_eq_some_iff] at value
    obtain ⟨a, -, b, -, x, float, denoted⟩ := value
    exact ⟨b * a, x, float, denoted⟩
  have near := abs_le.mp (near_of_ofSeconds? denoted (.inl (by omega)))
  rw [← inSeconds_mul] at near
  obtain ⟨positive, rfl⟩ := eq_rounded_of_pos float (by linarith)
  have places : (2 : Rat) ^ (-29 : Int) ≤ spacing d.inSeconds := by
    have above := le_floorLog2 (k := 23) ((zpow_pos two_pos _).trans_le normal) (by exact_mod_cast coarse)
    rw [spacing_eq normal]
    exact zpow_le_zpow_right₀ one_le_two (by omega)
  have same : rounded d.inSeconds = rounded y := by
    apply rounded_eq_of_near positive normal
    rw [abs_lt]
    norm_num at places
    constructor <;> linarith
  rw [parse_render_of_le large, same, denoted]
  rfl

/-- A duration comes back from its text exactly if a number with a unit denotes it at all. -/
theorem parse_render_eq_ok_iff : parse d.render = .ok d ↔ ∃ part : Component, part.Measures d := by
  constructor
  · intro read
    obtain ⟨part, lists⟩ := lists_render d
    rw [parse, lists.parseChars_eq, sum_singleton] at read
    exact ⟨part, Component.toDuration_eq_ok_iff.mp read⟩
  · rintro ⟨part, measured⟩
    rcases Nat.lt_or_ge d.nanos 1_000_000_000 with small | large
    · exact parse_render_of_lt small
    · rcases lt_or_ge d.inSeconds (2 ^ 23) with fine | coarse
      · exact parse_render_of_fine large fine
      · exact parse_render_of_measures measured coarse

/-- Up to 2^23 seconds every duration comes back from its text. -/
theorem parse_render_of_le_limit (limit : d.nanos ≤ 8_388_608_000_000_000) : parse d.render = .ok d := by
  rcases Nat.lt_or_ge d.nanos 1_000_000_000 with small | large
  · exact parse_render_of_lt small
  · rcases Nat.lt_or_eq_of_le limit with below | same
    · apply parse_render_of_fine large
      have count : (d.nanos : Rat) < 8_388_608_000_000_000 := by exact_mod_cast below
      rw [← inSeconds_mul] at count
      linarith
    · obtain rfl : d = ⟨8_388_608_000_000_000, by decide⟩ := eq_of_nanos same
      decide +kernel

/-! ### What else can come of the text -/

/-- The last floats below 2^64 are 2048 apart, so what is within 1024 of it goes up to it. -/
theorem le_rounded_limit_iff (low : 1 ≤ x) (high : x < 2 ^ 64) :
    2 ^ 64 ≤ rounded x ↔ 2 ^ 64 - 2 ^ 10 ≤ x := by
  have normal := normal_of_one_le low
  have positive := (zpow_pos two_pos _).trans_le normal
  have last := floorLog2_lt (k := 64) positive (by exact_mod_cast high)
  constructor
  · intro reached
    have near := (abs_le.mp (rounded_near x)).2
    have places : spacing x ≤ 2 ^ (11 : Int) := by
      rw [spacing_eq normal]
      exact zpow_le_zpow_right₀ one_le_two (by omega)
    norm_num at places
    linarith
  · intro close
    have first := le_floorLog2 (k := 63) positive (by norm_num; linarith)
    have places : spacing x = 2 ^ 11 := by
      rw [spacing_eq normal, show floorLog2 x = 63 by omega]
      norm_num
    have up : roundHalfEven (x / 2 ^ 11) = (2 ^ 53 - 1) + 1 := by
      apply roundHalfEven_of_odd (by norm_num)
      · push_cast
        linarith
      · push_cast
        linarith
    rw [rounded, places, up]
    norm_num

/-- A float below 2^64 seconds is in range also when it is rounded to nanoseconds. -/
theorem ofSeconds?_rounded_eq_none_iff (low : 1 ≤ x) :
    ofSeconds? (rounded x) = none ↔ 2 ^ 64 ≤ rounded x := by
  have beyond_iff : ofSeconds? (rounded x) = none ↔
      18_446_744_073_709_551_616 * 1_000_000_000 ≤ roundHalfEven (rounded x * 1_000_000_000) := by
    unfold ofSeconds? ofNanos?
    split
    case isTrue inRange => exact iff_of_false (by simp) (by omega)
    case isFalse beyond => exact iff_of_true rfl (by omega)
  rw [beyond_iff]
  constructor
  · intro beyond
    by_contra below
    rw [not_le] at below
    have least : rounded x ≤ 2 ^ 64 - 1 := by
      rcases lt_or_ge (rounded x) (2 ^ 63) with small | large
      · linarith
      · obtain ⟨m, told⟩ := rounded_eq_mul (y := x) (k := 63) (by linarith) (by exact_mod_cast large)
        norm_num at told
        rw [told] at below ⊢
        have count : (m : Rat) < (2 ^ 53 : Int) := by
          push_cast
          linarith
        have whole : (m : Rat) ≤ (2 ^ 53 - 1 : Int) :=
          Int.cast_le.mpr (Int.le_sub_one_of_lt (Int.cast_lt.mp count))
        push_cast at whole
        linarith
    have small := roundHalfEven_le (x := rounded x * 1_000_000_000)
      (n := (18_446_744_073_709_551_616 - 1) * 1_000_000_000) (by push_cast; linarith)
    omega
  · intro reached
    apply le_roundHalfEven
    push_cast
    linarith

/-- A duration cannot be read from its text, but is too large, exactly if it is in the last 1024 seconds. -/
theorem parse_render_overflow_iff : parse d.render = .error .overflow ↔
    18_446_744_073_709_550_592 * 1_000_000_000 ≤ d.nanos := by
  rcases Nat.lt_or_ge d.nanos 1_000_000_000 with small | large
  · rw [parse_render_of_lt small]
    exact iff_of_false nofun (by omega)
  · have low := one_le_inSeconds large
    have limit : 2 ^ 64 - 2 ^ 10 ≤ d.inSeconds ↔ 18_446_744_073_709_550_592 * 1_000_000_000 ≤ d.nanos := by
      rw [← Nat.cast_le (α := Rat), ← inSeconds_mul]
      push_cast
      constructor <;> intro <;> linarith
    rw [← limit, ← le_rounded_limit_iff low d.inSeconds_lt, ← ofSeconds?_rounded_eq_none_iff low,
      parse_render_of_le large]
    cases ofSeconds? (rounded d.inSeconds) <;> simp

/-- What comes of the text of a duration is off by half a nanosecond and the rounding of a float at most. -/
theorem error_of_parse_render {e : Duration} (read : parse d.render = .ok e) :
    2 ^ 53 * ((e.nanos : Int) - d.nanos).natAbs ≤ d.nanos + 2 ^ 52 := by
  rcases Nat.lt_or_ge d.nanos 1_000_000_000 with small | large
  · obtain rfl : d = e := Except.ok.inj ((parse_render_of_lt small).symm.trans read)
    simp
  · have low := one_le_inSeconds large
    have denoted : ofSeconds? (rounded d.inSeconds) = some e := by
      rw [parse_render_of_le large] at read
      cases value : ofSeconds? (rounded d.inSeconds) with
      | none => simp [value] at read
      | some other => simpa [value] using read
    have near := abs_le.mp (near_of_ofSeconds? denoted (.inr (rounded_nonneg (by linarith))))
    have float := abs_le.mp (rounded_relative (normal_of_one_le low))
    have count := d.inSeconds_mul
    have error : |(e.nanos : Rat) - d.nanos| ≤ 1 / 2 + d.nanos / 2 ^ 53 := by
      rw [abs_le]
      constructor <;> linarith
    have cast : ((((e.nanos : Int) - d.nanos).natAbs : Nat) : Rat) = |(e.nanos : Rat) - d.nanos| := by
      rw [Nat.cast_natAbs]
      push_cast
      rfl
    rw [← cast] at error
    rw [← Nat.cast_le (α := Rat)]
    push_cast
    linarith

end ServiceMesh.Duration
