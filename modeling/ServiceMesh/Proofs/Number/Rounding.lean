import Mathlib.Algebra.Order.Field.Power
import Mathlib.Algebra.Order.Field.Rat
import Mathlib.Tactic.Linarith
import Mathlib.Tactic.NormNum
import Mathlib.Tactic.Positivity
import Mathlib.Tactic.Ring
import ServiceMesh.Number.Binary64

/-! How far rounding moves a number. Neighbours among floats are further apart the larger they are, and a
number goes to a float that is nearest to it; a number of which a float is that near goes to that float. -/
namespace ServiceMesh.Number

variable {x y : Rat} {n k : Int}

/-! ### Whole numbers -/

theorem roundHalfEven_near (x : Rat) : |(roundHalfEven x : Rat) - x| ≤ 1 / 2 := by
  have low := Rat.floor_le x
  have high := Rat.lt_floor_add_one x
  push_cast at high
  rw [abs_le]
  unfold roundHalfEven
  dsimp only
  split_ifs <;> push_cast <;> constructor <;> linarith

/-- Of a number that is near enough there is no doubt. -/
theorem roundHalfEven_eq (near : |(n : Rat) - x| < 1 / 2) : roundHalfEven x = n := by
  have rounded := roundHalfEven_near x
  have close : |((roundHalfEven x - n : Int) : Rat)| < 1 := by
    push_cast
    rw [abs_lt] at near ⊢
    rw [abs_le] at rounded
    constructor <;> linarith
  rw [← Int.cast_abs, ← Int.cast_one, Int.cast_lt, Int.abs_lt_one_iff] at close
  omega

theorem roundHalfEven_le (below : x ≤ n) : roundHalfEven x ≤ n := by
  have near := (abs_le.mp (roundHalfEven_near x)).2
  have small : (roundHalfEven x : Rat) < (n + 1 : Int) := by
    push_cast
    linarith
  exact Int.lt_add_one_iff.mp (Int.cast_lt.mp small)

theorem le_roundHalfEven (above : n ≤ x) : n ≤ roundHalfEven x := by
  have near := (abs_le.mp (roundHalfEven_near x)).1
  have large : ((n - 1 : Int) : Rat) < roundHalfEven x := by
    push_cast
    linarith
  have := Int.cast_lt.mp large
  omega

/-- A number in the middle goes up if that is even. -/
theorem roundHalfEven_of_odd (odd : n % 2 = 1) (low : n + 1 / 2 ≤ x) (high : x < n + 1) :
    roundHalfEven x = n + 1 := by
  have whole : x.floor = n := by
    refine le_antisymm (Int.lt_add_one_iff.mp (Rat.floor_lt_iff.mpr ?_)) (Rat.le_floor_iff.mpr ?_)
    · push_cast
      exact high
    · linarith
  unfold roundHalfEven
  rw [whole]
  dsimp only
  split_ifs
  · linarith
  · rfl
  · omega
  · rfl

/-! ### Binary places -/

theorem log2_bounds {n : Nat} (nonzero : n ≠ 0) :
    (2 : Rat) ^ (n.log2 : Int) ≤ n ∧ (n : Rat) < (2 : Rat) ^ (n.log2 + 1 : Int) := by
  have low := Nat.log2_self_le nonzero
  have high := Nat.lt_log2_self (n := n)
  exact ⟨by exact_mod_cast low, by exact_mod_cast high⟩

/-- A positive number lies between two neighbouring powers of two. -/
theorem floorLog2_spec (positive : 0 < x) :
    (2 : Rat) ^ floorLog2 x ≤ x ∧ x < (2 : Rat) ^ (floorLog2 x + 1) := by
  have whole : (x.num : Rat) = x.num.natAbs := by
    rw [← Int.cast_natCast, Int.natAbs_of_nonneg (Rat.num_nonneg.mpr positive.le)]
  have quotient : x = (x.num.natAbs : Rat) / x.den := by
    rw [← whole]
    exact (Rat.num_div_den x).symm
  obtain ⟨num_low, num_high⟩ := log2_bounds (Int.natAbs_ne_zero.mpr (Rat.num_ne_zero.mpr positive.ne'))
  obtain ⟨den_low, den_high⟩ := log2_bounds x.den_ne_zero
  have den_pos : (0 : Rat) < x.den := Nat.cast_pos.mpr x.den_pos
  unfold floorLog2
  dsimp only
  generalize (x.num.natAbs.log2 : Int) = a at num_low num_high ⊢
  generalize (x.den.log2 : Int) = b at den_low den_high ⊢
  have low : (2 : Rat) ^ (a - b - 1) ≤ x := by
    rw [quotient, le_div_iff₀ den_pos]
    calc (2 : Rat) ^ (a - b - 1) * x.den ≤ 2 ^ (a - b - 1) * 2 ^ (b + 1) := by gcongr
      _ = 2 ^ a := by
        rw [← zpow_add₀ two_ne_zero]
        congr 1
        omega
      _ ≤ _ := num_low
  have high : x < (2 : Rat) ^ (a - b + 1) := by
    rw [quotient, div_lt_iff₀ den_pos]
    calc (x.num.natAbs : Rat) < 2 ^ (a + 1) := num_high
      _ = 2 ^ (a - b + 1) * 2 ^ b := by
        rw [← zpow_add₀ two_ne_zero]
        congr 1
        omega
      _ ≤ _ := by gcongr
  split_ifs with large
  · exact ⟨large, high⟩
  · rw [sub_add_cancel]
    exact ⟨low, not_le.mp large⟩

theorem le_floorLog2 (positive : 0 < x) (low : (2 : Rat) ^ k ≤ x) : k ≤ floorLog2 x := by
  have between := low.trans_lt (floorLog2_spec positive).2
  exact Int.lt_add_one_iff.mp ((zpow_lt_zpow_iff_right₀ one_lt_two).mp between)

theorem floorLog2_lt (positive : 0 < x) (high : x < (2 : Rat) ^ k) : floorLog2 x < k :=
  (zpow_lt_zpow_iff_right₀ one_lt_two).mp ((floorLog2_spec positive).1.trans_lt high)

/-- A multiple of a power of two is one of every smaller power of two. -/
theorem mul_zpow_of_le {p q : Int} (order : p ≤ q) (n : Int) :
    (n : Rat) * (2 : Rat) ^ q = (n * 2 ^ (q - p).toNat : Int) * (2 : Rat) ^ p := by
  have split : q = ((q - p).toNat : Int) + p := by omega
  conv_lhs => rw [split, zpow_add₀ two_ne_zero, zpow_natCast, ← mul_assoc]
  push_cast
  rfl

/-! ### Floats -/

/-- The distance of neighbours among the floats near a number. -/
def spacing (x : Rat) : Rat := (2 : Rat) ^ lastPlace x

theorem spacing_pos (x : Rat) : 0 < spacing x := zpow_pos two_pos _

/-- The nearest multiple of the distance of neighbours. -/
def rounded (x : Rat) : Rat := roundHalfEven (x / spacing x) * spacing x

theorem toBinary64_of_pos (positive : 0 < x) :
    toBinary64 x = if rounded x < (2 : Rat) ^ (1024 : Nat) then some (rounded x) else none := by
  rw [toBinary64, if_neg positive.ne']
  rfl

theorem rounded_near (x : Rat) : |rounded x - x| ≤ spacing x / 2 := by
  have own := (spacing_pos x).ne'
  have split : rounded x - x = (roundHalfEven (x / spacing x) - x / spacing x) * spacing x := by
    rw [rounded, sub_mul, div_mul_cancel₀ x own]
  rw [split, abs_mul, abs_of_pos (spacing_pos x)]
  have near := mul_le_mul_of_nonneg_right (roundHalfEven_near (x / spacing x)) (spacing_pos x).le
  linarith

/-- A multiple that is near enough to a number is the one it goes to. -/
theorem rounded_eq (near : |n * spacing x - x| < spacing x / 2) : rounded x = n * spacing x := by
  have own := (spacing_pos x).ne'
  have close : |(n : Rat) - x / spacing x| < 1 / 2 := by
    have split : (n : Rat) - x / spacing x = (n * spacing x - x) / spacing x := by
      rw [sub_div, mul_div_cancel_right₀ _ own]
    rw [split, abs_div, abs_of_pos (spacing_pos x), div_lt_iff₀ (spacing_pos x)]
    linarith
  rw [rounded, roundHalfEven_eq close]

/-- Rounding does not pass a multiple of the distance. -/
theorem rounded_le (below : x ≤ n * spacing x) : rounded x ≤ n * spacing x := by
  have whole := roundHalfEven_le ((div_le_iff₀ (spacing_pos x)).mpr below)
  exact mul_le_mul_of_nonneg_right (Int.cast_le.mpr whole) (spacing_pos x).le

theorem le_rounded (above : n * spacing x ≤ x) : n * spacing x ≤ rounded x := by
  have whole := le_roundHalfEven ((le_div_iff₀ (spacing_pos x)).mpr above)
  exact mul_le_mul_of_nonneg_right (Int.cast_le.mpr whole) (spacing_pos x).le

theorem rounded_nonneg (above : 0 ≤ x) : 0 ≤ rounded x := by
  simpa using le_rounded (x := x) (n := 0) (by simpa using above)

/-- In the range of normal floats neighbours are apart by the last of 53 places. -/
theorem spacing_eq (normal : (2 : Rat) ^ (-1022 : Int) ≤ x) : spacing x = (2 : Rat) ^ (floorLog2 x - 52) := by
  have := le_floorLog2 ((zpow_pos two_pos _).trans_le normal) normal
  rw [spacing, lastPlace, max_eq_left (by omega)]

/-- Rounding does not pass a power of two. -/
theorem zpow_le_rounded (normal : (2 : Rat) ^ (-1022 : Int) ≤ x) (low : (2 : Rat) ^ k ≤ x) :
    (2 : Rat) ^ k ≤ rounded x := by
  have positive := (zpow_pos two_pos _).trans_le normal
  have whole := mul_zpow_of_le (p := floorLog2 x - 52) (q := floorLog2 x) (by omega) 1
  rw [Int.cast_one, one_mul, ← spacing_eq normal] at whole
  calc (2 : Rat) ^ k ≤ 2 ^ floorLog2 x := zpow_le_zpow_right₀ one_le_two (le_floorLog2 positive low)
    _ ≤ rounded x := whole ▸ le_rounded (whole ▸ (floorLog2_spec positive).1)

theorem rounded_relative (normal : (2 : Rat) ^ (-1022 : Int) ≤ x) : |rounded x - x| ≤ x / 2 ^ 53 := by
  have near := rounded_near x
  have low := (floorLog2_spec ((zpow_pos two_pos _).trans_le normal)).1
  rw [spacing_eq normal, zpow_sub₀ two_ne_zero] at near
  have places : (2 : Rat) ^ (52 : Int) = 2 ^ 52 := by norm_cast
  rw [places] at near
  calc |rounded x - x| ≤ 2 ^ floorLog2 x / 2 ^ 52 / 2 := near
    _ ≤ x / 2 ^ 52 / 2 := by gcongr
    _ = x / 2 ^ 53 := by ring

/-- A float that is not below a power of two has no places further than 52 behind it. -/
theorem rounded_eq_mul (positive : 0 < y) (low : (2 : Rat) ^ k ≤ rounded y) :
    ∃ m : Int, rounded y = m * (2 : Rat) ^ (k - 52) := by
  rcases le_or_gt (k - 52) (lastPlace y) with fine | coarse
  · exact ⟨_, mul_zpow_of_le fine _⟩
  · have place : floorLog2 y - 52 ≤ lastPlace y := le_max_left _ _
    have whole : (2 : Rat) ^ k = (1 * 2 ^ (k - lastPlace y).toNat : Int) * spacing y := by
      rw [spacing, ← mul_zpow_of_le (by omega), Int.cast_one, one_mul]
    have below : y ≤ (2 : Rat) ^ k :=
      ((floorLog2_spec positive).2.trans_le (zpow_le_zpow_right₀ one_le_two (by omega))).le
    have same : rounded y = (2 : Rat) ^ k := le_antisymm (whole ▸ rounded_le (whole ▸ below)) low
    refine ⟨1 * 2 ^ (k - (k - 52)).toNat, ?_⟩
    rw [same, ← mul_zpow_of_le (by omega), Int.cast_one, one_mul]

/-- A float that is nearer to a number than half of the distance is the one it goes to. -/
theorem rounded_eq_of_near (positive : 0 < y) (normal : (2 : Rat) ^ (-1022 : Int) ≤ x)
    (near : |rounded y - x| < spacing x / 2) : rounded x = rounded y := by
  have low := (floorLog2_spec ((zpow_pos two_pos _).trans_le normal)).1
  have own := spacing_eq normal
  generalize floorLog2 x = k at low own
  have half : spacing x / 2 = (2 : Rat) ^ (k - 53) := by
    rw [own, show k - 52 = k - 53 + 1 by omega, zpow_add_one₀ two_ne_zero]
    ring
  have whole : (2 : Rat) ^ k = 2 ^ 53 * (2 : Rat) ^ (k - 53) := by
    rw [show k = 53 + (k - 53) by omega, zpow_add₀ two_ne_zero]
    norm_cast
    simp
  have unit : 0 < (2 : Rat) ^ (k - 53) := zpow_pos two_pos _
  rw [half] at near
  have close := abs_lt.mp near
  -- Below the power of two the distance is half as large, but the float is nearer than that.
  have above : (2 : Rat) ^ k ≤ rounded y := by
    by_contra below
    have previous : (2 : Rat) ^ (k - 1) ≤ rounded y := by
      rw [zpow_sub_one₀ two_ne_zero]
      linarith
    obtain ⟨m, told⟩ := rounded_eq_mul positive previous
    rw [show k - 1 - 52 = k - 53 by omega] at told
    rw [told, whole, not_le, mul_lt_mul_iff_of_pos_right unit] at below
    have small : (m : Rat) ≤ 2 ^ 53 - 1 := by
      have : m < 2 ^ 53 := by exact_mod_cast below
      exact_mod_cast Int.le_sub_one_of_lt this
    have far := mul_le_mul_of_nonneg_right small unit.le
    rw [told] at close
    linarith
  obtain ⟨m, told⟩ := rounded_eq_mul positive above
  rw [← own] at told
  rw [told]
  exact rounded_eq (told ▸ half ▸ near)

/-- Up to far above all durations there are floats. -/
theorem toBinary64_of_normal (normal : (2 : Rat) ^ (-1022 : Int) ≤ x) (high : x ≤ 2 ^ 100) :
    toBinary64 x = some (rounded x) := by
  have positive := (zpow_pos two_pos _).trans_le normal
  have near := (abs_le.mp (rounded_relative normal)).2
  have small : rounded x < (2 : Rat) ^ (1024 : Nat) := by
    calc rounded x ≤ x + x / 2 ^ 53 := by linarith
      _ ≤ 2 ^ 100 + 2 ^ 100 / 2 ^ 53 := by gcongr
      _ < 2 ^ 101 := by norm_num
      _ ≤ 2 ^ 1024 := pow_le_pow_right₀ one_le_two (by decide)
  rw [toBinary64_of_pos positive, if_pos small]

/-- Only positive numbers go to positive floats. -/
theorem eq_rounded_of_pos (read : toBinary64 y = some x) (positive : 0 < x) : 0 < y ∧ x = rounded y := by
  have whole : x = rounded y := by
    unfold toBinary64 at read
    split at read
    case isTrue => 
      cases read
      exact absurd positive (lt_irrefl 0)
    case isFalse =>
      dsimp only at read
      split at read
      case isTrue => exact (Option.some.inj read).symm
      case isFalse => contradiction
  refine ⟨?_, whole⟩
  by_contra below
  have small := rounded_le (x := y) (n := 0) (by simpa using not_lt.mp below)
  rw [← whole, Int.cast_zero, zero_mul] at small
  exact absurd positive (not_lt.mpr small)

/-- What is a float stays as it is. -/
theorem rounded_rounded (positive : 0 < y) (normal : (2 : Rat) ^ (-1022 : Int) ≤ rounded y) :
    rounded (rounded y) = rounded y :=
  rounded_eq_of_near positive normal (by simpa using spacing_pos (rounded y))

/-- What rounding leaves of a number, as a factor. -/
theorem rounded_between (normal : (2 : Rat) ^ (-1022 : Int) ≤ x) :
    x * (1 - 1 / 2 ^ 53) ≤ rounded x ∧ rounded x ≤ x * (1 + 1 / 2 ^ 53) := by
  have near := abs_le.mp (rounded_relative normal)
  constructor <;> linarith

/-- A product moves little although its factors are rounded before it is rounded itself. -/
theorem rounded_mul_near {a b : Rat} (normal_a : (2 : Rat) ^ (-100 : Int) ≤ a)
    (normal_b : (2 : Rat) ^ (-100 : Int) ≤ b) :
    (2 : Rat) ^ (-1022 : Int) ≤ rounded a * rounded b ∧ rounded a * rounded b ≤ 2 * (a * b) ∧
    |rounded (rounded a * rounded b) - a * b| ≤ a * b / 2 ^ 51 := by
  have smaller : (2 : Rat) ^ (-1022 : Int) ≤ 2 ^ (-100 : Int) := zpow_le_zpow_right₀ one_le_two (by decide)
  obtain ⟨low_a, high_a⟩ := rounded_between (smaller.trans normal_a)
  obtain ⟨low_b, high_b⟩ := rounded_between (smaller.trans normal_b)
  have positive_a : 0 < a := (zpow_pos two_pos _).trans_le normal_a
  have positive_b : 0 < b := (zpow_pos two_pos _).trans_le normal_b
  have below : (0 : Rat) ≤ 1 - 1 / 2 ^ 53 := by norm_num
  have low : a * b * (1 - 1 / 2 ^ 53) ^ 2 ≤ rounded a * rounded b := by
    calc a * b * (1 - 1 / 2 ^ 53) ^ 2 = a * (1 - 1 / 2 ^ 53) * (b * (1 - 1 / 2 ^ 53)) := by ring
      _ ≤ rounded a * rounded b := by
        gcongr
        exact rounded_nonneg positive_a.le
  have high : rounded a * rounded b ≤ a * b * (1 + 1 / 2 ^ 53) ^ 2 := by
    have rest := rounded_nonneg positive_b.le
    calc rounded a * rounded b ≤ a * (1 + 1 / 2 ^ 53) * (b * (1 + 1 / 2 ^ 53)) := by gcongr
      _ = a * b * (1 + 1 / 2 ^ 53) ^ 2 := by ring
  have positive := mul_pos positive_a positive_b
  have normal : (2 : Rat) ^ (-1022 : Int) ≤ rounded a * rounded b := by
    have split : (2 : Rat) ^ (-1022 : Int) = 2 ^ (-100 : Int) * 2 ^ (-100 : Int) * 2 ^ (-822 : Int) := by
      rw [← zpow_add₀ two_ne_zero, ← zpow_add₀ two_ne_zero]
      rfl
    have factor : (2 : Rat) ^ (-822 : Int) ≤ (1 - 1 / 2 ^ 53) ^ 2 := by
      calc (2 : Rat) ^ (-822 : Int) ≤ 2 ^ (-1 : Int) := zpow_le_zpow_right₀ one_le_two (by decide)
        _ ≤ (1 - 1 / 2 ^ 53) ^ 2 := by norm_num
    calc (2 : Rat) ^ (-1022 : Int) ≤ 2 ^ (-100 : Int) * 2 ^ (-100 : Int) * (1 - 1 / 2 ^ 53) ^ 2 := by
          rw [split]
          gcongr
      _ ≤ a * b * (1 - 1 / 2 ^ 53) ^ 2 := by gcongr
      _ ≤ rounded a * rounded b := low
  have twice : rounded a * rounded b ≤ 2 * (a * b) := by
    calc rounded a * rounded b ≤ a * b * (1 + 1 / 2 ^ 53) ^ 2 := high
      _ ≤ a * b * 2 := by
        gcongr
        norm_num
      _ = 2 * (a * b) := by ring
  obtain ⟨least, most⟩ := rounded_between normal
  refine ⟨normal, twice, abs_le.mpr ⟨?_, ?_⟩⟩
  · have product := mul_le_mul_of_nonneg_right low below
    have factor : 1 - 1 / 2 ^ 51 ≤ ((1 - 1 / 2 ^ 53) ^ 2 * (1 - 1 / 2 ^ 53) : Rat) := by norm_num
    have scaled := mul_le_mul_of_nonneg_left factor positive.le
    linarith
  · have product := mul_le_mul_of_nonneg_right high (by norm_num : (0 : Rat) ≤ 1 + 1 / 2 ^ 53)
    have factor : ((1 + 1 / 2 ^ 53) ^ 2 * (1 + 1 / 2 ^ 53) : Rat) ≤ 1 + 1 / 2 ^ 51 := by norm_num
    have scaled := mul_le_mul_of_nonneg_left factor positive.le
    linarith

end ServiceMesh.Number
