import Mathlib.Data.Int.Log
import Mathlib.Data.Rat.Floor
import Mathlib.Algebra.Order.Field.Power

/-!
# Double-precision sums

Two loops of the path generator count in `double`: `s += 0.1` from `0.0` in
`is_path_inside_lanelets`, and `m -= 0.1` from `connection_section_length` in
`connect_path_to_goal_inside_lanelets`. A double sum is the exact sum rounded to the nearest
binary64 number, ties to even. The counters are therefore not the multiples of a tenth that the
source text suggests. From `0.0` the eleventh sample is `0.9999999999999999`, still below `1.0`.
From `7.5` the loop tries 76 lengths, the last about `9.9e-15`.

`roundDouble` is that rounding on rationals. The unit in the last place of a double near `x` is
`2 ^ (⌊log₂ |x|⌋ - 52)` for a normal number and `2 ^ -1074` for a subnormal one. Results past the
largest finite double are not modelled.

`abs_roundDouble_sub_le` bounds the rounding error by `2⁻⁵³` relative plus `2⁻¹⁰⁷⁵` absolute.
From it, adding or subtracting a tenth moves a counter of at most `2 ^ 40` by at least a
twentieth (`add_oneTenth_ge`, `sub_oneTenth_le`). That is what bounds the iterations of both loops.
-/

namespace AutowarePlanning

/-- Rounding to the nearest integer, ties to even. -/
def roundHalfEven (y : ℚ) : ℤ :=
  if Int.fract y < 1 / 2 then ⌊y⌋
  else if 1 / 2 < Int.fract y then ⌊y⌋ + 1
  else if ⌊y⌋ % 2 = 0 then ⌊y⌋ else ⌊y⌋ + 1

/-- The exponent of the unit in the last place of the doubles around `x`. -/
def ulpExponent (x : ℚ) : ℤ := max (Int.log 2 |x| - 52) (-1074)

/-- `x` rounded to the nearest double, ties to even: the result of a double operation whose
exact result is `x`. -/
def roundDouble (x : ℚ) : ℚ := roundHalfEven (x / 2 ^ ulpExponent x) * 2 ^ ulpExponent x

/-- The double nearest `0.1`, the literal of both loops. -/
def oneTenth : ℚ := roundDouble (1 / 10)

theorem abs_roundHalfEven_sub_le (y : ℚ) : |(roundHalfEven y : ℚ) - y| ≤ 1 / 2 := by
  have h0 := Int.fract_nonneg y
  have h1 := Int.fract_lt_one y
  have hy : y = ⌊y⌋ + Int.fract y := (Int.floor_add_fract y).symm
  unfold roundHalfEven
  split_ifs <;> push_cast <;> rw [abs_le] <;> constructor <;> linarith

/-- The unit in the last place is at most the relative `2⁻⁵²` of `x` plus the least subnormal. -/
theorem two_zpow_ulpExponent_le {x : ℚ} (hx : x ≠ 0) :
    (2 : ℚ) ^ ulpExponent x ≤ |x| / 2 ^ 52 + 1 / 2 ^ 1074 := by
  have hlog : (2 : ℚ) ^ Int.log 2 |x| ≤ |x| := by
    exact_mod_cast Int.zpow_log_le_self (b := 2) (by norm_num) (abs_pos.mpr hx)
  have hsub : (2 : ℚ) ^ (-1074 : ℤ) = 1 / 2 ^ 1074 := by norm_num
  rcases max_cases (Int.log 2 |x| - 52) (-1074) with ⟨h, -⟩ | ⟨h, -⟩
  · have h52 : (2 : ℚ) ^ (52 : ℤ) = 2 ^ 52 := by norm_num
    rw [ulpExponent, h, zpow_sub₀ two_ne_zero, h52]
    have : (0 : ℚ) ≤ 1 / 2 ^ 1074 := by positivity
    linarith [div_le_div_of_nonneg_right hlog (by positivity : (0 : ℚ) ≤ 2 ^ 52)]
  · rw [ulpExponent, h, hsub]
    linarith [(by positivity : (0 : ℚ) ≤ |x| / 2 ^ 52)]

/-- A double operation errs by at most `2⁻⁵³` of its exact result plus half the least
subnormal. -/
theorem abs_roundDouble_sub_le (x : ℚ) : |roundDouble x - x| ≤ |x| / 2 ^ 53 + 1 / 2 ^ 1075 := by
  rcases eq_or_ne x 0 with rfl | hx
  · simp [roundDouble, roundHalfEven]
  set u : ℚ := 2 ^ ulpExponent x
  have hu : 0 < u := zpow_pos two_pos _
  have h : roundDouble x - x = ((roundHalfEven (x / u) : ℚ) - x / u) * u := by
    rw [roundDouble, sub_mul, div_mul_cancel₀ _ hu.ne']
  calc |roundDouble x - x| = |(roundHalfEven (x / u) : ℚ) - x / u| * u := by
        rw [h, abs_mul, abs_of_pos hu]
    _ ≤ 1 / 2 * u := mul_le_mul_of_nonneg_right (abs_roundHalfEven_sub_le _) hu.le
    _ ≤ 1 / 2 * (|x| / 2 ^ 52 + 1 / 2 ^ 1074) :=
        mul_le_mul_of_nonneg_left (two_zpow_ulpExponent_le hx) (by norm_num)
    _ = |x| / 2 ^ 53 + 1 / 2 ^ 1075 := by ring

theorem oneTenth_mem : 1 / 10 - 1 / 10 ^ 10 ≤ oneTenth ∧ oneTenth ≤ 1 / 10 + 1 / 10 ^ 10 := by
  have h : |oneTenth - 1 / 10| ≤ |1 / 10| / 2 ^ 53 + 1 / 2 ^ 1075 := abs_roundDouble_sub_le _
  rw [abs_le, abs_of_pos (by norm_num : (0 : ℚ) < 1 / 10)] at h
  exact ⟨by linarith [h.1], by linarith [h.2]⟩

/-- `s += 0.1` on a counter of at most `2 ^ 40` gains at least a twentieth. -/
theorem add_oneTenth_ge {s : ℚ} (h0 : 0 ≤ s) (hs : s ≤ 2 ^ 40) :
    s + 1 / 20 ≤ roundDouble (s + oneTenth) := by
  obtain ⟨ht₀, ht₁⟩ := oneTenth_mem
  have h := (abs_le.mp (abs_roundDouble_sub_le (s + oneTenth))).1
  rw [abs_of_nonneg (by linarith)] at h
  linarith

/-- `m -= 0.1` on a positive counter of at most `2 ^ 40` loses at least a twentieth. -/
theorem sub_oneTenth_le {m : ℚ} (h0 : 0 < m) (hm : m ≤ 2 ^ 40) :
    roundDouble (m - oneTenth) ≤ m - 1 / 20 := by
  obtain ⟨ht₀, ht₁⟩ := oneTenth_mem
  have h := (abs_le.mp (abs_roundDouble_sub_le (m - oneTenth))).2
  have hb : |m - oneTenth| ≤ 2 ^ 40 := abs_le.mpr ⟨by linarith, by linarith⟩
  linarith [div_le_div_of_nonneg_right hb (by positivity : (0 : ℚ) ≤ 2 ^ 53)]

end AutowarePlanning
