import Mathlib.Algebra.Order.Field.Rat
import Mathlib.Data.Int.Log
import Mathlib.Data.Rat.Floor
import Mathlib.Tactic.Linarith
import Mathlib.Tactic.NormNum

/-!
# Floating point results as rational numbers

A double is its exact value. A quotient of integers and a decimal rounding are computed
exactly and then rounded to 53 significant bits, ties to even. The range of the exponent is
left out: it has no effect between the smallest and the largest normal number.
-/

namespace DuckPools.Doubles

/-- The nearest integer, ties to even. -/
def roundHalfEven (x : ℚ) : ℤ :=
  if x - ⌊x⌋ < 1 / 2 then ⌊x⌋
  else if 1 / 2 < x - ⌊x⌋ then ⌊x⌋ + 1
  else if ⌊x⌋ % 2 = 0 then ⌊x⌋
  else ⌊x⌋ + 1

/-- The distance of the doubles around `x`. -/
def ulp (x : ℚ) : ℚ := 2 ^ (Int.log 2 |x| - 52)

def toDouble (x : ℚ) : ℚ := if x = 0 then 0 else roundHalfEven (x / ulp x) * ulp x

/-- `a / b` of integers -/
def div (a b : ℤ) : ℚ := toDouble (a / b)

/-- `round(x, digits)` -/
def roundDigits (x : ℚ) (digits : ℕ) : ℚ := toDouble (roundHalfEven (x * 10 ^ digits) / 10 ^ digits)

theorem roundHalfEven_cases (x : ℚ) :
    roundHalfEven x = ⌊x⌋ ∨ (roundHalfEven x = ⌊x⌋ + 1 ∧ (⌊x⌋ : ℚ) < x) := by
  rw [roundHalfEven]
  split_ifs with below above even
  · exact Or.inl rfl
  · exact Or.inr ⟨rfl, by linarith⟩
  · exact Or.inl rfl
  · exact Or.inr ⟨rfl, by linarith⟩

/-- Rounding does not pass an integer. -/
theorem le_roundHalfEven {n : ℤ} {x : ℚ} (h : (n : ℚ) ≤ x) : n ≤ roundHalfEven x := by
  have floor : n ≤ ⌊x⌋ := Int.le_floor.mpr h
  obtain same | ⟨next, -⟩ := roundHalfEven_cases x <;> omega

theorem roundHalfEven_le {n : ℤ} {x : ℚ} (h : x ≤ n) : roundHalfEven x ≤ n := by
  obtain same | ⟨next, above⟩ := roundHalfEven_cases x
  · rw [same]
    exact Int.cast_le.mp ((Int.floor_le x).trans h)
  · have floor : ⌊x⌋ < n := Int.cast_lt.mp (above.trans_le h)
    omega

theorem ulp_pos (x : ℚ) : 0 < ulp x := zpow_pos two_pos _

variable {x : ℚ}

theorem toDouble_nonneg (h : 0 ≤ x) : 0 ≤ toDouble x := by
  rw [toDouble]
  split
  · exact le_refl 0
  · have scaled : ((0 : ℤ) : ℚ) ≤ x / ulp x := by
      rw [Int.cast_zero]
      exact div_nonneg h (ulp_pos x).le
    exact mul_nonneg (Int.cast_nonneg (le_roundHalfEven scaled)) (ulp_pos x).le

/-- One is a double, and it is the end of a binade. -/
theorem toDouble_le_one (hx : 0 ≤ x) (h : x ≤ 1) : toDouble x ≤ 1 := by
  rw [toDouble]
  split
  · exact zero_le_one
  · rename_i nonzero
    have positive : 0 < x := lt_of_le_of_ne hx (Ne.symm nonzero)
    -- the scaled number stays below the next power of two, which is at most one
    obtain ⟨top, fits, above⟩ : ∃ top : ℤ, (top : ℚ) * ulp x ≤ 1 ∧ x / ulp x ≤ top := by
      cases lt_or_eq_of_le h with
      | inl below =>
          have log : Int.log 2 |x| < 0 := by
            rw [abs_of_pos positive]
            exact (Int.lt_zpow_iff_log_lt (by decide) positive).mp (by simpa using below)
          have upper : x < (2 : ℚ) ^ (Int.log 2 |x| + 1) := by
            have := Int.lt_zpow_succ_log_self (b := 2) (by decide) |x|
            rwa [abs_of_pos positive] at this ⊢
          have scale : (2 : ℚ) ^ (53 : ℕ) * ulp x = 2 ^ (Int.log 2 |x| + 1) := by
            rw [ulp, ← zpow_natCast, ← zpow_add₀ two_ne_zero]
            congr 1
            norm_num
            ring
          refine ⟨2 ^ 53, ?_, ?_⟩
          · rw [Int.cast_pow, Int.cast_ofNat, scale]
            exact zpow_le_one_of_nonpos₀ one_le_two (by omega)
          · rw [Int.cast_pow, Int.cast_ofNat, div_le_iff₀ (ulp_pos x), scale]
            exact upper.le
      | inr one =>
          subst one
          have unit : ulp 1 = 1 / 2 ^ 52 := by
            rw [ulp, abs_one, Int.log_one_right]
            norm_num
          rw [unit]
          exact ⟨2 ^ 52, by norm_num, by norm_num⟩
    calc (roundHalfEven (x / ulp x) : ℚ) * ulp x
        ≤ top * ulp x :=
          mul_le_mul_of_nonneg_right (Int.cast_le.mpr (roundHalfEven_le above)) (ulp_pos x).le
      _ ≤ 1 := fits

theorem div_mem_unit {a b : ℤ} (ha : 0 ≤ a) (hb : 0 < b) (h : a ≤ b) :
    0 ≤ div a b ∧ div a b ≤ 1 := by
  have bottom : (0 : ℚ) ≤ a / b := div_nonneg (Int.cast_nonneg ha) (Int.cast_nonneg hb.le)
  have top : (a : ℚ) / b ≤ 1 := div_le_one_of_le₀ (Int.cast_le.mpr h) (Int.cast_nonneg hb.le)
  exact ⟨toDouble_nonneg bottom, toDouble_le_one bottom top⟩

theorem roundDigits_mem_unit (hx : 0 ≤ x) (h : x ≤ 1) (digits : ℕ) :
    0 ≤ roundDigits x digits ∧ roundDigits x digits ≤ 1 := by
  have scale : (0 : ℚ) < 10 ^ digits := pow_pos (by norm_num) digits
  have low : (0 : ℤ) ≤ roundHalfEven (x * 10 ^ digits) := by
    apply le_roundHalfEven
    rw [Int.cast_zero]
    exact mul_nonneg hx scale.le
  have high : roundHalfEven (x * 10 ^ digits) ≤ (10 ^ digits : ℕ) := by
    apply roundHalfEven_le
    rw [Int.cast_natCast, Nat.cast_pow, Nat.cast_ofNat]
    exact mul_le_of_le_one_left scale.le h
  have bottom : (0 : ℚ) ≤ roundHalfEven (x * 10 ^ digits) / 10 ^ digits :=
    div_nonneg (Int.cast_nonneg low) scale.le
  have top : (roundHalfEven (x * 10 ^ digits) : ℚ) / 10 ^ digits ≤ 1 := by
    apply div_le_one_of_le₀ _ scale.le
    calc (roundHalfEven (x * 10 ^ digits) : ℚ)
        ≤ (((10 ^ digits : ℕ) : ℤ) : ℚ) := Int.cast_le.mpr high
      _ = 10 ^ digits := by rw [Int.cast_natCast, Nat.cast_pow, Nat.cast_ofNat]
  exact ⟨toDouble_nonneg bottom, toDouble_le_one bottom top⟩

end DuckPools.Doubles
