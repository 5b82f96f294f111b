import Mathlib.Algebra.Order.Floor.Semifield
import Mathlib.Data.Int.Log
import Mathlib.Data.Rat.Floor
import Mathlib.Tactic.NormNum

/-!
# Decimals of bounded precision

A decimal is a rational number, and an operation on decimals is the exact one followed by a
rounding to a number of significant digits, towards zero. Exponents have no bounds.

On natural numbers the rounding drops the digits behind the significant ones (`keep`). A
product that is divided and then truncated to an integer is such a computation throughout
(`truncate_div_mul`), and it is the quotient of integers under a condition on digits alone
(`keep_keep_div_eq_iff`), which is met if the product has no more digits than are kept.
-/

namespace DuckPools.Decimal

/-- The integer part. -/
def truncate (x : ℚ) : ℤ := if 0 ≤ x then ⌊x⌋ else ⌈x⌉

/-- The weight of the last of `p` significant digits of `x`. -/
def ulp (p : ℕ) (x : ℚ) : ℚ := 10 ^ (Int.log 10 |x| + 1 - p)

/-- `x` with `p` significant digits, rounded towards zero. -/
def roundDown (p : ℕ) (x : ℚ) : ℚ := truncate (x / ulp p x) * ulp p x

def mul (p : ℕ) (x y : ℚ) : ℚ := roundDown p (x * y)

/-- The divisor is not zero. -/
def div (p : ℕ) (x y : ℚ) : ℚ := roundDown p (x / y)

/-- The number of digits of a natural number. -/
def digits (n : ℕ) : ℕ := Nat.log 10 n + 1

/-- The first `p` digits of `n`, followed by zeros. -/
def keep (p n : ℕ) : ℕ := n / 10 ^ (digits n - p) * 10 ^ (digits n - p)

section Naturals

variable {p n : ℕ}

theorem digits_le (h : n < 10 ^ p) (hp : p ≠ 0) : digits n ≤ p :=
  Nat.log_lt_of_lt_pow' hp h

theorem keep_eq_sub (p n : ℕ) : keep p n = n - n % 10 ^ (digits n - p) := by
  have parts := Nat.div_add_mod' n (10 ^ (digits n - p))
  rw [keep]
  omega

theorem keep_le (p n : ℕ) : keep p n ≤ n := Nat.div_mul_le_self _ _

theorem keep_eq_self_iff : keep p n = n ↔ 10 ^ (digits n - p) ∣ n :=
  (Nat.dvd_iff_div_mul_eq n _).symm

theorem dvd_of_lt (h : n < 10 ^ p) (hp : p ≠ 0) : 10 ^ (digits n - p) ∣ n := by
  rw [Nat.sub_eq_zero_of_le (digits_le h hp), pow_zero]
  exact Nat.one_dvd n

/-- The digits of the dividend that are dropped do not reach the quotient, and neither do
those of the quotient. -/
def ExactQuotient (p n c : ℕ) : Prop :=
  n % 10 ^ (digits n - p) ≤ n % c ∧ 10 ^ (digits (n / c) - p) ∣ n / c

instance (p n c : ℕ) : Decidable (ExactQuotient p n c) :=
  inferInstanceAs (Decidable (_ ∧ _))

theorem exactQuotient_of_lt (h : n < 10 ^ p) (hp : p ≠ 0) (c : ℕ) : ExactQuotient p n c := by
  constructor
  · rw [Nat.mod_eq_zero_of_dvd (dvd_of_lt h hp)]
    exact Nat.zero_le _
  · exact dvd_of_lt (lt_of_le_of_lt (Nat.div_le_self n c) h) hp

theorem keep_div_eq_iff {c : ℕ} (hc : 0 < c) :
    keep p n / c = n / c ↔ n % 10 ^ (digits n - p) ≤ n % c := by
  have parts := Nat.div_add_mod n c
  have small := Nat.mod_lt n hc
  have kept := keep_eq_sub p n
  have dropped := Nat.mod_le n (10 ^ (digits n - p))
  constructor
  · intro h
    have bound : n / c * c ≤ keep p n := by
      rw [← h]
      exact Nat.div_mul_le_self _ _
    rw [Nat.mul_comm] at bound
    omega
  · intro h
    apply Nat.le_antisymm (Nat.div_le_div_right (keep_le p n))
    apply (Nat.le_div_iff_mul_le hc).mpr
    rw [Nat.mul_comm]
    omega

theorem keep_keep_div_le (p n c : ℕ) : keep p (keep p n / c) ≤ n / c :=
  (keep_le p _).trans (Nat.div_le_div_right (keep_le p n))

/-- The two roundings together. -/
theorem keep_keep_div_eq_iff {c : ℕ} (hc : 0 < c) :
    keep p (keep p n / c) = n / c ↔ ExactQuotient p n c := by
  have first := keep_le p (keep p n / c)
  have second : keep p n / c ≤ n / c := Nat.div_le_div_right (keep_le p n)
  rw [ExactQuotient, ← keep_div_eq_iff hc, ← keep_eq_self_iff]
  constructor
  · intro h
    have inner : keep p n / c = n / c := by omega
    rw [inner] at h
    exact ⟨inner, h⟩
  · rintro ⟨inner, outer⟩
    rw [inner, outer]

end Naturals

section Rounding

theorem truncate_of_nonneg {x : ℚ} (h : 0 ≤ x) : truncate x = ⌊x⌋₊ := by
  rw [truncate, if_pos h, ← Int.natCast_floor_eq_floor h]

theorem ulp_pos (p : ℕ) (x : ℚ) : 0 < ulp p x := zpow_pos (by norm_num) _

theorem roundDown_of_nonneg {x : ℚ} (h : 0 ≤ x) (p : ℕ) :
    roundDown p x = ⌊x / ulp p x⌋₊ * ulp p x := by
  rw [roundDown, truncate_of_nonneg (div_nonneg h (ulp_pos p x).le), Int.cast_natCast]

theorem roundDown_nonneg {x : ℚ} (h : 0 ≤ x) (p : ℕ) : 0 ≤ roundDown p x := by
  rw [roundDown_of_nonneg h]
  exact mul_nonneg (Nat.cast_nonneg _) (ulp_pos p x).le

theorem roundDown_le {x : ℚ} (h : 0 ≤ x) (p : ℕ) : roundDown p x ≤ x := by
  have unit := ulp_pos p x
  calc roundDown p x = ⌊x / ulp p x⌋₊ * ulp p x := roundDown_of_nonneg h p
    _ ≤ x / ulp p x * ulp p x :=
      mul_le_mul_of_nonneg_right (Nat.floor_le (div_nonneg h unit.le)) unit.le
    _ = x := div_mul_cancel₀ x unit.ne'

/-- From one on, the integer part has the digits before the point. -/
theorem ulp_of_one_le {x : ℚ} (h : 1 ≤ x) (p : ℕ) :
    ulp p x = 10 ^ ((digits ⌊x⌋₊ : ℤ) - p) := by
  rw [ulp, abs_of_nonneg (zero_le_one.trans h), Int.log_of_one_le_right 10 h, digits]
  norm_num

theorem zpow_sub_of_le {d p : ℕ} (h : d ≤ p) :
    (10 : ℚ) ^ ((d : ℤ) - p) = 1 / ((10 ^ (p - d) : ℕ) : ℚ) := by
  rw [← neg_sub, zpow_neg, ← Nat.cast_sub h, zpow_natCast, one_div, Nat.cast_pow, Nat.cast_ofNat]

theorem zpow_sub_of_ge {d p : ℕ} (h : p ≤ d) :
    (10 : ℚ) ^ ((d : ℤ) - p) = ((10 ^ (d - p) : ℕ) : ℚ) := by
  rw [← Nat.cast_sub h, zpow_natCast, Nat.cast_pow, Nat.cast_ofNat]

theorem keep_of_digits_le {p n : ℕ} (h : digits n ≤ p) : keep p n = n := by
  rw [keep, Nat.sub_eq_zero_of_le h, pow_zero, Nat.div_one, Nat.mul_one]

theorem keep_zero (p : ℕ) : keep p 0 = 0 := by
  rw [keep, Nat.zero_div, Nat.zero_mul]

theorem scale_ne_zero (k : ℕ) : ((10 ^ k : ℕ) : ℚ) ≠ 0 :=
  Nat.cast_ne_zero.mpr (Nat.pow_pos (by decide)).ne'

/-- Rounding a number rounds its integer part: the digits behind the point that are kept
do not matter, and none is kept if there are too many before it. -/
theorem floor_roundDown {x : ℚ} (h : 0 ≤ x) (p : ℕ) : ⌊roundDown p x⌋₊ = keep p ⌊x⌋₊ := by
  by_cases hone : 1 ≤ x
  · rw [roundDown_of_nonneg h, ulp_of_one_le hone]
    by_cases hdigits : digits ⌊x⌋₊ ≤ p
    · rw [zpow_sub_of_le hdigits, mul_one_div, div_div_eq_mul_div, div_one,
        Nat.floor_div_natCast, Nat.floor_natCast, ← Nat.floor_div_natCast,
        mul_div_cancel_right₀ x (scale_ne_zero _), keep_of_digits_le hdigits]
    · rw [zpow_sub_of_ge (Nat.le_of_not_le hdigits), Nat.floor_div_natCast, ← Nat.cast_mul,
        Nat.floor_natCast, keep]
  · have small := lt_of_not_ge hone
    have rounded : ⌊roundDown p x⌋₊ = 0 :=
      Nat.floor_eq_zero.mpr ((roundDown_le h p).trans_lt small)
    rw [rounded, Nat.floor_eq_zero.mpr small, keep_zero]

/-- A natural number is rounded to one. -/
theorem roundDown_natCast (p n : ℕ) : roundDown p n = keep p n := by
  cases Nat.eq_zero_or_pos n with
  | inl hzero =>
      rw [hzero, roundDown_of_nonneg (Nat.cast_nonneg 0), Nat.cast_zero, zero_div, Nat.floor_zero,
        Nat.cast_zero, zero_mul, keep_zero, Nat.cast_zero]
  | inr hpos =>
      have hone : (1 : ℚ) ≤ n := Nat.one_le_cast.mpr hpos
      rw [roundDown_of_nonneg (Nat.cast_nonneg n), ulp_of_one_le hone, Nat.floor_natCast]
      by_cases hdigits : digits n ≤ p
      · rw [zpow_sub_of_le hdigits, div_div_eq_mul_div, div_one, ← Nat.cast_mul,
          Nat.floor_natCast, mul_one_div, Nat.cast_mul,
          mul_div_cancel_right₀ _ (scale_ne_zero _), keep_of_digits_le hdigits]
      · rw [zpow_sub_of_ge (Nat.le_of_not_le hdigits), Nat.floor_div_natCast, Nat.floor_natCast,
          ← Nat.cast_mul, keep]

/-- A product, a quotient and a truncation, on natural numbers. -/
theorem truncate_div_mul (p a b c : ℕ) :
    truncate (div p (mul p a b) c) = keep p (keep p (a * b) / c) := by
  have product : mul p a b = keep p (a * b) := by
    rw [mul, ← Nat.cast_mul, roundDown_natCast]
  have quotient : (0 : ℚ) ≤ (keep p (a * b) : ℕ) / (c : ℕ) :=
    div_nonneg (Nat.cast_nonneg _) (Nat.cast_nonneg _)
  rw [product, div, truncate_of_nonneg (roundDown_nonneg quotient p), floor_roundDown quotient,
    Nat.floor_div_natCast, Nat.floor_natCast]

end Rounding

end DuckPools.Decimal
