import DuckPools.Language.Numbers

/-!
# How a natural number becomes a JavaScript number

Between two powers of two the numbers with 53 significant bits are the multiples of a step,
and `roundToDouble` takes the nearer neighbour. `roundToDouble_split` is this for a number that
is written with its step; the other facts follow from it: which numbers are kept, and that
rounding passes none of those.
-/

namespace DuckPools.Js

/-- A natural number with at most 53 significant bits. -/
def IsDouble (n : Nat) : Prop := ∃ m e, m < 2 ^ 53 ∧ n = m * 2 ^ e

theorem isDouble_of_lt {n : Nat} (h : n < 2 ^ 53) : IsDouble n := ⟨n, 0, h, (Nat.mul_one n).symm⟩

theorem isDouble_two_pow (k : Nat) : IsDouble (2 ^ k) := ⟨1, k, by decide, (Nat.one_mul _).symm⟩

theorem isDouble_two_mul_iff (n : Nat) : IsDouble (2 * n) ↔ IsDouble n := by
  constructor
  · rintro ⟨m, e, hm, same⟩
    cases e with
    | zero => exact isDouble_of_lt (by omega)
    | succ e =>
        rw [Nat.pow_succ] at same
        exact ⟨m, e, hm, by linarith⟩
  · rintro ⟨m, e, hm, rfl⟩
    exact ⟨m, e + 1, hm, by ring⟩

section Split

variable {q k r : Nat}

theorem exists_split {n : Nat} (h : 2 ^ 52 ≤ n) :
    ∃ q k r, 2 ^ 52 ≤ q ∧ q < 2 ^ 53 ∧ r < 2 ^ k ∧ n = q * 2 ^ k + r := by
  have nonzero : n ≠ 0 := by
    rintro rfl
    exact absurd h (by decide)
  have long : 52 ≤ Nat.log 2 n := (Nat.le_log_iff_pow_le (by decide) nonzero).mpr h
  have power : 2 ^ Nat.log 2 n = 2 ^ 52 * 2 ^ (Nat.log 2 n - 52) := by
    rw [← Nat.pow_add]
    congr 1
    omega
  refine ⟨n / 2 ^ (Nat.log 2 n - 52), Nat.log 2 n - 52, n % 2 ^ (Nat.log 2 n - 52), ?_, ?_,
    Nat.mod_lt _ (Nat.two_pow_pos _), (Nat.div_add_mod' n _).symm⟩
  · rw [Nat.le_div_iff_mul_le (Nat.two_pow_pos _), ← power]
    exact Nat.pow_log_le_self 2 nonzero
  · rw [Nat.div_lt_iff_lt_mul (Nat.two_pow_pos _)]
    have upper := Nat.lt_pow_succ_log_self (b := 2) (by decide) n
    rw [Nat.pow_succ, power] at upper
    linarith

/-- The nearer neighbour, and between two the even one. -/
theorem roundToDouble_split (low : 2 ^ 52 ≤ q) (high : q < 2 ^ 53) (hr : r < 2 ^ k) :
    roundToDouble (q * 2 ^ k + r) =
      if 2 * r < 2 ^ k ∨ (2 * r = 2 ^ k ∧ q % 2 = 0) then q * 2 ^ k else (q + 1) * 2 ^ k := by
  cases k with
  | zero =>
      obtain rfl : r = 0 := by omega
      rw [roundToDouble, if_pos (by omega), if_pos (.inl (by decide))]
      rfl
  | succ k =>
      have below : 2 ^ 52 * 2 ^ (k + 1) ≤ q * 2 ^ (k + 1) := Nat.mul_le_mul_right _ low
      have above : (q + 1) * 2 ^ (k + 1) ≤ 2 ^ 53 * 2 ^ (k + 1) := Nat.mul_le_mul_right _ high
      rw [Nat.succ_mul] at above
      have large : ¬ q * 2 ^ (k + 1) + r < 2 ^ 53 := by
        have step : 2 ≤ 2 ^ (k + 1) := Nat.le_self_pow (Nat.succ_ne_zero k) 2
        omega
      have log : Nat.log 2 (q * 2 ^ (k + 1) + r) = 52 + (k + 1) := by
        have bottom : 2 ^ (52 + (k + 1)) = 2 ^ 52 * 2 ^ (k + 1) := Nat.pow_add 2 52 (k + 1)
        have top : 2 ^ (52 + (k + 1) + 1) = 2 ^ 53 * 2 ^ (k + 1) := by
          rw [← Nat.pow_add]
          congr 1
          omega
        exact Nat.log_eq_of_pow_le_of_lt_pow (by omega) (by omega)
      have quotient : (q * 2 ^ (k + 1) + r) / 2 ^ (k + 1) = q := by
        rw [Nat.mul_comm, Nat.mul_add_div (Nat.two_pow_pos _), Nat.div_eq_of_lt hr, Nat.add_zero]
      have remainder : (q * 2 ^ (k + 1) + r) % 2 ^ (k + 1) = r := by
        rw [Nat.mul_comm, Nat.mul_add_mod, Nat.mod_eq_of_lt hr]
      rw [roundToDouble, if_neg large]
      simp only [log, Nat.add_sub_cancel_left, quotient, remainder]

theorem isDouble_split_iff (low : 2 ^ 52 ≤ q) (high : q < 2 ^ 53) (hr : r < 2 ^ k) :
    IsDouble (q * 2 ^ k + r) ↔ r = 0 := by
  constructor
  · rintro ⟨m, e, hm, same⟩
    by_cases h : k ≤ e
    · have divides : 2 ^ k ∣ q * 2 ^ k + r := by
        rw [same]
        exact (Nat.pow_dvd_pow 2 h).mul_left m
      exact Nat.eq_zero_of_dvd_of_lt ((Nat.dvd_add_right (Nat.dvd_mul_left _ q)).mp divides) hr
    · -- a smaller exponent leaves too few bits
      have step : 2 ^ e * 2 ≤ 2 ^ k := by
        rw [← Nat.pow_succ]
        exact Nat.pow_le_pow_right (by decide) (by omega)
      have bits : m * 2 ^ e < 2 ^ 53 * 2 ^ e := Nat.mul_lt_mul_of_pos_right hm (Nat.two_pow_pos e)
      have size : 2 ^ 52 * 2 ^ k ≤ q * 2 ^ k := Nat.mul_le_mul_right _ low
      omega
  · rintro rfl
    exact ⟨q, k, high, Nat.add_zero _⟩

end Split

theorem roundToDouble_eq_self_iff (n : Nat) : roundToDouble n = n ↔ IsDouble n := by
  by_cases small : n < 2 ^ 53
  · rw [roundToDouble, if_pos small]
    exact iff_of_true rfl (isDouble_of_lt small)
  · obtain ⟨q, k, r, low, high, hr, rfl⟩ := exists_split (n := n) (by omega)
    rw [isDouble_split_iff low high hr, roundToDouble_split low high hr]
    have step : (q + 1) * 2 ^ k = q * 2 ^ k + 2 ^ k := Nat.succ_mul q (2 ^ k)
    split_ifs with near
    · omega
    · have positive := Nat.two_pow_pos k
      omega

theorem isDouble_roundToDouble (n : Nat) : IsDouble (roundToDouble n) := by
  by_cases small : n < 2 ^ 53
  · rw [roundToDouble, if_pos small]
    exact isDouble_of_lt small
  · obtain ⟨q, k, r, low, high, hr, rfl⟩ := exists_split (n := n) (by omega)
    rw [roundToDouble_split low high hr]
    split_ifs
    · exact ⟨q, k, high, rfl⟩
    · by_cases carry : q + 1 < 2 ^ 53
      · exact ⟨q + 1, k, carry, rfl⟩
      · obtain carried : q + 1 = 2 ^ 53 := by omega
        rw [carried, ← Nat.pow_add]
        exact isDouble_two_pow _

/-- Rounding does not pass a number that is kept. -/
theorem roundToDouble_le {n m : Nat} (hm : IsDouble m) (h : n ≤ m) : roundToDouble n ≤ m := by
  by_cases small : n < 2 ^ 53
  · rw [roundToDouble, if_pos small]
    exact h
  · obtain ⟨q, k, r, low, high, hr, rfl⟩ := exists_split (n := n) (by omega)
    rw [roundToDouble_split low high hr]
    have step : (q + 1) * 2 ^ k = q * 2 ^ k + 2 ^ k := Nat.succ_mul q (2 ^ k)
    split_ifs with near
    · omega
    · by_contra between
      have split : m = q * 2 ^ k + (m - q * 2 ^ k) := by omega
      rw [split, isDouble_split_iff low high (by omega)] at hm
      have positive := Nat.two_pow_pos k
      omega

theorem le_roundToDouble {n m : Nat} (hm : IsDouble m) (h : m ≤ n) : m ≤ roundToDouble n := by
  by_cases small : n < 2 ^ 53
  · rw [roundToDouble, if_pos small]
    exact h
  · obtain ⟨q, k, r, low, high, hr, rfl⟩ := exists_split (n := n) (by omega)
    have below : m ≤ q * 2 ^ k := by
      by_contra between
      have split : m = q * 2 ^ k + (m - q * 2 ^ k) := by omega
      rw [split, isDouble_split_iff low high (by omega)] at hm
      omega
    have step : (q + 1) * 2 ^ k = q * 2 ^ k + 2 ^ k := Nat.succ_mul q (2 ^ k)
    rw [roundToDouble_split low high hr]
    split_ifs <;> omega

/-- What is rounded from a large number is a multiple of its step. -/
theorem dvd_roundToDouble {n k : Nat} (h : 2 ^ (52 + k) ≤ n) : 2 ^ k ∣ roundToDouble n := by
  have long : 2 ^ 52 ≤ n := le_trans (Nat.pow_le_pow_right (by decide) (by omega)) h
  obtain ⟨q, e, r, low, high, hr, rfl⟩ := exists_split long
  have exponent : k ≤ e := by
    by_contra shorter
    have upper : (q + 1) * 2 ^ e ≤ 2 ^ 53 * 2 ^ e := Nat.mul_le_mul_right _ high
    have power : 2 ^ 53 * 2 ^ e ≤ 2 ^ (52 + k) := by
      rw [← Nat.pow_add]
      exact Nat.pow_le_pow_right (by decide) (by omega)
    have step : (q + 1) * 2 ^ e = q * 2 ^ e + 2 ^ e := Nat.succ_mul q (2 ^ e)
    omega
  rw [roundToDouble_split low high hr]
  split_ifs
  · exact (Nat.pow_dvd_pow 2 exponent).mul_left q
  · exact (Nat.pow_dvd_pow 2 exponent).mul_left (q + 1)

end DuckPools.Js
