import DuckPools.Language.Decimal

/-!
# Share formulas of `backend/pool_manager.py`

Each formula multiplies and divides decimals of fifty digits and truncates the quotient. On
natural numbers it is the quotient of integers as long as the product has no more digits.
-/

namespace DuckPools.Backend.PoolManager

open Decimal

def PRECISION_FACTOR : Int := 1_000_000_000

/-- `getcontext().prec` -/
def prec : Nat := 50

def calculatePricePerShare (totalValue totalSupply : Int)
    (precision : Int := PRECISION_FACTOR) : Int :=
  if totalSupply = 0 ∨ totalValue = 0 then precision
  else Decimal.truncate (div prec (mul prec totalValue precision) totalSupply)

def calculateDepositShares (depositAmount totalValue totalSupply : Int) : Int :=
  if totalSupply = 0 ∨ totalValue = 0 then depositAmount
  else Decimal.truncate (div prec (mul prec depositAmount totalSupply) totalValue)

def calculateWithdrawErg (burnAmount totalValue totalSupply : Int) : Int :=
  if totalSupply = 0 then 0
  else Decimal.truncate (div prec (mul prec burnAmount totalValue) totalSupply)

def calculateSharesToBurnForErg (desiredErg totalValue totalSupply : Int) : Int :=
  if totalValue = 0 ∨ totalSupply = 0 then 0
  else Decimal.truncate (div prec (mul prec desiredErg totalSupply) totalValue)

section Formulas

/-- `n / c` in decimals of fifty digits, truncated. -/
def decimalQuotient (n c : Nat) : Nat := keep prec (keep prec n / c)

theorem decimalQuotient_le (n c : Nat) : decimalQuotient n c ≤ n / c := keep_keep_div_le _ _ _

theorem decimalQuotient_eq_iff {n c : Nat} (hc : 0 < c) :
    decimalQuotient n c = n / c ↔ ExactQuotient prec n c := keep_keep_div_eq_iff hc

theorem decimalQuotient_of_lt {n c : Nat} (hn : n < 10 ^ 50) (hc : 0 < c) :
    decimalQuotient n c = n / c :=
  (decimalQuotient_eq_iff hc).mpr (exactQuotient_of_lt hn (by decide) c)

/-- On natural numbers. -/
theorem truncate_div_mul_cast (a b c : Nat) :
    Decimal.truncate (div prec (mul prec (a : Int) (b : Int)) (c : Int)) =
      decimalQuotient (a * b) c := by
  simp only [Int.cast_natCast]
  rw [truncate_div_mul, decimalQuotient]

variable {value supply : Nat}

theorem calculatePricePerShare_natCast (hvalue : value ≠ 0) (hsupply : supply ≠ 0)
    (precision : Nat) :
    calculatePricePerShare value supply precision = decimalQuotient (value * precision) supply := by
  rw [calculatePricePerShare, if_neg (by omega), truncate_div_mul_cast]

theorem calculateDepositShares_natCast (hvalue : value ≠ 0) (hsupply : supply ≠ 0)
    (amount : Nat) :
    calculateDepositShares amount value supply = decimalQuotient (amount * supply) value := by
  rw [calculateDepositShares, if_neg (by omega), truncate_div_mul_cast]

theorem calculateWithdrawErg_natCast (hsupply : supply ≠ 0) (burn value : Nat) :
    calculateWithdrawErg burn value supply = decimalQuotient (burn * value) supply := by
  rw [calculateWithdrawErg, if_neg (by omega), truncate_div_mul_cast]

theorem calculateSharesToBurnForErg_natCast (hvalue : value ≠ 0) (hsupply : supply ≠ 0)
    (erg : Nat) :
    calculateSharesToBurnForErg erg value supply = decimalQuotient (erg * supply) value := by
  rw [calculateSharesToBurnForErg, if_neg (by omega), truncate_div_mul_cast]

end Formulas

end DuckPools.Backend.PoolManager
