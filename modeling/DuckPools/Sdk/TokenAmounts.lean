import DuckPools.Language.Numbers
import DuckPools.Language.Numerals

/-!
# Token amounts as text

`formatTokenAmount` of `sdk/src/serialization/index.ts` and `PoolFormatters.formatLPAmount` of
`sdk/src/pool/PoolClient.ts`. Both divide by a power of ten that is computed as a number: it is
exact up to `10 ** 22`, rounded from there on, and infinite from `10 ** 309` on.
-/

namespace DuckPools.Sdk

open Numerals

/-- What the formatters take for a `BigInt`. -/
inductive Amount where
  | bigint (n : Int)
  | text (s : Text)
  | number (x : ℚ)

/-- `typeof amount === 'bigint' ? amount : BigInt(amount)`; `none` is the `SyntaxError` of a text
and the `RangeError` of a number with a fraction. -/
def Amount.toBigInt : Amount → Option Int
  | bigint n => some n
  | text s => Js.parseBigInt s
  | number x => Js.bigIntOfNumber x

/-- `BigInt(10 ** decimals)`; `none` is the `RangeError` of `Infinity`. -/
def powerOfTen (decimals : Nat) : Option Int :=
  if decimals < 309 then some (Js.roundToDouble (10 ^ decimals)) else none

/-- `s.padStart(length, '0')` -/
def padStart (length : Nat) (s : Text) : Text := s.leftpad length '0'

def formatTokenAmount (amount : Int) (decimals : Nat := 0) : Option Text :=
  if decimals = 0 then some (Js.bigIntToString amount)
  else do
    let divisor ← powerOfTen decimals
    let whole := amount.tdiv divisor
    let fraction := amount.tmod divisor
    let fractionStr := padStart decimals (Js.bigIntToString fraction)
    let trimmedFraction := trimZeros fractionStr
    if trimmedFraction = [] then return Js.bigIntToString whole
    else return Js.bigIntToString whole ++ '.' :: trimmedFraction

namespace PoolFormatters

def formatLPAmount (amount : Amount) (decimals : Nat := 9) : Option Text := do
  let value ← amount.toBigInt
  let divisor ← powerOfTen decimals
  let whole := value.tdiv divisor
  let fraction := value.tmod divisor
  let fractionStr := trimZeros (padStart decimals (Js.bigIntToString fraction))
  if fractionStr = [] then return Js.bigIntToString whole
  else return Js.bigIntToString whole ++ '.' :: fractionStr

end PoolFormatters

/-- Powers of ten with at most 53 significant bits. -/
theorem powerOfTen_of_le {decimals : Nat} (h : decimals ≤ 22) :
    powerOfTen decimals = some ((10 ^ decimals : Nat) : Int) := by
  have exact : ∀ d ≤ 22, Js.roundToDouble (10 ^ d) = 10 ^ d := by decide +kernel
  rw [powerOfTen, if_pos (by omega), exact decimals h]

variable (n : Nat) {decimals : Nat}

theorem formatLPAmount_eq_fixedPoint (h : decimals ≤ 22) :
    PoolFormatters.formatLPAmount (.bigint n) decimals = some (fixedPoint decimals n) := by
  have power := powerOfTen_of_le h
  rw [PoolFormatters.formatLPAmount, Amount.toBigInt, power]
  simp only [Option.bind_eq_bind, Option.bind_some, ← Int.ofNat_tdiv, ← Int.ofNat_tmod,
    Js.bigIntToString_natCast, padStart, fixedPoint]
  split <;> rfl

theorem formatTokenAmount_eq_fixedPoint (h : decimals ≤ 22) :
    formatTokenAmount n decimals = some (fixedPoint decimals n) := by
  rw [← formatLPAmount_eq_fixedPoint n h, formatTokenAmount]
  split
  · rename_i zero
    subst zero
    have whole : fixedPoint 0 n = Nat.toDigits 10 n := by
      rw [fixedPoint, Nat.pow_zero, Nat.mod_one, Nat.div_one]
      rfl
    rw [formatLPAmount_eq_fixedPoint n h, whole, Js.bigIntToString_natCast]
  · rfl

/-- Both formatters write the exact quotient, in the only canonical way. -/
theorem token_amounts_exact {decimals : Nat} (h : decimals ≤ 22) :
    (∀ amount : Nat, ∃ text,
      formatTokenAmount amount decimals = some text ∧
      PoolFormatters.formatLPAmount (.bigint amount) decimals = some text ∧
      IsCanonical text (amount / 10 ^ decimals)) ∧
    ∀ amount other : Nat, amount ≠ other →
      formatTokenAmount amount decimals ≠ formatTokenAmount other decimals := by
  refine ⟨?_, ?_⟩
  · intro amount
    exact ⟨fixedPoint decimals amount, formatTokenAmount_eq_fixedPoint amount h,
      formatLPAmount_eq_fixedPoint amount h, fixedPoint_isCanonical decimals amount⟩
  · intro amount other differ same
    rw [formatTokenAmount_eq_fixedPoint amount h, formatTokenAmount_eq_fixedPoint other h] at same
    have left := fixedPoint_isCanonical decimals amount
    rw [Option.some.inj same] at left
    have values := left.injective (fixedPoint_isCanonical decimals other)
    rw [div_left_inj' (pow_ne_zero decimals (by norm_num)), Nat.cast_inj] at values
    exact differ values

/-- The decimals of the pool token. -/
theorem token_amounts_exact_nine :
    (∀ amount : Nat, ∃ text,
      formatTokenAmount amount 9 = some text ∧
      PoolFormatters.formatLPAmount (.bigint amount) 9 = some text ∧
      IsCanonical text (amount / 10 ^ 9)) ∧
    ∀ amount other : Nat, amount ≠ other →
      formatTokenAmount amount 9 ≠ formatTokenAmount other 9 :=
  token_amounts_exact (by decide)

end DuckPools.Sdk
