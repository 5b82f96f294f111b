import DuckPools.Codec.Vlq
import Mathlib.Algebra.Group.Nat.Defs
import Mathlib.Algebra.Ring.Int.Defs
import Mathlib.Data.Nat.Log
import Mathlib.Data.Rat.Floor

/-!
# JavaScript numbers

Numbers that stand for integers are integers here. The bitwise operators convert their
operands to 32 bits and return a signed number; `Number(n)` of a `BigInt` keeps 53
significant bits. Exponents have no upper limit: what would be infinite becomes the word
0 in every place where such a number is used, and so does a multiple of `2 ^ 32`.
-/

namespace DuckPools.Js

/-- `ToInt32` -/
def toInt32 (n : Int) : BitVec 32 := BitVec.ofInt 32 n

/-- The nearest number with 53 significant bits, ties to even. -/
def roundToDouble (n : Nat) : Nat :=
  if n < 2 ^ 53 then n
  else
    let ulp := 2 ^ (Nat.log 2 n - 52)
    let q := n / ulp
    let r := n % ulp
    if 2 * r < ulp ∨ (2 * r = ulp ∧ q % 2 = 0) then q * ulp else (q + 1) * ulp

/-- `Number(n)` -/
def numberOfBigInt (n : Int) : Int := n.sign * roundToDouble n.natAbs

/-- `BigInt(x)` of a number; `none` is the `RangeError` of one with a fraction. -/
def bigIntOfNumber (x : ℚ) : Option Int := if x.den = 1 then some x.num else none

/-- `BigInt.asUintN(bits, n)` -/
def asUintN (bits : Nat) (n : Int) : Int := n % 2 ^ bits

/-- `Math.round(x)` -/
def round (x : ℚ) : Int := ⌊x + 1 / 2⌋

/-- `(value << 1) ^ (value >> 31)`, before it is read as a signed number. -/
def zigzagEncode32 (value : Int) : BitVec 32 :=
  toInt32 value <<< 1 ^^^ (toInt32 value).sshiftRight 31

/-- `(value >>> 1) ^ -(value & 1)` -/
def zigzagDecode32 (value : Int) : Int :=
  (toInt32 value >>> 1 ^^^ -(toInt32 value &&& 1)).toInt

theorem numberOfBigInt_eq (n : Nat) : numberOfBigInt n = roundToDouble n := by
  rw [numberOfBigInt, Int.natAbs_natCast]
  cases n with
  | zero => rfl
  | succ n => rw [Int.sign_natCast_of_ne_zero (Nat.succ_ne_zero n), Int.one_mul]

theorem numberOfBigInt_natCast {n : Nat} (h : n < 2 ^ 53) : numberOfBigInt n = n := by
  rw [numberOfBigInt_eq, roundToDouble, if_pos h]

theorem toInt_ofNat32 {m : Nat} (h : m < 2 ^ 31) : (BitVec.ofNat 32 m).toInt = m := by
  have hnat : (BitVec.ofNat 32 m).toNat = m := by
    rw [BitVec.toNat_ofNat, Nat.mod_eq_of_lt (by omega)]
  rw [BitVec.toInt_eq_toNat_of_lt (by omega), hnat]

/-- The zigzag step on 32-bit words. -/
theorem unzigzag32 {n : Nat} (hn : n < 2 ^ 32) :
    (BitVec.ofNat 32 n >>> 1 ^^^ -(BitVec.ofNat 32 n &&& 1)).toInt = Vlq.unzigzag n := by
  have half : (BitVec.ofNat 32 n >>> 1) = BitVec.ofNat 32 (n / 2) := by
    apply BitVec.eq_of_toNat_eq
    simp only [BitVec.toNat_ushiftRight, BitVec.toNat_ofNat, Nat.shiftRight_one]
    omega
  have low : (BitVec.ofNat 32 n &&& 1) = BitVec.ofNat 32 (n % 2) := by
    apply BitVec.eq_of_toNat_eq
    have one : BitVec.toNat (1 : BitVec 32) = 1 := rfl
    simp only [BitVec.toNat_and, BitVec.toNat_ofNat, one, Nat.and_one_is_mod]
    omega
  have hhalf : n / 2 < 2 ^ 31 := by omega
  rw [half, low, Vlq.unzigzag]
  cases Nat.mod_two_eq_zero_or_one n with
  | inl hbit =>
      have zero : -(BitVec.ofNat 32 0) = 0#32 := by decide
      rw [hbit, if_pos rfl, zero, BitVec.xor_zero, toInt_ofNat32 hhalf]
  | inr hbit =>
      have ones : -(BitVec.ofNat 32 1) = BitVec.allOnes 32 := by decide
      rw [hbit, if_neg (by decide), ones, BitVec.xor_allOnes, BitVec.toInt_not, BitVec.toNat_ofNat,
        Nat.mod_eq_of_lt (by omega), Int.bmod_def]
      split <;> omega

/-- On 32-bit numbers the word is the folded number, read without a sign. -/
theorem toNat_zigzagEncode32 {n : Int} (hlo : -2 ^ 31 ≤ n) (hhi : n < 2 ^ 31) :
    (zigzagEncode32 n).toNat = Vlq.zigzag n := by
  have read : (BitVec.ofInt 32 n).toInt = n := by
    rw [BitVec.toInt_ofInt, Int.bmod_def]
    split <;> omega
  have sign : ((BitVec.ofInt 32 n).sshiftRight 31).toInt = n / 2 ^ 31 := by
    rw [BitVec.toInt_sshiftRight, read, Int.shiftRight_eq_div_pow]
    rfl
  by_cases h : 0 ≤ n
  · have noSign : (BitVec.ofInt 32 n).sshiftRight 31 = 0#32 := by
      apply BitVec.eq_of_toInt_eq
      rw [sign, Int.ediv_eq_zero_of_lt h hhi]
      rfl
    rw [zigzagEncode32, toInt32, noSign, BitVec.xor_zero, BitVec.toNat_shiftLeft,
      BitVec.toNat_ofInt, Nat.shiftLeft_eq, Vlq.zigzag, if_pos h]
    omega
  · have allSign : (BitVec.ofInt 32 n).sshiftRight 31 = BitVec.allOnes 32 := by
      apply BitVec.eq_of_toInt_eq
      rw [sign, BitVec.toInt_allOnes]
      omega
    rw [zigzagEncode32, toInt32, allSign, BitVec.xor_allOnes, BitVec.toNat_not,
      BitVec.toNat_shiftLeft, BitVec.toNat_ofInt, Nat.shiftLeft_eq, Vlq.zigzag, if_neg h]
    omega

theorem zigzag_lt {n : Int} (hlo : -2 ^ 31 ≤ n) (hhi : n < 2 ^ 31) : Vlq.zigzag n < 2 ^ 32 := by
  rw [← toNat_zigzagEncode32 hlo hhi]
  exact BitVec.isLt _

theorem zigzagDecode32_zigzag {n : Int} (hlo : -2 ^ 31 ≤ n) (hhi : n < 2 ^ 31) :
    zigzagDecode32 (Vlq.zigzag n) = n := by
  rw [zigzagDecode32, toInt32, BitVec.ofInt_natCast, unzigzag32 (zigzag_lt hlo hhi),
    Vlq.unzigzag_zigzag]

end DuckPools.Js
