import DuckPools.Codec.Vlq
import Mathlib.Data.Int.Bitwise
import Mathlib.Tactic.Ring

/-!
# Zigzag and variable-length quantities in integers without a width

Python's `int` and JavaScript's `BigInt` have no width: their operators `<<`, `>>`, `&`,
`|` and `^` act on two's complement expansions without end. The sources that use them
fold signed numbers and write and read their groups in the same few lines, which are
stated once here.

A shift by the sign position is the sign of a number that fits, so the folding step is
`Vlq.zigzag` exactly on the numbers of that width. The loops have no such bound.
-/

namespace DuckPools.Integers

/-- `(n << 1) ^ (n >> sign)`, for numbers whose sign bit is at `sign`. -/
def zigzagEncode (sign : Nat) (n : Int) : Int :=
  Int.xor (Int.shiftLeft n 1) (Int.shiftRight n sign)

/-- `(z >> 1) ^ -(z & 1)` -/
def zigzagDecode (z : Int) : Int := Int.xor (Int.shiftRight z 1) (-Int.land z 1)

theorem shiftRight_seven_lt {n : Int} (h : 0 < n) : (Int.shiftRight n 7).toNat < n.toNat := by
  cases n with
  | ofNat m =>
      simp only [Int.ofNat_eq_natCast, Int.natCast_pos] at h
      simp only [Int.shiftRight, Int.ofNat_eq_natCast, Int.toNat_natCast, Nat.shiftRight_eq_div_pow]
      exact Nat.div_lt_self h (by decide)
  | negSucc m => exact absurd h (by omega)

/-- `while (remaining > 0)`: seven bits a byte, the top bit set if more follow. -/
def vlqGroups (remaining : Int) : Bytes :=
  if _h : 0 < remaining then
    let byte := BitVec.ofInt 8 (Int.land remaining 0x7f)
    let rest := Int.shiftRight remaining 7
    (if 0 < rest then byte ||| 0x80 else byte) :: vlqGroups rest
  else []
termination_by remaining.toNat
decreasing_by exact shiftRight_seven_lt ‹_›

/-- `value |= (byte & 0x7f) << shift`, up to a byte without the top bit; the bytes after it
are left over. -/
def readVlq : Bytes → Int → Nat → Int × Bytes
  | [], value, _ => (value, [])
  | byte :: rest, value, shift =>
      let value := Int.lor value (Int.shiftLeft (Int.land byte.toNat 0x7f) shift)
      if Int.land byte.toNat 0x80 = 0 then (value, rest) else readVlq rest value (shift + 7)

theorem zigzagEncode_eq {sign : Nat} {n : Int} (hlo : -2 ^ sign ≤ n) (hhi : n < 2 ^ sign) :
    zigzagEncode sign n = Vlq.zigzag n := by
  cases n with
  | ofNat m =>
      have hm : m < 2 ^ sign := by
        simp only [Int.ofNat_eq_natCast] at hhi
        exact_mod_cast hhi
      have noSign : m >>> sign = 0 := by
        rw [Nat.shiftRight_eq_div_pow, Nat.div_eq_of_lt hm]
      have folded : zigzagEncode sign (Int.ofNat m) = ((m <<< 1 ^^^ m >>> sign : Nat) : Int) := rfl
      rw [folded, noSign, Nat.xor_zero, Nat.shiftLeft_eq, Vlq.zigzag]
      split <;> simp only [Int.ofNat_eq_natCast] at * <;> omega
  | negSucc m =>
      have hm : m < 2 ^ sign := by
        have hneg : -(2 ^ sign : Int) ≤ -((m : Int) + 1) := by
          rw [← Int.negSucc_eq]
          exact hlo
        have hcast : ((m + 1 : Nat) : Int) ≤ ((2 ^ sign : Nat) : Int) := by
          push_cast
          omega
        exact Int.ofNat_le.mp hcast
      have allSign : m >>> sign = 0 := by
        rw [Nat.shiftRight_eq_div_pow, Nat.div_eq_of_lt hm]
      have folded : zigzagEncode sign (Int.negSucc m) =
          ((((m + 1) <<< 1 - 1) ^^^ m >>> sign : Nat) : Int) := rfl
      rw [folded, allSign, Nat.xor_zero, Nat.shiftLeft_eq, Vlq.zigzag]
      split <;> omega

theorem zigzagDecode_natCast (z : Nat) : zigzagDecode z = Vlq.unzigzag z := by
  have unfolded : zigzagDecode z = Int.xor ((z >>> 1 : Nat) : Int) (-((z &&& 1 : Nat) : Int)) := rfl
  rw [unfolded, Nat.and_one_is_mod, Nat.shiftRight_eq_div_pow, Vlq.unzigzag]
  cases Nat.mod_two_eq_zero_or_one z with
  | inl even =>
      rw [even, if_pos rfl]
      exact congrArg Int.ofNat (Nat.xor_zero (z / 2))
  | inr odd =>
      rw [odd, if_neg (by decide)]
      have flipped : Int.xor ((z / 2 : Nat) : Int) (-((1 : Nat) : Int)) =
          Int.negSucc (z / 2 ^^^ 0) := rfl
      rw [pow_one, flipped, Nat.xor_zero, Int.negSucc_eq]
      omega

theorem zigzagDecode_zigzag (n : Int) : zigzagDecode (Vlq.zigzag n) = n := by
  rw [zigzagDecode_natCast, Vlq.unzigzag_zigzag]

/-- The groups of a positive number are its code. -/
theorem vlqGroups_natCast {n : Nat} (h : 0 < n) : vlqGroups n = Vlq.encode n := by
  induction n using Vlq.encode.induct with
  | case1 n hlt =>
      have rest : Int.shiftRight (n : Int) 7 = ((n >>> 7 : Nat) : Int) := rfl
      have payload : Int.land (n : Int) 0x7f = ((n &&& 127 : Nat) : Int) := rfl
      have all : n &&& 127 = n := Nat.and_two_pow_sub_one_of_lt_two_pow (n := 7) hlt
      have last : n >>> 7 = 0 := by
        rw [Nat.shiftRight_eq_div_pow, Nat.div_eq_of_lt hlt]
      have stop : vlqGroups 0 = [] := by
        rw [vlqGroups, dif_neg (by decide)]
      rw [vlqGroups, dif_pos (by omega), Vlq.encode_of_lt hlt]
      simp only [rest, payload, all, last, Int.ofNat_zero, BitVec.ofInt_natCast]
      rw [if_neg (by decide)]
      exact congrArg _ stop
  | case2 n hge ih =>
      have rest : Int.shiftRight (n : Int) 7 = ((n / 128 : Nat) : Int) := by
        rw [← show n >>> 7 = n / 128 from Nat.shiftRight_eq_div_pow n 7]
        rfl
      have payload : Int.land (n : Int) 0x7f = ((n % 128 : Nat) : Int) := by
        rw [← show n &&& 127 = n % 128 from Nat.and_two_pow_sub_one_eq_mod n 7]
        rfl
      have hdigit : n % 128 < 128 := Nat.mod_lt n (by decide)
      rw [vlqGroups, dif_pos (by omega), Vlq.encode_of_ge (by omega)]
      simp only [rest, payload, BitVec.ofInt_natCast]
      rw [if_pos (by omega), Vlq.or_continuation hdigit, ih (by omega)]

/-- One step of the accumulator, on natural numbers. -/
theorem lor_payload (acc shift : Nat) (b : Byte) :
    Int.lor acc (Int.shiftLeft (Int.land b.toNat 0x7f) shift) =
      ((acc ||| (b.toNat % 128) <<< shift : Nat) : Int) := by
  rw [← show b.toNat &&& 127 = b.toNat % 128 from Nat.and_two_pow_sub_one_eq_mod _ 7]
  rfl

theorem or_shiftLeft {acc shift : Nat} (d : Nat) (h : acc < 2 ^ shift) :
    acc ||| d <<< shift = acc + d * 2 ^ shift := by
  rw [Nat.or_comm, ← Nat.shiftLeft_add_eq_or_of_lt h, Nat.shiftLeft_eq, Nat.add_comm]

theorem land_top (b : Byte) : Int.land b.toNat 0x80 = ((b.toNat &&& 128 : Nat) : Int) := rfl

theorem land_top_eq_zero_iff (b : Byte) : Int.land b.toNat 0x80 = 0 ↔ b.toNat < 128 := by
  rw [land_top, Int.natCast_eq_zero, ← Vlq.and_top_eq_zero_iff, ← BitVec.toNat_inj,
    BitVec.toNat_and]
  rfl

/-- The accumulator collects the groups in place, up to the byte that ends the number. -/
theorem readVlq_eq {bs : Bytes} {acc shift : Nat} (hacc : acc < 2 ^ shift) :
    readVlq bs acc shift =
      (((acc + Vlq.value (Vlq.groups bs) * 2 ^ shift : Nat) : Int), Vlq.behind bs) := by
  induction bs generalizing acc shift with
  | nil =>
      rw [readVlq, Vlq.groups, Vlq.behind, Vlq.value, Nat.zero_mul, Nat.add_zero]
  | cons b rest ih =>
      have digit : b.toNat % 128 < 128 := Nat.mod_lt _ (by decide)
      rw [readVlq, Vlq.groups, Vlq.behind, lor_payload, or_shiftLeft _ hacc]
      by_cases last : b.toNat < 128
      · rw [if_pos last, if_pos last, if_pos ((land_top_eq_zero_iff b).mpr last)]
        simp only [Vlq.value, Nat.mul_zero, Nat.add_zero]
      · have hpow : 2 ^ (shift + 7) = 2 ^ shift * 128 := by rw [Nat.pow_add]
        have hacc' : acc + b.toNat % 128 * 2 ^ shift < 2 ^ (shift + 7) := by
          have hmul : b.toNat % 128 * 2 ^ shift ≤ 127 * 2 ^ shift :=
            Nat.mul_le_mul_right _ (by omega)
          omega
        have total : acc + b.toNat % 128 * 2 ^ shift +
            Vlq.value (Vlq.groups rest) * 2 ^ (shift + 7) =
            acc + (b.toNat % 128 + 128 * Vlq.value (Vlq.groups rest)) * 2 ^ shift := by
          rw [hpow]
          ring
        rw [if_neg last, if_neg last, if_neg (mt (land_top_eq_zero_iff b).mp last), ih hacc',
          total, Vlq.value]

theorem readVlq_zero (bs : Bytes) :
    readVlq bs 0 0 = ((Vlq.value (Vlq.groups bs) : Int), Vlq.behind bs) := by
  have read := @readVlq_eq bs 0 0 (by decide)
  rw [Nat.pow_zero, Nat.mul_one, Nat.zero_add] at read
  exact read

theorem readVlq_encode_zero (n : Nat) (rest : Bytes) :
    readVlq (Vlq.encode n ++ rest) 0 0 = ((n : Int), rest) := by
  obtain ⟨number, left⟩ := Vlq.groups_encode_append n rest
  rw [readVlq_zero, number, left]

end DuckPools.Integers
