import DuckPools.Codec.Integers
import DuckPools.Language.JavaScript
import DuckPools.Language.Numbers

/-!
# `frontend/src/utils/sigmaSerializer.ts`

The integer constants that the frontend writes itself. `encodeVLQ` runs on numbers, so
its first step reads a folded number that went negative as an unsigned word; the loop of
`encodeVLQBigInt` has no width and is reached with a number below `2 ^ 64`.
-/

namespace DuckPools.Frontend

theorem ushiftRight_seven_lt {v : BitVec 32} (h : 0 < (v >>> 7).toNat) :
    (v >>> 7).toNat < v.toNat := by
  simp only [BitVec.toNat_ushiftRight, Nat.shiftRight_eq_div_pow] at *
  omega

/-- The `do ... while` loop, on the word that the operators see. -/
def vlqWords (v : BitVec 32) : Bytes :=
  let byte := (v &&& 0x7f).setWidth 8
  if _h : 0 < (v >>> 7).toNat then (byte ||| 0x80) :: vlqWords (v >>> 7) else [byte]
termination_by v.toNat
decreasing_by exact ushiftRight_seven_lt ‹_›

def encodeVLQ (value : Int) : Text := Js.bytesToHex (vlqWords (Js.toInt32 value))

def encodeVLQBigInt (value : Int) : Text :=
  if value = 0 then ['0', '0'] else Js.bytesToHex (Integers.vlqGroups value)

def zigzagEncode32 (value : Int) : Int := (Js.zigzagEncode32 value).toInt

def zigzagEncode64 (value : Int) : Int := Integers.zigzagEncode 63 value

def encodeIntConstant (value : Int) : Text := ['0', '2'] ++ encodeVLQ (zigzagEncode32 value)

/-- `BigInt.asUintN(64, zigzag)` is a remainder. -/
def encodeLongConstant (value : Int) : Text :=
  let zigzag := Integers.zigzagEncode 63 value
  let unsigned := zigzag % 18446744073709551616
  ['0', '4'] ++ encodeVLQBigInt unsigned

theorem ushiftRight_ofNat {n : Nat} (h : n < 2 ^ 32) :
    (BitVec.ofNat 32 n >>> 7 : BitVec 32) = BitVec.ofNat 32 (n / 128) := by
  apply BitVec.eq_of_toNat_eq
  rw [BitVec.toNat_ushiftRight, BitVec.toNat_ofNat, BitVec.toNat_ofNat, Nat.shiftRight_eq_div_pow]
  omega

theorem payload_ofNat {n : Nat} (h : n < 2 ^ 32) :
    ((BitVec.ofNat 32 n &&& 0x7f).setWidth 8 : Byte) = BitVec.ofNat 8 (n % 128) := by
  have low : (BitVec.ofNat 32 n &&& 0x7f).toNat = n % 128 := by
    rw [BitVec.toNat_and, BitVec.toNat_ofNat, Nat.mod_eq_of_lt h]
    exact Nat.and_two_pow_sub_one_eq_mod n 7
  apply BitVec.eq_of_toNat_eq
  rw [BitVec.toNat_setWidth, low, BitVec.toNat_ofNat]

/-- The loop writes the word as an unsigned number. -/
theorem vlqWords_ofNat {n : Nat} (h : n < 2 ^ 32) :
    vlqWords (BitVec.ofNat 32 n) = Vlq.encode n := by
  have more : (BitVec.ofNat 32 (n / 128)).toNat = n / 128 := by
    rw [BitVec.toNat_ofNat]
    omega
  induction n using Vlq.encode.induct with
  | case1 n hlt =>
      rw [vlqWords.eq_1, ushiftRight_ofNat h, dif_neg (by omega), payload_ofNat h,
        Nat.mod_eq_of_lt hlt, Vlq.encode_of_lt hlt]
  | case2 n hge ih =>
      have hdigit : n % 128 < 128 := Nat.mod_lt n (by decide)
      have hrest : n / 128 < 2 ^ 32 := by omega
      have next := ih hrest (by rw [BitVec.toNat_ofNat]; omega)
      rw [vlqWords.eq_1, ushiftRight_ofNat h, dif_pos (by omega), payload_ofNat h,
        Vlq.or_continuation hdigit, next, ← Vlq.encode_of_ge (by omega)]

theorem encodeIntConstant_eq {n : Int} (hlo : -2 ^ 31 ≤ n) (hhi : n < 2 ^ 31) :
    encodeIntConstant n = ['0', '2'] ++ Hex.encode (Vlq.encode (Vlq.zigzag n)) := by
  have word : Js.zigzagEncode32 n = BitVec.ofNat 32 (Vlq.zigzag n) := by
    rw [← Js.toNat_zigzagEncode32 hlo hhi, BitVec.ofNat_toNat, BitVec.setWidth_eq]
  have hlt : Vlq.zigzag n < 2 ^ 32 := by
    rw [← Js.toNat_zigzagEncode32 hlo hhi]
    exact BitVec.isLt _
  rw [encodeIntConstant, encodeVLQ, zigzagEncode32, Js.toInt32, BitVec.ofInt_toInt, word,
    vlqWords_ofNat hlt, Js.bytesToHex]

theorem encodeLongConstant_eq {n : Int} (hlo : -2 ^ 63 ≤ n) (hhi : n < 2 ^ 63) :
    encodeLongConstant n = ['0', '4'] ++ Hex.encode (Vlq.encode (Vlq.zigzag n)) := by
  have hlt : Vlq.zigzag n < 2 ^ 64 := by
    rw [Vlq.zigzag]
    split <;> omega
  have unsigned : (Vlq.zigzag n : Int) % 18446744073709551616 = Vlq.zigzag n := by omega
  simp only [encodeLongConstant, Integers.zigzagEncode_eq hlo hhi, unsigned]
  cases h : Vlq.zigzag n with
  | zero =>
      rw [Vlq.encode_of_lt (by decide)]
      rfl
  | succ m =>
      rw [encodeVLQBigInt, if_neg (by omega), Integers.vlqGroups_natCast (Nat.succ_pos m),
        Js.bytesToHex]

end DuckPools.Frontend
