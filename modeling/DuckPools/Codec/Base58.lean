import DuckPools.Codec.Hex
import Mathlib.Data.Nat.Digits.Defs

/-!
# Base58

A text is a number in base 58, most significant digit first, and the bytes are that number
in base 256. Ones at the front are zero digits, and stand for as many zero bytes.

The reader is all that is needed here, together with the bound on the length of a text by
that of its bytes.
-/

namespace DuckPools.Base58

/-- The digits and letters without `0`, `O`, `I` and `l`. -/
def alphabet : Text := "123456789ABCDEFGHJKLMNPQRSTUVWXYZabcdefghijkmnopqrstuvwxyz".toList

def value (c : Char) : Option Nat := alphabet.idxOf? c

def readDigits : Text → Nat → Option Nat
  | [], acc => some acc
  | c :: rest, acc => (value c).bind fun digit => readDigits rest (58 * acc + digit)

/-- The bytes of a number, without zeros at the front. -/
def bigEndian (n : Nat) : Bytes := ((Nat.digits 256 n).map (BitVec.ofNat 8)).reverse

def decode (s : Text) : Option Bytes :=
  (readDigits s 0).map fun n =>
    List.replicate (s.takeWhile (· = '1')).length 0 ++ bigEndian n

theorem eq_one_of_value {c : Char} (h : value c = some 0) : c = '1' := by
  have hfirst : alphabet = '1' :: alphabet.tail := rfl
  rw [value, hfirst, List.idxOf?_cons] at h
  by_cases hc : ('1' == c) = true
  · exact (beq_iff_eq.mp hc).symm
  · rw [if_neg hc] at h
    obtain ⟨_, _, hsucc⟩ := Option.map_eq_some_iff.mp h
    exact absurd hsucc (Nat.succ_ne_zero _)

theorem mul_pow_le_of_readDigits {s : Text} {acc n : Nat} (h : readDigits s acc = some n) :
    acc * 58 ^ s.length ≤ n := by
  induction s generalizing acc with
  | nil =>
      obtain rfl := Option.some.inj h
      simp
  | cons c s ih =>
      obtain ⟨digit, _, hrest⟩ := Option.bind_eq_some_iff.mp h
      have hle := ih hrest
      calc acc * 58 ^ (s.length + 1) = 58 * acc * 58 ^ s.length := by ring
        _ ≤ (58 * acc + digit) * 58 ^ s.length := Nat.mul_le_mul_right _ (Nat.le_add_right _ _)
        _ ≤ n := hle

theorem lt_pow_length_bigEndian (n : Nat) : n < 256 ^ (bigEndian n).length := by
  rw [bigEndian, List.length_reverse, List.length_map]
  exact Nat.lt_base_pow_length_digits (by decide)

/-- Bytes that do not start with a zero are not much shorter than their text. -/
theorem pow_length_lt_of_decode {c : Char} {s : Text} {bytes : Bytes}
    (h : decode (c :: s) = some bytes) (hhead : bytes.head? ≠ some 0) :
    58 ^ s.length < 256 ^ bytes.length := by
  obtain ⟨n, hread, rfl⟩ := Option.map_eq_some_iff.mp h
  have hc : c ≠ '1' := by
    rintro rfl
    exact hhead rfl
  rw [List.takeWhile_cons_of_neg (by simpa using hc), List.length_nil, List.replicate_zero,
    List.nil_append]
  obtain ⟨digit, hdigit, hrest⟩ := Option.bind_eq_some_iff.mp hread
  have hpos : digit ≠ 0 := by
    rintro rfl
    exact hc (eq_one_of_value hdigit)
  have hle := mul_pow_le_of_readDigits hrest
  calc 58 ^ s.length ≤ (58 * 0 + digit) * 58 ^ s.length :=
        Nat.le_mul_of_pos_left _ (by omega)
    _ ≤ n := hle
    _ < 256 ^ (bigEndian n).length := lt_pow_length_bigEndian n

end DuckPools.Base58
