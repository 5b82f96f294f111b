import DuckPools.Codec.Hex
import Mathlib.Data.List.DropRight

/-!
# Base64

The encoder of the URL-safe alphabet, and the decoder that comes with it: it takes the
digits of both alphabets, skips every other ASCII character and stops at a padding that
completes a group, whatever follows. So a text is not determined by the bytes it decodes
to, but the bytes come back from their digits with any sufficient padding
(`decodeFrom_digits`).
-/

namespace DuckPools.Base64

def digit (n : Nat) : Char :=
  if n < 26 then Char.ofNat (n + 65)
  else if n < 52 then Char.ofNat (n + 71)
  else if n < 62 then Char.ofNat (n - 4)
  else if n = 62 then '-' else '_'

/-- The value of a digit of either alphabet. -/
def value (c : Char) : Option Nat :=
  if 65 ≤ c.toNat ∧ c.toNat ≤ 90 then some (c.toNat - 65)
  else if 97 ≤ c.toNat ∧ c.toNat ≤ 122 then some (c.toNat - 71)
  else if 48 ≤ c.toNat ∧ c.toNat ≤ 57 then some (c.toNat + 4)
  else if c = '-' ∨ c = '+' then some 62
  else if c = '_' ∨ c = '/' then some 63
  else none

/-- The digits of a byte string: four for three bytes, three for two, two for one. -/
def digits : Bytes → Text
  | [] => []
  | [a] => [digit (a.toNat / 4), digit (a.toNat % 4 * 16)]
  | [a, b] =>
      [digit (a.toNat / 4), digit (a.toNat % 4 * 16 + b.toNat / 16), digit (b.toNat % 16 * 4)]
  | a :: b :: c :: rest =>
      digit (a.toNat / 4) :: digit (a.toNat % 4 * 16 + b.toNat / 16) ::
        digit (b.toNat % 16 * 4 + c.toNat / 64) :: digit (c.toNat % 64) :: digits rest

/-- `base64.urlsafe_b64encode(bs)` -/
def urlsafeEncode (bs : Bytes) : Text :=
  digits bs ++ List.replicate ((4 - (digits bs).length % 4) % 4) '='

/-- `binascii.a2b_base64(s)`: the position in the group, the bits left over from the digit
before and the paddings since then. -/
def decodeFrom : Nat → Nat → Nat → Text → Option Bytes
  | position, _, _, [] => if position = 0 then some [] else none
  | position, left, pads, c :: rest =>
      if c = '=' then
        if 2 ≤ position then
          if 4 ≤ position + (pads + 1) then some [] else decodeFrom position left (pads + 1) rest
        else decodeFrom position left pads rest
      else
        match value c with
        | none => decodeFrom position left pads rest
        | some v =>
            match position with
            | 0 => decodeFrom 1 v 0 rest
            | 1 => (decodeFrom 2 (v % 16) 0 rest).map (BitVec.ofNat 8 (left * 4 + v / 16) :: ·)
            | 2 => (decodeFrom 3 (v % 4) 0 rest).map (BitVec.ofNat 8 (left * 16 + v / 4) :: ·)
            | _ => (decodeFrom 0 0 0 rest).map (BitVec.ofNat 8 (left * 64 + v) :: ·)

/-- `base64.urlsafe_b64decode(s)`; a text that is not ASCII is refused. -/
def urlsafeDecode (s : Text) : Option Bytes :=
  if s.all fun c => c.toNat < 128 then decodeFrom 0 0 0 s else none

theorem digit_spec {n : Nat} (h : n < 64) :
    value (digit n) = some n ∧ digit n ≠ '=' ∧ digit n ≠ '.' ∧ (digit n).toNat < 128 := by
  have all : ∀ n < 64,
      value (digit n) = some n ∧ digit n ≠ '=' ∧ digit n ≠ '.' ∧ (digit n).toNat < 128 := by
    decide
  exact all n h

/-- Only digits occur. -/
theorem mem_digits {bs : Bytes} {c : Char} (h : c ∈ digits bs) : ∃ n < 64, c = digit n := by
  induction bs using digits.induct with
  | case1 => cases h
  | case2 a =>
      simp only [digits, List.mem_cons, List.not_mem_nil, or_false] at h
      rcases h with rfl | rfl
      · exact ⟨_, by omega, rfl⟩
      · exact ⟨_, by omega, rfl⟩
  | case3 a b =>
      simp only [digits, List.mem_cons, List.not_mem_nil, or_false] at h
      rcases h with rfl | rfl | rfl
      · exact ⟨_, by omega, rfl⟩
      · exact ⟨_, by omega, rfl⟩
      · exact ⟨_, by omega, rfl⟩
  | case4 a b c rest ih =>
      simp only [digits, List.mem_cons] at h
      rcases h with rfl | rfl | rfl | rfl | h
      · exact ⟨_, by omega, rfl⟩
      · exact ⟨_, by omega, rfl⟩
      · exact ⟨_, by omega, rfl⟩
      · exact ⟨_, by omega, rfl⟩
      · exact ih h

section Step

variable {n : Nat} (h : n < 64) (left pads : Nat) (rest : Text)

include h

theorem decodeFrom_first : decodeFrom 0 left pads (digit n :: rest) = decodeFrom 1 n 0 rest := by
  obtain ⟨hvalue, hpad, _⟩ := digit_spec h
  rw [decodeFrom, if_neg hpad, hvalue]
  rfl

theorem decodeFrom_second : decodeFrom 1 left pads (digit n :: rest) =
    (decodeFrom 2 (n % 16) 0 rest).map (BitVec.ofNat 8 (left * 4 + n / 16) :: ·) := by
  obtain ⟨hvalue, hpad, _⟩ := digit_spec h
  rw [decodeFrom, if_neg hpad, hvalue]
  rfl

theorem decodeFrom_third : decodeFrom 2 left pads (digit n :: rest) =
    (decodeFrom 3 (n % 4) 0 rest).map (BitVec.ofNat 8 (left * 16 + n / 4) :: ·) := by
  obtain ⟨hvalue, hpad, _⟩ := digit_spec h
  rw [decodeFrom, if_neg hpad, hvalue]
  rfl

theorem decodeFrom_fourth : decodeFrom 3 left pads (digit n :: rest) =
    (decodeFrom 0 0 0 rest).map (BitVec.ofNat 8 (left * 64 + n) :: ·) := by
  obtain ⟨hvalue, hpad, _⟩ := digit_spec h
  rw [decodeFrom, if_neg hpad, hvalue]
  rfl

end Step

theorem ofNat_halves (b : Byte) {n : Nat} (h : n = b.toNat) : BitVec.ofNat 8 n = b := by
  rw [h, BitVec.ofNat_toNat, BitVec.setWidth_eq]

/-- At the start of a group padding is skipped. -/
theorem decodeFrom_padding (left pads k : Nat) :
    decodeFrom 0 left pads (List.replicate k '=') = some [] := by
  induction k with
  | zero => rfl
  | succ k ih =>
      rw [List.replicate_succ, decodeFrom, if_pos rfl, if_neg (by decide)]
      exact ih

/-- The bytes come back from their digits, if the padding completes the last group. -/
theorem decodeFrom_digits (bs : Bytes) (left pads : Nat) {k : Nat}
    (h : 4 ∣ (digits bs).length + k) :
    decodeFrom 0 left pads (digits bs ++ List.replicate k '=') = some bs := by
  induction bs using digits.induct generalizing left pads with
  | case1 => exact decodeFrom_padding left pads k
  | case2 a =>
      have hk : 2 ≤ k := by
        simp only [digits, List.length_cons, List.length_nil] at h
        omega
      obtain ⟨k, rfl⟩ := Nat.exists_eq_add_of_le' hk
      have ha := a.isLt
      simp only [digits, List.cons_append, List.nil_append]
      rw [decodeFrom_first (by omega), decodeFrom_second (by omega)]
      have byte : BitVec.ofNat 8 (a.toNat / 4 * 4 + a.toNat % 4 * 16 / 16) = a :=
        ofNat_halves a (by omega)
      simp only [byte, List.replicate_succ]
      rfl
  | case3 a b =>
      have hk : 1 ≤ k := by
        simp only [digits, List.length_cons, List.length_nil] at h
        omega
      obtain ⟨k, rfl⟩ := Nat.exists_eq_add_of_le' hk
      have ha := a.isLt
      have hb := b.isLt
      simp only [digits, List.cons_append, List.nil_append]
      rw [decodeFrom_first (by omega), decodeFrom_second (by omega), decodeFrom_third (by omega)]
      have first : BitVec.ofNat 8 (a.toNat / 4 * 4 + (a.toNat % 4 * 16 + b.toNat / 16) / 16) = a :=
        ofNat_halves a (by omega)
      have second : BitVec.ofNat 8
          ((a.toNat % 4 * 16 + b.toNat / 16) % 16 * 16 + b.toNat % 16 * 4 / 4) = b :=
        ofNat_halves b (by omega)
      simp only [first, second, List.replicate_succ]
      rfl
  | case4 a b c rest ih =>
      have ha := a.isLt
      have hb := b.isLt
      have hc := c.isLt
      have hrest : 4 ∣ (digits rest).length + k := by
        simp only [digits, List.length_cons] at h
        omega
      simp only [digits, List.cons_append]
      rw [decodeFrom_first (by omega), decodeFrom_second (by omega), decodeFrom_third (by omega),
        decodeFrom_fourth (by omega)]
      have first : BitVec.ofNat 8 (a.toNat / 4 * 4 + (a.toNat % 4 * 16 + b.toNat / 16) / 16) = a :=
        ofNat_halves a (by omega)
      have second : BitVec.ofNat 8
          ((a.toNat % 4 * 16 + b.toNat / 16) % 16 * 16 +
            (b.toNat % 16 * 4 + c.toNat / 64) / 4) = b :=
        ofNat_halves b (by omega)
      have third : BitVec.ofNat 8
          ((b.toNat % 16 * 4 + c.toNat / 64) % 4 * 64 + c.toNat % 64) = c :=
        ofNat_halves c (by omega)
      simp only [first, second, third, ih 0 0 hrest]
      rfl

/-- `s.rstrip("=")` takes exactly the padding off. -/
theorem rdropWhile_urlsafeEncode (bs : Bytes) :
    (urlsafeEncode bs).rdropWhile (· = '=') = digits bs := by
  have strip : ∀ k, (digits bs ++ List.replicate k '=').rdropWhile (· = '=') = digits bs := by
    intro k
    induction k with
    | zero =>
        rw [List.replicate_zero, List.append_nil, List.rdropWhile_eq_self_iff]
        intro hne heq
        obtain ⟨n, hn, hdigit⟩ := mem_digits (List.getLast_mem hne)
        rw [hdigit] at heq
        exact (digit_spec hn).2.1 (of_decide_eq_true heq)
    | succ k ih =>
        rw [List.replicate_succ', ← List.append_assoc, List.rdropWhile_concat_pos _ _ _ rfl, ih]
  exact strip _

/-- The round trip of a text whose padding was taken off and put on again. -/
theorem urlsafeDecode_digits (bs : Bytes) :
    urlsafeDecode (digits bs ++ List.replicate (4 - (digits bs).length % 4) '=') = some bs := by
  rw [urlsafeDecode, if_pos]
  · exact decodeFrom_digits bs 0 0 (by omega)
  · rw [List.all_eq_true]
    intro c hc
    apply decide_eq_true
    rcases List.mem_append.mp hc with hc | hc
    · obtain ⟨n, hn, rfl⟩ := mem_digits hc
      exact (digit_spec hn).2.2.2
    · rw [List.eq_of_mem_replicate hc]
      decide

end DuckPools.Base64
