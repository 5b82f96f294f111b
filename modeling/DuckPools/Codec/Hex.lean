import Mathlib.Data.List.Basic

/-!
# Bytes and their hexadecimal text

Every component of the system exchanges byte strings as hexadecimal text. A byte
is a `BitVec 8`, because the same octet is read unsigned by JavaScript and Python
(`BitVec.toNat`) and signed by contract scripts (`BitVec.toInt`).

`Hex.decode` is the strict reader: an even number of digits of either case. The
decoders of the individual languages are more permissive and are defined beside
the code that calls them; each one is compared with `Hex.decode`, so facts about
well-formed text are proved once here.
-/

namespace DuckPools

/-- A raw octet, without a choice of sign. -/
abbrev Byte := BitVec 8

abbrev Bytes := List Byte

/-- Text as the sequence of its characters. -/
abbrev Text := List Char

namespace Hex

/-- The lower-case digit of a value below sixteen. -/
def digit (n : Nat) : Char := Char.ofNat (if n < 10 then 48 + n else 87 + n)

/-- The value of a digit of either case. -/
def value (c : Char) : Option Nat :=
  if 48 ≤ c.toNat ∧ c.toNat ≤ 57 then some (c.toNat - 48)
  else if 97 ≤ c.toNat ∧ c.toNat ≤ 102 then some (c.toNat - 87)
  else if 65 ≤ c.toNat ∧ c.toNat ≤ 70 then some (c.toNat - 55)
  else none

/-- The two digits of one byte, high half first. -/
def ofByte (b : Byte) : Text := [digit (b.toNat / 16), digit (b.toNat % 16)]

def encode (bs : Bytes) : Text := bs.flatMap ofByte

/-- One byte from the values of its two digits. -/
def pair (hi lo : Nat) : Byte := BitVec.ofNat 8 (16 * hi + lo)

/-- Strict decoding: digit pairs only, nothing left over. -/
def decode : Text → Option Bytes
  | [] => some []
  | hi :: lo :: rest => do
      let h ← value hi
      let l ← value lo
      let tail ← decode rest
      return pair h l :: tail
  | [_] => none

theorem value_digit {n : Nat} (h : n < 16) : value (digit n) = some n := by
  have all : ∀ n < 16, value (digit n) = some n := by decide
  exact all n h

theorem range_of_value {c : Char} {n : Nat} (h : value c = some n) :
    (48 ≤ c.toNat ∧ c.toNat ≤ 57) ∨ (97 ≤ c.toNat ∧ c.toNat ≤ 102) ∨
      (65 ≤ c.toNat ∧ c.toNat ≤ 70) := by
  rw [value] at h
  split_ifs at h <;> omega

theorem pair_halves (b : Byte) : pair (b.toNat / 16) (b.toNat % 16) = b := by
  rw [pair, Nat.div_add_mod, BitVec.ofNat_toNat, BitVec.setWidth_eq]

theorem encode_cons (b : Byte) (bs : Bytes) : encode (b :: bs) = ofByte b ++ encode bs := rfl

theorem encode_append (as bs : Bytes) : encode (as ++ bs) = encode as ++ encode bs :=
  List.flatMap_append

/-- Two characters a byte. -/
theorem length_encode (bs : Bytes) : (encode bs).length = 2 * bs.length := by
  induction bs with
  | nil => rfl
  | cons b bs ih =>
      rw [encode_cons, List.length_append, ih, List.length_cons]
      show 2 + 2 * bs.length = _
      omega

theorem drop_encode (bs : Bytes) (k : Nat) : (encode bs).drop (2 * k) = encode (bs.drop k) := by
  induction k generalizing bs with
  | zero => rfl
  | succ k ih =>
      cases bs with
      | nil => simp [encode]
      | cons b bs => exact ih bs

theorem take_encode (bs : Bytes) (k : Nat) : (encode bs).take (2 * k) = encode (bs.take k) := by
  induction k generalizing bs with
  | zero => simp [encode]
  | succ k ih =>
      cases bs with
      | nil => simp [encode]
      | cons b bs => exact congrArg (ofByte b ++ ·) (ih bs)

theorem decode_ofByte_append (b : Byte) (rest : Text) :
    decode (ofByte b ++ rest) = (decode rest).map (b :: ·) := by
  have hb := b.isLt
  have high : value (digit (b.toNat / 16)) = some (b.toNat / 16) := value_digit (by omega)
  have low : value (digit (b.toNat % 16)) = some (b.toNat % 16) := value_digit (by omega)
  simp only [ofByte, List.cons_append, List.nil_append, decode, high, low, Option.bind_eq_bind,
    Option.bind_some, pair_halves]
  cases decode rest <;> rfl

/-- Written text reads back as the bytes it was written from. -/
@[simp] theorem decode_encode (bs : Bytes) : decode (encode bs) = some bs := by
  induction bs with
  | nil => rfl
  | cons b bs ih => rw [encode_cons, decode_ofByte_append, ih, Option.map_some]

/-- Written text is lower case already. -/
theorem map_toLower_encode (bs : Bytes) : (encode bs).map Char.toLower = encode bs := by
  have digits : ∀ n < 16, (digit n).toLower = digit n := by decide
  induction bs with
  | nil => rfl
  | cons b bs ih =>
      have hb := b.isLt
      rw [encode_cons, List.map_append, ih]
      simp only [ofByte, List.map_cons, List.map_nil, digits _ (by omega : b.toNat / 16 < 16),
        digits _ (by omega : b.toNat % 16 < 16)]

theorem value_of_mem_encode {bs : Bytes} {c : Char} (h : c ∈ encode bs) :
    ∃ n, value c = some n := by
  obtain ⟨b, _, hc⟩ := List.mem_flatMap.mp h
  have hb := b.isLt
  simp only [ofByte, List.mem_cons, List.not_mem_nil, or_false] at hc
  obtain rfl | rfl := hc
  · exact ⟨_, value_digit (by omega)⟩
  · exact ⟨_, value_digit (by omega)⟩

theorem encode_injective : Function.Injective encode := by
  intro a b h
  have hd := congrArg decode h
  simpa using hd

/-- The shape of strictly decoded text, one byte at a time. -/
theorem decode_cons_iff {hi lo : Char} {rest : Text} {bs : Bytes} :
    decode (hi :: lo :: rest) = some bs ↔
      ∃ h l tail, value hi = some h ∧ value lo = some l ∧ decode rest = some tail ∧
        bs = pair h l :: tail := by
  simp only [decode, Option.bind_eq_bind, Option.bind_eq_some_iff, Option.pure_def,
    Option.some.injEq]
  constructor
  · rintro ⟨h, hh, l, hl, tail, ht, rfl⟩
    exact ⟨h, l, tail, hh, hl, ht, rfl⟩
  · rintro ⟨h, l, tail, hh, hl, ht, rfl⟩
    exact ⟨h, hh, l, hl, tail, ht, rfl⟩

/-- Induction over well-formed text and its bytes: two digits a byte. -/
@[elab_as_elim] theorem decode_induction
    {motive : ∀ (s : Text) (bs : Bytes), decode s = some bs → Prop}
    (nil : motive [] [] rfl)
    (byte : ∀ {hi lo : Char} {rest : Text} {h l : Nat} {tail : Bytes} (hh : value hi = some h)
      (hl : value lo = some l) (ht : decode rest = some tail), motive rest tail ht →
      motive (hi :: lo :: rest) (pair h l :: tail)
        (decode_cons_iff.mpr ⟨h, l, tail, hh, hl, ht, rfl⟩)) :
    ∀ {s : Text} {bs : Bytes} (h : decode s = some bs), motive s bs h
  | [], bs, h => by
      obtain rfl : [] = bs := Option.some.inj h
      exact nil
  | [_], _, h => by simp [decode] at h
  | hi :: lo :: rest, bs, h => by
      obtain ⟨_, _, tail, hh, hl, ht, rfl⟩ := decode_cons_iff.mp h
      exact byte hh hl ht (decode_induction nil byte ht)

/-- Digits of either case are ASCII. -/
theorem lt_of_mem_decode {s : Text} {bs : Bytes} (h : decode s = some bs) :
    ∀ c ∈ s, c.toNat < 128 := by
  induction h using decode_induction with
  | nil => exact fun c hc => absurd hc List.not_mem_nil
  | byte hh hl ht ih =>
      have hi_range := range_of_value hh
      have lo_range := range_of_value hl
      intro c hc
      rcases List.mem_cons.mp hc with rfl | hc
      · omega
      · rcases List.mem_cons.mp hc with rfl | hc
        · omega
        · exact ih c hc

theorem digit_of_value {c : Char} {n : Nat} (h : value c = some n) :
    n < 16 ∧ c.toLower = digit n := by
  have all : ∀ k < 128, ∀ n ∈ value (Char.ofNat k),
      n < 16 ∧ (Char.ofNat k).toLower = digit n := by decide
  have hrange := range_of_value h
  have hc := all c.toNat (by omega) n
  rw [Char.ofNat_toNat] at hc
  exact hc h

theorem ofByte_pair {h l : Nat} (hh : h < 16) (hl : l < 16) :
    ofByte (pair h l) = [digit h, digit l] := by
  have byte : (pair h l).toNat = 16 * h + l := by
    rw [pair, BitVec.toNat_ofNat]
    omega
  rw [ofByte, byte, show (16 * h + l) / 16 = h by omega, show (16 * h + l) % 16 = l by omega]

/-- In lower case, well-formed text is the text that its bytes are written as. -/
theorem map_toLower_of_decode {s : Text} {bs : Bytes} (h : decode s = some bs) :
    s.map Char.toLower = encode bs := by
  induction h using decode_induction with
  | nil => rfl
  | byte hh hl ht ih =>
      obtain ⟨hhi, high⟩ := digit_of_value hh
      obtain ⟨hlo, low⟩ := digit_of_value hl
      rw [List.map_cons, List.map_cons, ih, encode_cons, ofByte_pair hhi hlo, high, low]
      rfl

theorem value_of_mem_decode {s : Text} {bs : Bytes} (h : decode s = some bs) {c : Char}
    (hc : c ∈ s) : ∃ n, value c = some n := by
  induction h using decode_induction with
  | nil => cases hc
  | byte hh hl ht ih =>
      rcases List.mem_cons.mp hc with rfl | hc
      · exact ⟨_, hh⟩
      · rcases List.mem_cons.mp hc with rfl | hc
        · exact ⟨_, hl⟩
        · exact ih hc

theorem decode_append {s t : Text} {as bs : Bytes} (hs : decode s = some as)
    (ht : decode t = some bs) : decode (s ++ t) = some (as ++ bs) := by
  induction hs using decode_induction with
  | nil => exact ht
  | byte hh hl _ ih => exact decode_cons_iff.mpr ⟨_, _, _, hh, hl, ih, rfl⟩

theorem length_of_decode {s : Text} {bs : Bytes} (h : decode s = some bs) :
    s.length = 2 * bs.length := by
  induction h using decode_induction with
  | nil => rfl
  | byte _ _ _ ih =>
      simp only [List.length_cons]
      omega

end Hex
end DuckPools
