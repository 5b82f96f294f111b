import DuckPools.Codec.BigEndian
import DuckPools.Language.NumberRounding
import DuckPools.Language.NumberText
import DuckPools.Sdk.Serialization

/-!
# The secret of a Plinko bet

`encodePlinkoSecret` reads the eight bytes as a number without a sign, folds it as if it had
one, and takes the folded number through a double. A number with the top bit set is not
folded into 64 bits, and what does not fit into 53 bits is rounded, so that other secrets are
written the same way.
-/

namespace DuckPools.Plinko

def encodeVLQBigInt (value : Int) : Text :=
  if value = 0 then ['0', '0'] else Hex.encode (Integers.vlqGroups value)

/-- `none` is the `SyntaxError` of an empty secret. A folded number is whole, so `BigInt` of it
is the number itself. -/
def encodePlinkoSecret (secret : Bytes) : Option Text := do
  let value ← Js.parseBigInt ('0' :: 'x' :: Js.bytesToHex secret)
  let zigzag := Js.numberOfBigInt (Integers.zigzagEncode 63 value)
  let vlq := encodeVLQBigInt (Js.asUintN 64 zigzag)
  return '0' :: '4' :: vlq

/-- The signed 64-bit number with these big-endian bytes. -/
def signed64 (secret : Bytes) : Int := (BitVec.ofNat 64 (ofBigEndian secret)).toInt

/-- The secret is read back from its register. -/
def RoundTrips (secret : Bytes) : Prop :=
  ∃ text, encodePlinkoSecret secret = some text ∧
    Sdk.deserializeLong text = .ok (signed64 secret)

/-- No other secret of eight bytes has the same register. -/
def OneSecret (secret : Bytes) : Prop :=
  ∀ other : Bytes, other.length = 8 → encodePlinkoSecret other = encodePlinkoSecret secret →
    other = secret

section Writing

theorem readDigits_encode (bytes : Bytes) (acc : Nat) :
    Js.readDigits 16 (Hex.encode bytes) acc =
      some (bytes.foldl (fun n b => 256 * n + b.toNat) acc) := by
  induction bytes generalizing acc with
  | nil => rfl
  | cons b bytes ih =>
      have hb := b.isLt
      have high : b.toNat / 16 < 16 := by omega
      have low : b.toNat % 16 < 16 := by omega
      have joined : 16 * (16 * acc + b.toNat / 16) + b.toNat % 16 = 256 * acc + b.toNat := by omega
      rw [Hex.encode_cons, Hex.ofByte, List.cons_append, List.cons_append, List.nil_append,
        Js.readDigits, Hex.value_digit high, Option.filter_some, if_pos (decide_eq_true high),
        Option.bind_some, Js.readDigits, Hex.value_digit low, Option.filter_some,
        if_pos (decide_eq_true low), Option.bind_some, ih, joined, List.foldl_cons]

theorem parseBigInt_bytesToHex {secret : Bytes} (h : secret ≠ []) :
    Js.parseBigInt ('0' :: 'x' :: Js.bytesToHex secret) = some (ofBigEndian secret : Int) := by
  have trimmed : Js.trim ('0' :: 'x' :: Hex.encode secret) = '0' :: 'x' :: Hex.encode secret := by
    apply Js.trim_of_no_whitespace
    intro c hc
    obtain rfl | hc := List.mem_cons.mp hc
    · rfl
    · obtain rfl | hc := List.mem_cons.mp hc
      · rfl
      · obtain ⟨_, value⟩ := Hex.value_of_mem_encode hc
        exact Js.not_isWhitespace value
  have notEmpty : (Hex.encode secret).isEmpty = false := by
    obtain ⟨b, bytes, rfl⟩ := List.exists_cons_of_ne_nil h
    rfl
  have literal : Js.radixLiteral ('0' :: 'x' :: Hex.encode secret) =
      some (16, Hex.encode secret) := rfl
  rw [Js.parseBigInt, Js.bytesToHex]
  simp only [trimmed, List.isEmpty_cons, Bool.false_eq_true, if_false, literal, Js.digitsValue,
    notEmpty, readDigits_encode, Option.map_some]
  rfl

/-- A number below the sign bit is doubled; above it, the sign bit is folded in twice. -/
theorem zigzagEncode_unsigned {v : Nat} (h : v < 2 ^ 64) :
    Integers.zigzagEncode 63 v = ((if v < 2 ^ 63 then 2 * v else 2 * v + 1 : Nat) : Int) := by
  have words : Integers.zigzagEncode 63 v = ((v <<< 1 ^^^ v >>> 63 : Nat) : Int) := rfl
  rw [words, Nat.shiftLeft_eq, pow_one, Nat.mul_comm, Nat.shiftRight_eq_div_pow]
  split
  · rename_i low
    rw [Nat.div_eq_of_lt low, Nat.xor_zero]
  · rename_i high
    have one : v / 2 ^ 63 = 1 := by omega
    rw [one, Nat.xor_one_of_even (even_two_mul v)]

/-- The number whose groups are written. -/
def folded (v : Nat) : Nat :=
  Js.roundToDouble (if v < 2 ^ 63 then 2 * v else 2 * v + 1) % 2 ^ 64

theorem encodeVLQBigInt_natCast (n : Nat) : encodeVLQBigInt n = Hex.encode (Vlq.encode n) := by
  cases n with
  | zero => rw [Vlq.encode_of_lt (by decide)]; rfl
  | succ n => rw [encodeVLQBigInt, if_neg (by omega), Integers.vlqGroups_natCast (Nat.succ_pos n)]

theorem encodePlinkoSecret_eq {secret : Bytes} (h : secret.length = 8) :
    encodePlinkoSecret secret =
      some (Hex.encode (0x04 :: Vlq.encode (folded (ofBigEndian secret)))) := by
  have notEmpty : secret ≠ [] := by
    rintro rfl
    cases h
  have bound := ofBigEndian_lt secret
  rw [h] at bound
  have unsigned : Js.asUintN 64 (Js.roundToDouble
      (if ofBigEndian secret < 2 ^ 63 then 2 * ofBigEndian secret
        else 2 * ofBigEndian secret + 1) : Nat) = (folded (ofBigEndian secret) : Nat) := rfl
  simp only [encodePlinkoSecret, parseBigInt_bytesToHex notEmpty, Option.bind_eq_bind,
    Option.bind_some, zigzagEncode_unsigned bound, Js.numberOfBigInt_eq, unsigned,
    encodeVLQBigInt_natCast]
  rfl

end Writing

section Reading

theorem deserializeLong_folded (n : Nat) :
    Sdk.deserializeLong (Hex.encode (0x04 :: Vlq.encode n)) = .ok (Vlq.unzigzag n) := by
  have read := Sdk.deserializeLong_encode (Vlq.unzigzag n) []
  rw [Vlq.zigzag_unzigzag, List.append_nil] at read
  exact read

variable {v : Nat}

theorem roundToDouble_two_mul_le (h : v < 2 ^ 63) : Js.roundToDouble (2 * v) ≤ 2 ^ 64 :=
  Js.roundToDouble_le (Js.isDouble_two_pow 64) (by omega)

theorem folded_eq_double_iff (h : v < 2 ^ 63) : folded v = 2 * v ↔ Js.IsDouble v := by
  have bound := roundToDouble_two_mul_le h
  rw [folded, if_pos h, ← Js.isDouble_two_mul_iff, ← Js.roundToDouble_eq_self_iff]
  constructor
  · intro same
    by_cases carried : Js.roundToDouble (2 * v) = 2 ^ 64
    · rw [carried, Nat.mod_self] at same
      obtain rfl : v = 0 := by omega
      cases carried
    · rwa [Nat.mod_eq_of_lt (by omega)] at same
  · intro kept
    rw [kept, Nat.mod_eq_of_lt (by omega)]

/-- With the top bit set, twelve bits are rounded away. -/
theorem dvd_folded (h : 2 ^ 63 ≤ v) : 2 ^ 12 ∣ folded v := by
  rw [folded, if_neg (by omega)]
  have step : 2 ^ 12 ∣ Js.roundToDouble (2 * v + 1) := Js.dvd_roundToDouble (by omega)
  exact (Nat.dvd_mod_iff (by decide)).mpr step

theorem toInt_of_lt (h : v < 2 ^ 63) : (BitVec.ofNat 64 v).toInt = v := by
  have word : (BitVec.ofNat 64 v).toNat = v := by
    rw [BitVec.toNat_ofNat, Nat.mod_eq_of_lt (by omega)]
  rw [BitVec.toInt_eq_toNat_of_lt (by omega), word]

theorem toInt_neg_of_ge (low : 2 ^ 63 ≤ v) (high : v < 2 ^ 64) : (BitVec.ofNat 64 v).toInt < 0 := by
  have word : (BitVec.ofNat 64 v).toNat = v := by
    rw [BitVec.toNat_ofNat, Nat.mod_eq_of_lt high]
  rw [BitVec.toInt_eq_toNat_cond, word]
  split <;> omega

theorem unzigzag_folded_iff (h : v < 2 ^ 64) :
    Vlq.unzigzag (folded v) = (BitVec.ofNat 64 v).toInt ↔ v < 2 ^ 63 ∧ Js.IsDouble v := by
  by_cases low : v < 2 ^ 63
  · have double : Vlq.zigzag (v : Int) = 2 * v := by
      rw [Vlq.zigzag, if_pos (Int.natCast_nonneg v)]
      omega
    rw [toInt_of_lt low, and_iff_right low, ← folded_eq_double_iff low, ← double]
    constructor
    · intro read
      rw [← read, Vlq.zigzag_unzigzag]
    · intro same
      rw [same, Vlq.unzigzag_zigzag]
  · have negative := toInt_neg_of_ge (by omega) h
    have step := dvd_folded (v := v) (by omega)
    have even : folded v % 2 = 0 := by omega
    refine iff_of_false ?_ fun cond => low cond.1
    rw [Vlq.unzigzag, if_pos even]
    omega

theorem roundTrips_iff {secret : Bytes} (h : secret.length = 8) :
    RoundTrips secret ↔ ofBigEndian secret < 2 ^ 63 ∧ Js.IsDouble (ofBigEndian secret) := by
  have bound := ofBigEndian_lt secret
  rw [h] at bound
  rw [← unzigzag_folded_iff bound]
  constructor
  · rintro ⟨text, written, read⟩
    rw [encodePlinkoSecret_eq h] at written
    obtain rfl := Option.some.inj written
    rw [deserializeLong_folded] at read
    exact Except.ok.inj read
  · intro same
    exact ⟨_, encodePlinkoSecret_eq h, by rw [deserializeLong_folded, same]; rfl⟩

end Reading

section Collisions

variable {v w : Nat}

/-- The numbers that share their folded number with no other of 64 bits. A number below `2 ^ 53`
can share it only with one that has the top bit set, and these come to multiples of 2048. Above,
odd significands of step 2 are the only numbers that nothing is rounded to. -/
def Alone (v : Nat) : Prop :=
  (v < 2 ^ 53 ∧ ¬ 2048 ∣ v) ∨ (2 ^ 53 ≤ v ∧ v < 2 ^ 54 ∧ v % 4 = 2)

theorem oneSecret_iff {secret : Bytes} (h : secret.length = 8) :
    OneSecret secret ↔
      ∀ w < 2 ^ 64, folded w = folded (ofBigEndian secret) → w = ofBigEndian secret := by
  constructor
  · intro one w hw same
    obtain ⟨other, hother, rfl⟩ := @exists_ofBigEndian 8 w hw
    rw [one other hother]
    rw [encodePlinkoSecret_eq hother, encodePlinkoSecret_eq h, same]
  · intro one other hother same
    have bound := ofBigEndian_lt other
    rw [hother] at bound
    rw [encodePlinkoSecret_eq hother, encodePlinkoSecret_eq h, Option.some.injEq,
      Hex.encode_injective.eq_iff, List.cons.injEq] at same
    have codes := congrArg Vlq.value same.2
    rw [Vlq.value_encode, Vlq.value_encode] at codes
    exact ofBigEndian_inj (hother.trans h.symm) (one _ bound codes)

theorem Alone.isDouble (h : Alone v) : Js.IsDouble v := by
  obtain ⟨small, _⟩ | ⟨_, high, even⟩ := h
  · exact Js.isDouble_of_lt small
  · exact ⟨v / 2, 1, by omega, by omega⟩

/-- Nothing but zero is rounded up to `2 ^ 64` and so folded onto zero. -/
theorem roundToDouble_of_folded (hw : w < 2 ^ 63) (nonzero : v ≠ 0) (same : folded w = 2 * v) :
    Js.roundToDouble (2 * w) = 2 * v := by
  have bound := roundToDouble_two_mul_le hw
  rw [folded, if_pos hw] at same
  by_cases carried : Js.roundToDouble (2 * w) = 2 ^ 64
  · rw [carried, Nat.mod_self] at same
    omega
  · rwa [Nat.mod_eq_of_lt (by omega)] at same

theorem eq_of_rounded_small (hv : v < 2 ^ 53) (same : Js.roundToDouble (2 * w) = 2 * v) :
    w = v := by
  have small : w < 2 ^ 53 := by
    by_contra large
    have passed : 2 ^ 54 ≤ Js.roundToDouble (2 * w) :=
      Js.le_roundToDouble (Js.isDouble_two_pow 54) (by omega)
    omega
  have kept : Js.IsDouble (2 * w) := (Js.isDouble_two_mul_iff w).mpr (Js.isDouble_of_lt small)
  rw [(Js.roundToDouble_eq_self_iff _).mpr kept] at same
  omega

theorem eq_of_rounded_odd (low : 2 ^ 53 ≤ v) (high : v < 2 ^ 54) (odd : v % 4 = 2)
    (same : Js.roundToDouble (2 * w) = 2 * v) : w = v := by
  have below : 2 ^ 53 ≤ w := by
    by_contra small
    have passed : Js.roundToDouble (2 * w) ≤ 2 ^ 54 :=
      Js.roundToDouble_le (Js.isDouble_two_pow 54) (by omega)
    omega
  have above : w < 2 ^ 54 := by
    by_contra large
    have passed : 2 ^ 55 ≤ Js.roundToDouble (2 * w) :=
      Js.le_roundToDouble (Js.isDouble_two_pow 55) (by omega)
    omega
  have split : 2 * w = w / 2 * 2 ^ 2 + 2 * (w % 2) := by omega
  rw [split, Js.roundToDouble_split (by omega) (by omega) (by omega)] at same
  split at same <;> omega

theorem Alone.eq_of_folded (alone : Alone v) (same : folded w = folded v) : w = v := by
  have hv : v < 2 ^ 63 := by
    obtain ⟨small, _⟩ | ⟨_, high, _⟩ := alone <;> omega
  have nonzero : v ≠ 0 := by
    obtain ⟨_, divides⟩ | ⟨low, _, _⟩ := alone <;> omega
  rw [(folded_eq_double_iff hv).mpr alone.isDouble] at same
  by_cases hw : w < 2 ^ 63
  · have rounded := roundToDouble_of_folded hw nonzero same
    obtain ⟨small, _⟩ | ⟨low, high, odd⟩ := alone
    · exact eq_of_rounded_small small rounded
    · exact eq_of_rounded_odd low high odd rounded
  · have step := dvd_folded (v := w) (by omega)
    rw [same] at step
    obtain ⟨_, divides⟩ | ⟨_, _, odd⟩ := alone <;> omega

/-- Of the numbers with the top bit set, neighbours are folded alike. -/
theorem exists_folded_high (low : 2 ^ 63 ≤ v) (high : v < 2 ^ 64) :
    ∃ w < 2 ^ 64, folded w = folded v ∧ w ≠ v := by
  have rounded : ∀ q r : Nat, 2 ^ 52 ≤ q → q < 2 ^ 53 → r < 2 ^ 12 → r % 2 = 1 →
      ∀ u, 2 * u + 1 = q * 2 ^ 12 + r →
        folded u = (if r < 2048 then q * 2 ^ 12 else (q + 1) * 2 ^ 12) % 2 ^ 64 := by
    intro q r hq hq' hr odd u split
    rw [folded, if_neg (by omega), split, Js.roundToDouble_split hq hq' hr]
    by_cases near : r < 2048
    · rw [if_pos (by omega), if_pos near]
    · rw [if_neg (by omega), if_neg near]
  have split : 2 * v + 1 = (2 * v + 1) / 2 ^ 12 * 2 ^ 12 + (2 * v + 1) % 2 ^ 12 :=
    (Nat.div_add_mod' _ _).symm
  generalize (2 * v + 1) / 2 ^ 12 = q at split
  generalize hr : (2 * v + 1) % 2 ^ 12 = r at split
  by_cases last : r = 2047 ∨ r = 4095
  · refine ⟨v - 1, by omega, ?_, by omega⟩
    rw [rounded q (r - 2) (by omega) (by omega) (by omega) (by omega) (v - 1) (by omega),
      rounded q r (by omega) (by omega) (by omega) (by omega) v split]
    congr 1
    split <;> split <;> omega
  · refine ⟨v + 1, by omega, ?_, by omega⟩
    rw [rounded q (r + 2) (by omega) (by omega) (by omega) (by omega) (v + 1) (by omega),
      rounded q r (by omega) (by omega) (by omega) (by omega) v split]
    congr 1
    split <;> split <;> omega

/-- A number that is rounded is folded like the one it is rounded to. -/
theorem exists_folded_rounded (hv : v < 2 ^ 63) (rounded : ¬ Js.IsDouble v) :
    ∃ w < 2 ^ 64, folded w = folded v ∧ w ≠ v := by
  have bound := roundToDouble_two_mul_le hv
  have long : 2 ^ 53 ≤ v := by
    by_contra small
    exact rounded (Js.isDouble_of_lt (by omega))
  by_cases carried : Js.roundToDouble (2 * v) = 2 ^ 64
  · refine ⟨0, by decide, ?_, by omega⟩
    rw [folded, folded, if_pos hv, carried]
    rfl
  · have even : 2 ^ 1 ∣ Js.roundToDouble (2 * v) := Js.dvd_roundToDouble (by omega)
    obtain ⟨w, half⟩ := even
    have kept : Js.IsDouble w := by
      rw [← Js.isDouble_two_mul_iff, ← pow_one 2, ← half]
      exact Js.isDouble_roundToDouble _
    refine ⟨w, by omega, ?_, ?_⟩
    · rw [(folded_eq_double_iff (by omega)).mpr kept, folded, if_pos hv,
        Nat.mod_eq_of_lt (by omega)]
      omega
    · rintro rfl
      exact rounded kept

/-- With the top bit set as well, a multiple of 2048 is folded as before. -/
theorem exists_folded_multiple (hv : v < 2 ^ 63) (kept : Js.IsDouble v) (divides : 2048 ∣ v) :
    ∃ w < 2 ^ 64, folded w = folded v ∧ w ≠ v := by
  refine ⟨v + 2 ^ 63, by omega, ?_, by omega⟩
  have split : 2 * (v + 2 ^ 63) + 1 = (v / 2048 + 2 ^ 52) * 2 ^ 12 + 1 := by omega
  rw [(folded_eq_double_iff hv).mpr kept, folded, if_neg (by omega), split,
    Js.roundToDouble_split (by omega) (by omega) (by omega), if_pos (by omega)]
  omega

/-- The number behind an even significand is rounded down to it. -/
theorem exists_folded_next (hv : v < 2 ^ 63) (kept : Js.IsDouble v) (long : 2 ^ 53 ≤ v)
    (notOdd : v < 2 ^ 54 → v % 4 ≠ 2) : ∃ w < 2 ^ 64, folded w = folded v ∧ w ≠ v := by
  obtain ⟨q, k, r, low, high, hr, split⟩ := Js.exists_split (n := 2 * v) (by omega)
  have double : Js.IsDouble (2 * v) := (Js.isDouble_two_mul_iff v).mpr kept
  rw [split, Js.isDouble_split_iff low high hr] at double
  subst double
  have two : 2 ≤ k := by
    by_contra short
    have step : 2 ^ k ≤ 2 ^ 1 := Nat.pow_le_pow_right (by decide) (by omega)
    have size : q * 2 ^ k ≤ q * 2 ^ 1 := Nat.mul_le_mul_left q step
    omega
  have four : 2 ^ 2 ∣ q * 2 ^ k := (Nat.pow_dvd_pow 2 two).mul_left q
  have step : 2 ^ 2 ≤ 2 ^ k := Nat.pow_le_pow_right (by decide) two
  have next : 2 * (v + 1) = q * 2 ^ k + 2 := by omega
  have near : 2 * 2 < 2 ^ k ∨ (2 * 2 = 2 ^ k ∧ q % 2 = 0) := by
    cases Nat.lt_or_ge 2 k with
    | inl longer =>
        have eight : 2 ^ 3 ≤ 2 ^ k := Nat.pow_le_pow_right (by decide) longer
        exact .inl (by omega)
    | inr short =>
        obtain rfl : k = 2 := by omega
        exact .inr ⟨rfl, by omega⟩
  refine ⟨v + 1, by omega, ?_, by omega⟩
  rw [(folded_eq_double_iff hv).mpr kept, folded, if_pos (by omega), next,
    Js.roundToDouble_split low high (by omega), if_pos near, Nat.mod_eq_of_lt (by omega)]
  omega

theorem exists_folded_of_not_alone (hv : v < 2 ^ 64) (h : ¬ Alone v) :
    ∃ w < 2 ^ 64, folded w = folded v ∧ w ≠ v := by
  obtain ⟨small, odd⟩ := not_or.mp h
  by_cases low : v < 2 ^ 63
  · by_cases kept : Js.IsDouble v
    · by_cases divides : 2048 ∣ v
      · exact exists_folded_multiple low kept divides
      · refine exists_folded_next low kept ?_ ?_
        · by_contra short
          exact small ⟨by omega, divides⟩
        · intro high even
          by_cases long : 2 ^ 53 ≤ v
          · exact odd ⟨long, high, even⟩
          · exact small ⟨by omega, divides⟩
    · exact exists_folded_rounded low kept
  · exact exists_folded_high (by omega) hv

theorem alone_iff (hv : v < 2 ^ 64) : (∀ w < 2 ^ 64, folded w = folded v → w = v) ↔ Alone v := by
  constructor
  · intro one
    by_contra h
    obtain ⟨w, hw, same, differs⟩ := exists_folded_of_not_alone hv h
    exact differs (one w hw same)
  · intro alone w _ same
    exact alone.eq_of_folded same

end Collisions

/-- A secret is read back exactly if its top bit is clear and 53 bits are enough for it; no other
secret has its register exactly if its number is alone. -/
theorem encodePlinkoSecret_exact {secret : Bytes} (h : secret.length = 8) :
    (RoundTrips secret ↔ ofBigEndian secret < 2 ^ 63 ∧ Js.IsDouble (ofBigEndian secret)) ∧
    (OneSecret secret ↔ Alone (ofBigEndian secret)) := by
  have bound := ofBigEndian_lt secret
  rw [h] at bound
  exact ⟨roundTrips_iff h, (oneSecret_iff h).trans (alone_iff bound)⟩

/-- The secret 1 is read back, and it is the only one with its register. -/
theorem encodePlinkoSecret_exact_one :
    RoundTrips [0, 0, 0, 0, 0, 0, 0, 1] ∧ OneSecret [0, 0, 0, 0, 0, 0, 0, 1] := by
  have number : ofBigEndian [0, 0, 0, 0, 0, 0, 0, 1] = 1 := rfl
  obtain ⟨read, one⟩ := @encodePlinkoSecret_exact [0, 0, 0, 0, 0, 0, 0, 1] rfl
  rw [number] at read one
  exact ⟨read.mpr ⟨by decide, Js.isDouble_of_lt (by decide)⟩, one.mpr (.inl (by decide))⟩

/-- Only the top bit set: the register is that of the secret zero, and it is read as zero. -/
theorem secrets_collide :
    ¬ (∀ secret : Bytes, secret.length = 8 → RoundTrips secret) ∧
    ¬ ∀ secret other : Bytes, secret.length = 8 → other.length = 8 →
      encodePlinkoSecret secret = encodePlinkoSecret other → secret = other := by
  have same : encodePlinkoSecret [0x80, 0, 0, 0, 0, 0, 0, 0] =
      encodePlinkoSecret [0, 0, 0, 0, 0, 0, 0, 0] := by
    rw [encodePlinkoSecret_eq rfl, encodePlinkoSecret_eq rfl]
    rfl
  constructor
  · intro h
    have high := ((roundTrips_iff rfl).mp (h [0x80, 0, 0, 0, 0, 0, 0, 0] rfl)).1
    exact absurd high (by decide)
  · intro h
    exact absurd (h _ _ rfl rfl same) (by decide)

end DuckPools.Plinko
