import DuckPools.Language.JavaScript
import DuckPools.Language.WordCounts
import Mathlib.Algebra.Order.Field.Rat
import Mathlib.Data.FinEnum

/-!
# Dice rolls: `frontend/src/utils/dice.ts` and `dice_rng` of `backend/rng_module.py`

Both sides hash the text of the block id followed by the secret and take the first digest
byte below 200, modulo 100. Only a digest without such a byte makes them read two bytes.
The hash function is a parameter: an unbiased roll is a count over all digests.
-/

namespace DuckPools.Dice

variable {n : Nat} (sha256 : Bytes → List.Vector Byte n)

/-- The body of both loops: `none` goes on with the next byte. -/
def acceptByte (byte : Byte) : Option Nat :=
  if byte.toNat < 200 then some (byte.toNat % 100) else none

/-- `none` is `NaN`, which a digest of less than two bytes gives. -/
def computeDiceRng (blockHash : Text) (secretBytes : Bytes) : Option Nat :=
  let blockHashBuffer := Js.bufferFromUtf8 blockHash
  let rngInput := blockHashBuffer ++ secretBytes
  let rngHash := (sha256 rngInput).toList
  match rngHash.findSome? acceptByte with
  | some outcome => some outcome
  | none => do
      let first ← rngHash[0]?
      let second ← rngHash[1]?
      return (first.toNat * 256 + second.toNat) % 100

def isDiceWin (rngOutcome rollTarget : Int) : Bool := rngOutcome < rollTarget

/-- `int.from_bytes(data, 'big')` -/
def intFromBytesBig (data : Bytes) : Nat := data.foldl (fun n byte => n * 256 + byte.toNat) 0

/-- `block_hash.encode('utf-8')` has the bytes of the `TextEncoder`. -/
def dice_rng (block_hash : Text) (secret_bytes : Bytes) : Nat :=
  let block_hash_bytes := Js.bufferFromUtf8 block_hash
  let rng_data := block_hash_bytes ++ secret_bytes
  let rng_hash := (sha256 rng_data).toList
  match rng_hash.findSome? acceptByte with
  | some byte_val => byte_val
  | none => intFromBytesBig (rng_hash.take 2) % 100

/-- Some byte of the digest is accepted. -/
def HasLowByte (digest : Bytes) : Prop := ∃ byte ∈ digest, byte.toNat < 200

instance (digest : Bytes) : Decidable (HasLowByte digest) :=
  inferInstanceAs (Decidable (∃ byte ∈ digest, byte.toNat < 200))

theorem acceptByte_eq_none_iff {byte : Byte} : acceptByte byte = none ↔ ¬ byte.toNat < 200 := by
  rw [acceptByte]
  split
  · rename_i low
    exact ⟨nofun, fun high => absurd low high⟩
  · rename_i high
    exact ⟨fun _ => high, fun _ => rfl⟩

theorem acceptByte_lt {byte : Byte} {outcome : Nat} (h : acceptByte byte = some outcome) :
    outcome < 100 := by
  rw [acceptByte] at h
  split at h
  · cases h
    exact Nat.mod_lt _ (by decide)
  · cases h

theorem hasLowByte_iff {digest : Bytes} :
    HasLowByte digest ↔ ∃ outcome, digest.findSome? acceptByte = some outcome := by
  rw [← Option.ne_none_iff_exists', ne_eq, List.findSome?_eq_none_iff, HasLowByte]
  constructor
  · rintro ⟨byte, member, low⟩ all
    exact acceptByte_eq_none_iff.mp (all byte member) low
  · intro h
    by_contra none
    apply h
    intro byte member
    exact acceptByte_eq_none_iff.mpr fun low => none ⟨byte, member, low⟩

theorem findSome_acceptByte_lt {digest : Bytes} {outcome : Nat}
    (h : digest.findSome? acceptByte = some outcome) : outcome < 100 := by
  obtain ⟨byte, _, accepted⟩ := List.exists_of_findSome?_eq_some h
  exact acceptByte_lt accepted

section Agreement

variable (blockHash : Text) (secretBytes : Bytes)

/-- The digest both sides read. -/
def rngDigest : Bytes := (sha256 (Js.bufferFromUtf8 blockHash ++ secretBytes)).toList

variable {sha256 blockHash secretBytes}

theorem computeDiceRng_of_accepted {outcome : Nat}
    (h : (rngDigest sha256 blockHash secretBytes).findSome? acceptByte = some outcome) :
    computeDiceRng sha256 blockHash secretBytes = some outcome := by
  show (match (rngDigest sha256 blockHash secretBytes).findSome? acceptByte with
    | some outcome => some outcome
    | none => _) = _
  rw [h]

/-- The two fallbacks read the same two bytes, the first one as the higher. -/
theorem computeDiceRng_eq_dice_rng (hn : 2 ≤ n) :
    computeDiceRng sha256 blockHash secretBytes = some (dice_rng sha256 blockHash secretBytes) ∧
      dice_rng sha256 blockHash secretBytes < 100 := by
  have length := List.Vector.toList_length (sha256 (Js.bufferFromUtf8 blockHash ++ secretBytes))
  rw [computeDiceRng, dice_rng]
  generalize (sha256 (Js.bufferFromUtf8 blockHash ++ secretBytes)).toList = digest at length
  cases found : digest.findSome? acceptByte with
  | some outcome => exact ⟨rfl, findSome_acceptByte_lt found⟩
  | none =>
      obtain ⟨first, second, rest, rfl⟩ :
          ∃ first second rest, digest = first :: second :: rest := by
        match digest, length with
        | [], h => simp only [List.length_nil] at h; omega
        | [_], h => simp only [List.length_cons, List.length_nil] at h; omega
        | first :: second :: rest, _ => exact ⟨first, second, rest, rfl⟩
      refine ⟨?_, Nat.mod_lt _ (by decide)⟩
      show some ((first.toNat * 256 + second.toNat) % 100) =
        some (((0 * 256 + first.toNat) * 256 + second.toNat) % 100)
      rw [Nat.zero_mul, Nat.zero_add]

end Agreement

section Shares

/-- Two bytes give each outcome. -/
theorem accepted_eq_two {outcome : Nat} (h : outcome < 100) :
    Words.accepted acceptByte outcome = 2 := by
  have bytes : (Finset.univ.filter fun byte : Byte => acceptByte byte = some outcome) =
      {BitVec.ofNat 8 outcome, BitVec.ofNat 8 (outcome + 100)} := by
    ext byte
    have lt := byte.isLt
    rw [Finset.mem_filter, Finset.mem_insert, Finset.mem_singleton, acceptByte]
    simp only [Finset.mem_univ, true_and, BitVec.toNat_eq, BitVec.toNat_ofNat]
    split
    · rw [Option.some.injEq]
      omega
    · simp only [reduceCtorEq, false_iff]
      omega
  have differ : BitVec.ofNat 8 outcome ≠ BitVec.ofNat 8 (outcome + 100) := by
    intro same
    have values := congrArg BitVec.toNat same
    rw [BitVec.toNat_ofNat, BitVec.toNat_ofNat] at values
    omega
  rw [Words.accepted, Fintype.card_subtype, bytes, Finset.card_pair differ]

/-- The digests with this outcome. -/
def digestsOf (n outcome : Nat) : Nat :=
  Words.count n fun digest => digest.findSome? acceptByte = some outcome

theorem digestsOf_eq {outcome other : Nat} (h : outcome < 100) (hother : other < 100) :
    digestsOf n outcome = digestsOf n other :=
  Words.count_findSome_eq acceptByte ((accepted_eq_two h).trans (accepted_eq_two hother).symm) n

theorem digestsOf_pos (hn : 0 < n) : 0 < digestsOf n 0 :=
  Words.count_findSome_pos acceptByte (by rw [accepted_eq_two (by decide)]; decide) hn

theorem sum_digestsOf {t : Nat} (ht : t ≤ 100) :
    (∑ outcome ∈ Finset.range t, digestsOf n outcome) = t * digestsOf n 0 := by
  rw [Finset.sum_congr rfl fun outcome member =>
    digestsOf_eq ((Finset.mem_range.mp member).trans_le ht) (by decide : 0 < 100),
    Finset.sum_const, Finset.card_range, smul_eq_mul]

/-- The digests whose roll is below `t`. -/
theorem count_roll_lt {t : Nat} (ht : t ≤ 100) :
    (Words.count n fun digest =>
      ∃ outcome, digest.findSome? acceptByte = some outcome ∧ outcome < t) =
      t * digestsOf n 0 := by
  have value (digest : Bytes) (i : Nat) :
      (HasLowByte digest ∧ (digest.findSome? acceptByte).getD 0 = i) ↔
        digest.findSome? acceptByte = some i := by
    rw [hasLowByte_iff]
    constructor
    · rintro ⟨⟨outcome, found⟩, same⟩
      rw [found] at same ⊢
      exact congrArg some same
    · intro found
      exact ⟨⟨i, found⟩, by rw [found]; rfl⟩
  have below (digest : Bytes) :
      (∃ outcome, digest.findSome? acceptByte = some outcome ∧ outcome < t) ↔
        HasLowByte digest ∧ (digest.findSome? acceptByte).getD 0 < t := by
    constructor
    · rintro ⟨outcome, found, lt⟩
      exact ⟨hasLowByte_iff.mpr ⟨outcome, found⟩, by rw [found]; exact lt⟩
    · rintro ⟨low, lt⟩
      obtain ⟨outcome, found⟩ := hasLowByte_iff.mp low
      rw [found] at lt
      exact ⟨outcome, found, lt⟩
  rw [Words.count_congr fun digest _ => below digest, Words.count_lt, ← sum_digestsOf ht]
  exact Finset.sum_congr rfl fun i _ => Words.count_congr fun digest _ => value digest i

/-- The digests with an accepted byte. -/
theorem count_hasLowByte : Words.count n HasLowByte = 100 * digestsOf n 0 := by
  rw [← count_roll_lt (Nat.le_refl 100)]
  apply Words.count_congr
  intro digest _
  rw [hasLowByte_iff]
  exact ⟨fun ⟨outcome, found⟩ => ⟨outcome, found, findSome_acceptByte_lt found⟩,
    fun ⟨outcome, found, _⟩ => ⟨outcome, found⟩⟩

variable (n) (blockHash : Text) (secretBytes : Bytes)

/-- The digests with an accepted byte for which the computed outcome has the property. -/
def rolls (P : Nat → Bool) : Nat :=
  Fintype.card {digest : List.Vector Byte n // HasLowByte digest.toList ∧
    (computeDiceRng (fun _ => digest) blockHash secretBytes).any P = true}

variable {n blockHash secretBytes}

/-- With an accepted byte, the outcome is the one it gives. -/
theorem rolls_eq_count (P : Nat → Bool) :
    rolls n blockHash secretBytes P =
      Words.count n fun digest =>
        ∃ outcome, digest.findSome? acceptByte = some outcome ∧ P outcome = true := by
  apply Fintype.card_congr
  apply Equiv.subtypeEquivRight
  intro digest
  rw [hasLowByte_iff]
  constructor
  · rintro ⟨⟨outcome, found⟩, holds⟩
    rw [@computeDiceRng_of_accepted _ (fun _ => digest) _ _ _ found] at holds
    exact ⟨outcome, found, holds⟩
  · rintro ⟨outcome, found, holds⟩
    rw [@computeDiceRng_of_accepted _ (fun _ => digest) _ _ _ found]
    exact ⟨⟨outcome, found⟩, holds⟩

theorem rolls_outcome (outcome : Nat) :
    rolls n blockHash secretBytes (· == outcome) = digestsOf n outcome := by
  rw [rolls_eq_count]
  apply Words.count_congr
  intro digest _
  constructor
  · rintro ⟨other, found, same⟩
    rw [found, beq_iff_eq.mp same]
  · intro found
    exact ⟨outcome, found, beq_self_eq_true outcome⟩

theorem rolls_isDiceWin {t : Nat} (ht : t ≤ 100) :
    (rolls n blockHash secretBytes fun outcome => isDiceWin outcome t) = t * digestsOf n 0 := by
  rw [rolls_eq_count, ← count_roll_lt ht]
  apply Words.count_congr
  intro digest _
  simp only [isDiceWin, decide_eq_true_eq, Nat.cast_lt]

end Shares

/-- Both sides compute the same roll of every digest, and over the digests with an accepted
byte the roll is uniform. -/
theorem dice_rolls_unbiased (hn : 2 ≤ n) (blockHash : Text) (secretBytes : Bytes) :
    (∀ sha256 : Bytes → List.Vector Byte n, ∃ outcome < 100,
      computeDiceRng sha256 blockHash secretBytes = some outcome ∧
        dice_rng sha256 blockHash secretBytes = outcome) ∧
    (∀ outcome < 100, ∀ other < 100,
      rolls n blockHash secretBytes (· == outcome) = rolls n blockHash secretBytes (· == other)) ∧
    ∀ rollTarget : Nat, rollTarget ≤ 100 →
      (rolls n blockHash secretBytes fun outcome => isDiceWin outcome rollTarget : ℚ) /
          Fintype.card {digest : List.Vector Byte n // HasLowByte digest.toList} =
        rollTarget / 100 := by
  refine ⟨?_, ?_, ?_⟩
  · intro sha256
    obtain ⟨agree, lt⟩ := @computeDiceRng_eq_dice_rng _ sha256 blockHash secretBytes hn
    exact ⟨_, lt, agree, rfl⟩
  · intro outcome houtcome other hother
    rw [rolls_outcome, rolls_outcome, digestsOf_eq houtcome hother]
  · intro rollTarget ht
    have positive : (digestsOf n 0 : ℚ) ≠ 0 :=
      Nat.cast_ne_zero.mpr (digestsOf_pos (Nat.lt_of_lt_of_le (by decide) hn)).ne'
    have total : Fintype.card {digest : List.Vector Byte n // HasLowByte digest.toList} =
        100 * digestsOf n 0 := count_hasLowByte
    rw [rolls_isDiceWin ht, total, Nat.cast_mul, Nat.cast_mul, Nat.cast_ofNat]
    exact mul_div_mul_right _ _ positive

/-- A digest of two bytes is enough. -/
theorem dice_rolls_unbiased_two_bytes :
    (∀ sha256 : Bytes → List.Vector Byte 2, ∃ outcome < 100,
      computeDiceRng sha256 [] [] = some outcome ∧ dice_rng sha256 [] [] = outcome) ∧
    (∀ outcome < 100, ∀ other < 100,
      rolls 2 [] [] (· == outcome) = rolls 2 [] [] (· == other)) ∧
    ∀ rollTarget : Nat, rollTarget ≤ 100 →
      (rolls 2 [] [] fun outcome => isDiceWin outcome rollTarget : ℚ) /
          Fintype.card {digest : List.Vector Byte 2 // HasLowByte digest.toList} =
        rollTarget / 100 :=
  dice_rolls_unbiased (Nat.le_refl 2) [] []

end DuckPools.Dice
