import DuckPools.Games.Dice
import Mathlib.Algebra.Order.Field.Basic
import Mathlib.Data.Rat.Floor
import Mathlib.Tactic.FieldSimp
import Mathlib.Tactic.Linarith
import Mathlib.Tactic.NormNum

/-!
# What a dice bet pays: `frontend/src/utils/dice.ts`

The edge is interpolated and clamped. In exact arithmetic it is a little over one percent for
the riskiest target and a little under three for the safest, so that it never comes near the
bounds it is clamped to. What is paid on the average over all digests is the bet without the
edge, up to the rounding of the payout. With the safest target even a bet that is won loses.
-/

namespace DuckPools.Dice

def DICE_MIN_TARGET : Nat := 2

def DICE_MAX_TARGET : Nat := 98

def DICE_BASE_HOUSE_EDGE : ℚ := 3 / 100

def DICE_MIN_HOUSE_EDGE : ℚ := 1 / 100

def DICE_MAX_HOUSE_EDGE : ℚ := 5 / 100

def getDiceHouseEdge (rollTarget : ℚ) : ℚ :=
  let winProbability := rollTarget / 100
  let riskFactor := 1 - winProbability
  let edge := DICE_BASE_HOUSE_EDGE - riskFactor * (2 / 100)
  max DICE_MIN_HOUSE_EDGE (min DICE_MAX_HOUSE_EDGE edge)

def getDiceMultiplier (rollTarget : ℚ) : ℚ :=
  let houseEdge := getDiceHouseEdge rollTarget
  (100 / rollTarget) * (1 - houseEdge)

def calculateDicePayout (betNanoErg rollTarget : ℚ) : Int :=
  let multiplier := getDiceMultiplier rollTarget
  ⌊betNanoErg * multiplier⌋

/-- `isValidRollTarget` of the dice form. -/
def isValidRollTarget (rollTarget : Nat) : Prop :=
  DICE_MIN_TARGET ≤ rollTarget ∧ rollTarget ≤ DICE_MAX_TARGET

section Edge

variable {t : Nat}

/-- Below a hundred, nothing is clamped. -/
theorem getDiceHouseEdge_eq (h : t ≤ 100) : getDiceHouseEdge t = 1 / 100 + t / 5000 := by
  have nonneg : (0 : ℚ) ≤ t := Nat.cast_nonneg t
  have bound : (t : ℚ) ≤ 100 := by exact_mod_cast h
  have edge : DICE_BASE_HOUSE_EDGE - (1 - (t : ℚ) / 100) * (2 / 100) = 1 / 100 + t / 5000 := by
    rw [DICE_BASE_HOUSE_EDGE]
    ring
  rw [getDiceHouseEdge]
  simp only [edge, DICE_MIN_HOUSE_EDGE, DICE_MAX_HOUSE_EDGE]
  rw [min_eq_right (by linarith), max_eq_right (by linarith)]

/-- With the share of the rolls that win, the multiplier gives the bet without the edge. -/
theorem share_mul_multiplier (pos : 0 < t) :
    (t : ℚ) / 100 * getDiceMultiplier t = 1 - getDiceHouseEdge t := by
  have nonzero : (t : ℚ) ≠ 0 := Nat.cast_ne_zero.mpr pos.ne'
  rw [getDiceMultiplier]
  field_simp

theorem getDiceMultiplier_lt_one_iff (pos : 0 < t) (h : t ≤ 100) :
    getDiceMultiplier t < 1 ↔ 98 ≤ t := by
  have positive : (0 : ℚ) < t := Nat.cast_pos.mpr pos
  have whole : getDiceMultiplier t = (99 - t / 50) / t := by
    rw [getDiceMultiplier, getDiceHouseEdge_eq h]
    ring
  rw [whole, div_lt_one positive]
  constructor
  · intro below
    have scaled : (4950 : ℚ) < 51 * t := by linarith
    have count : 4950 < 51 * t := by exact_mod_cast scaled
    omega
  · intro safe
    have cast : (98 : ℚ) ≤ t := by exact_mod_cast safe
    linarith

/-- Whether winning is worth it. -/
theorem payout_lt_bet_iff (pos : 0 < t) (h : t ≤ 100) {bet : Nat} (stake : 0 < bet) :
    calculateDicePayout bet t < bet ↔ 98 ≤ t := by
  have positive : (0 : ℚ) < bet := Nat.cast_pos.mpr stake
  rw [calculateDicePayout, Int.floor_lt, ← getDiceMultiplier_lt_one_iff pos h, Int.cast_natCast]
  exact mul_lt_iff_lt_one_right positive

end Edge

section Average

variable (n : Nat) (blockHash : Text) (secretBytes : Bytes)

/-- What is paid to the player for this digest. -/
def paid (bet : ℚ) (rollTarget : Nat) (digest : List.Vector Byte n) : Int :=
  match computeDiceRng (fun _ => digest) blockHash secretBytes with
  | some outcome =>
      if isDiceWin outcome rollTarget then calculateDicePayout bet rollTarget else 0
  | none => 0

/-- Over the digests with an accepted byte. -/
def averagePaid (bet : ℚ) (rollTarget : Nat) : ℚ :=
  (∑ digest : {digest : List.Vector Byte n // HasLowByte digest.toList},
      (paid n blockHash secretBytes bet rollTarget digest.1 : ℚ)) /
    Fintype.card {digest : List.Vector Byte n // HasLowByte digest.toList}

variable {n blockHash secretBytes} {t : Nat} {bet : ℚ}

theorem paid_eq (digest : List.Vector Byte n) :
    (paid n blockHash secretBytes bet t digest : ℚ) =
      if (computeDiceRng (fun _ => digest) blockHash secretBytes).any
          (fun outcome : Nat => isDiceWin outcome t) then
        (calculateDicePayout bet t : ℚ)
      else 0 := by
  rw [paid]
  cases computeDiceRng (fun _ => digest) blockHash secretBytes with
  | none => simp
  | some outcome =>
      simp only [Option.any_some]
      split
      · rfl
      · simp

/-- The payout is due for the rolls below the target. -/
theorem sum_paid (h : t ≤ 100) :
    ∑ digest : {digest : List.Vector Byte n // HasLowByte digest.toList},
        (paid n blockHash secretBytes bet t digest.1 : ℚ) =
      t * digestsOf n 0 * calculateDicePayout bet t := by
  have won : (Finset.univ.filter fun digest : {digest : List.Vector Byte n //
      HasLowByte digest.toList} => (computeDiceRng (fun _ => digest.1) blockHash secretBytes).any
        (fun outcome : Nat => isDiceWin outcome t) = true).card = t * digestsOf n 0 := by
    rw [← @rolls_isDiceWin n blockHash secretBytes t h, rolls, ← Fintype.card_subtype]
    exact Fintype.card_congr (Equiv.subtypeSubtypeEquivSubtypeInter
      (fun digest : List.Vector Byte n => HasLowByte digest.toList)
      fun digest => (computeDiceRng (fun _ => digest) blockHash secretBytes).any
        (fun outcome : Nat => isDiceWin outcome t) = true)
  simp only [paid_eq]
  rw [← Finset.sum_filter, Finset.sum_const, won, nsmul_eq_mul]
  push_cast
  rfl

theorem averagePaid_eq (hn : 0 < n) (h : t ≤ 100) :
    averagePaid n blockHash secretBytes bet t = t / 100 * calculateDicePayout bet t := by
  have positive : (digestsOf n 0 : ℚ) ≠ 0 := Nat.cast_ne_zero.mpr (digestsOf_pos hn).ne'
  have total : Fintype.card {digest : List.Vector Byte n // HasLowByte digest.toList} =
      100 * digestsOf n 0 := count_hasLowByte
  rw [averagePaid, sum_paid h, total]
  push_cast
  field_simp

end Average

end DuckPools.Dice
