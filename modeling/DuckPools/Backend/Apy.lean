import DuckPools.Backend.PoolManager
import DuckPools.Language.Numbers

/-!
# The yield of the pool: `calculateAPY` and `calculate_apy`

`sdk/src/pool/BankrollPool.ts` computes the yield with `BigInt`s and takes the number of bets
in a block for one too: a rate with a fraction throws. `backend/pool_manager.py` computes it
with decimals. Both document the same percentage, and the SDK leaves out its factor of 100.
Numbers, floating point ones too, are exact here.
-/

namespace DuckPools.Backend.PoolManager

open Decimal

def BLOCKS_PER_YEAR : Int := 262_800

/-- `none` is the `RangeError` of `BigInt`. -/
def calculateAPY (houseEdgeBps : ℚ) (avgBetSize : Int) (betsPerBlock : ℚ) (bankroll : Int)
    (blocksPerYear : ℚ := 262_800) : Option ℚ :=
  if bankroll = 0 then some 0
  else do
    let houseEdge ← Js.bigIntOfNumber houseEdgeBps
    let bets ← Js.bigIntOfNumber betsPerBlock
    let profitPerBlock := (avgBetSize * houseEdge * bets).tdiv 10000
    let blocks ← Js.bigIntOfNumber blocksPerYear
    let annualProfit := profitPerBlock * blocks
    return ((annualProfit * 10000).tdiv bankroll : Int) / 10000

structure APYInfo where
  apy_percent : ℚ
  house_edge_bps : Int
  avg_bet_size : Int
  bets_per_block : ℚ
  bankroll : Int
  estimated_daily_profit : Int
  estimated_monthly_profit : Int
  estimated_yearly_profit : Int

def calculateApy (houseEdgeBps avgBetSize : Int) (betsPerBlock : ℚ) (bankroll : Int)
    (blocksPerYear : Int := BLOCKS_PER_YEAR) : APYInfo :=
  if bankroll = 0 then
    { apy_percent := 0
      house_edge_bps := houseEdgeBps
      avg_bet_size := avgBetSize
      bets_per_block := betsPerBlock
      bankroll
      estimated_daily_profit := 0
      estimated_monthly_profit := 0
      estimated_yearly_profit := 0 }
  else
    let houseEdge := div prec houseEdgeBps 10000
    let profitPerBlock :=
      Decimal.truncate (mul prec (mul prec avgBetSize houseEdge) betsPerBlock)
    let blocksPerDay := 720
    let blocksPerMonth := 21_600
    let yearlyProfit := profitPerBlock * blocksPerYear
    { apy_percent := if bankroll > 0 then mul prec (div prec yearlyProfit bankroll) 100 else 0
      house_edge_bps := houseEdgeBps
      avg_bet_size := avgBetSize
      bets_per_block := betsPerBlock
      bankroll
      estimated_daily_profit := profitPerBlock * blocksPerDay
      estimated_monthly_profit := profitPerBlock * blocksPerMonth
      estimated_yearly_profit := yearlyProfit }

section Documentation

/-- The profit of a block, truncated. -/
def profit (houseEdgeBps avgBetSize : Nat) (betsPerBlock : ℚ) : Nat :=
  ⌊(avgBetSize : ℚ) * houseEdgeBps * betsPerBlock / 10000⌋₊

/-- `(profitPerBlock / bankroll) * blocksPerYear * 100` -/
def documentedApy (houseEdgeBps avgBetSize : Nat) (betsPerBlock : ℚ)
    (bankroll blocksPerYear : Nat) : ℚ :=
  (profit houseEdgeBps avgBetSize betsPerBlock : ℚ) / bankroll * blocksPerYear * 100

/-- Truncation to four decimals. -/
def fourDecimals (x : ℚ) : ℚ := Decimal.truncate (x * 10000) / 10000

/-- The SDK returns what is documented, and what the backend returns. -/
def ReturnsApy (houseEdgeBps avgBetSize : Nat) (betsPerBlock : ℚ)
    (bankroll blocksPerYear : Nat) : Prop :=
  ∃ apy, calculateAPY houseEdgeBps avgBetSize betsPerBlock bankroll blocksPerYear = some apy ∧
    apy = fourDecimals (documentedApy houseEdgeBps avgBetSize betsPerBlock bankroll blocksPerYear) ∧
    apy = fourDecimals
      (calculateApy houseEdgeBps avgBetSize betsPerBlock bankroll blocksPerYear).apy_percent

end Documentation

variable {houseEdgeBps avgBetSize bankroll blocksPerYear : Nat}

theorem bigIntOfNumber_natCast (n : Nat) : Js.bigIntOfNumber (n : ℚ) = some (n : Int) := rfl

theorem exists_natCast {x : ℚ} (h : 0 ≤ x) (whole : x.den = 1) : ∃ n : Nat, x = n := by
  refine ⟨x.num.toNat, ?_⟩
  have num : 0 ≤ x.num := Rat.num_nonneg.mpr h
  calc x = (x.num : ℚ) := (Rat.den_eq_one_iff x).mp whole |>.symm
    _ = ((x.num.toNat : Int) : ℚ) := by rw [Int.toNat_of_nonneg num]
    _ = (x.num.toNat : ℚ) := Int.cast_natCast _

theorem profit_natCast (houseEdgeBps avgBetSize bets : Nat) :
    profit houseEdgeBps avgBetSize bets = avgBetSize * houseEdgeBps * bets / 10000 := by
  rw [profit, ← Nat.cast_mul, ← Nat.cast_mul]
  exact Nat.floor_div_ofNat _ _

/-- A whole number of bets in a block. -/
theorem calculateAPY_natCast (bets : Nat) (positive : 0 < bankroll) :
    calculateAPY houseEdgeBps avgBetSize bets bankroll blocksPerYear =
      some (((profit houseEdgeBps avgBetSize bets * blocksPerYear * 10000 / bankroll : Nat) : ℚ) /
        10000) := by
  rw [calculateAPY, if_neg (by omega), bigIntOfNumber_natCast, bigIntOfNumber_natCast,
    bigIntOfNumber_natCast, profit_natCast, ← Int.cast_natCast]
  rfl

/-- A rate with a fraction throws. -/
theorem calculateAPY_eq_none {bets : ℚ} (positive : 0 < bankroll) (fraction : bets.den ≠ 1) :
    calculateAPY houseEdgeBps avgBetSize bets bankroll blocksPerYear = none := by
  rw [calculateAPY, if_neg (by omega), bigIntOfNumber_natCast, Js.bigIntOfNumber, if_neg fraction]
  rfl

theorem fourDecimals_div (n : Nat) (bankroll : Nat) :
    fourDecimals ((n : ℚ) / bankroll) = (n * 10000 / bankroll : Nat) / 10000 := by
  have scaled : (n : ℚ) / bankroll * 10000 = ((n * 10000 : Nat) : ℚ) / (bankroll : ℚ) := by
    rw [Nat.cast_mul, Nat.cast_ofNat, div_mul_eq_mul_div]
  rw [fourDecimals, scaled,
    truncate_of_nonneg (div_nonneg (Nat.cast_nonneg _) (Nat.cast_nonneg _)),
    Nat.floor_div_eq_div, Int.cast_natCast]

theorem documentedApy_eq (bets : ℚ) :
    documentedApy houseEdgeBps avgBetSize bets bankroll blocksPerYear =
      ((profit houseEdgeBps avgBetSize bets * blocksPerYear * 100 : Nat) : ℚ) / bankroll := by
  rw [documentedApy, Nat.cast_mul, Nat.cast_mul, Nat.cast_ofNat, div_mul_eq_mul_div,
    div_mul_eq_mul_div]

theorem fourDecimals_mono {x y : ℚ} (hx : 0 ≤ x) (h : x ≤ y) :
    0 ≤ fourDecimals x ∧ fourDecimals x ≤ fourDecimals y := by
  have scaled : 0 ≤ x * 10000 := mul_nonneg hx (by norm_num)
  have le : x * 10000 ≤ y * 10000 := mul_le_mul_of_nonneg_right h (by norm_num)
  rw [fourDecimals, fourDecimals, truncate_of_nonneg scaled, truncate_of_nonneg (scaled.trans le),
    Int.cast_natCast, Int.cast_natCast]
  exact ⟨div_nonneg (Nat.cast_nonneg _) (by norm_num),
    div_le_div_of_nonneg_right (Nat.cast_le.mpr (Nat.floor_mono le)) (by norm_num)⟩

/-- A rounded product or quotient of the backend is not above the exact one. -/
theorem mul_bounds {x y X Y : ℚ} (hx : 0 ≤ x) (hy : 0 ≤ y) (hX : x ≤ X) (hY : y ≤ Y) :
    0 ≤ mul prec x y ∧ mul prec x y ≤ X * Y := by
  have product : 0 ≤ x * y := mul_nonneg hx hy
  exact ⟨roundDown_nonneg product prec,
    (roundDown_le product prec).trans (mul_le_mul hX hY hy (hx.trans hX))⟩

theorem div_bounds {x X c : ℚ} (hx : 0 ≤ x) (hc : 0 < c) (hX : x ≤ X) :
    0 ≤ div prec x c ∧ div prec x c ≤ X / c := by
  have quotient : 0 ≤ x / c := div_nonneg hx hc.le
  exact ⟨roundDown_nonneg quotient prec,
    (roundDown_le quotient prec).trans (div_le_div_of_nonneg_right hX hc.le)⟩

/-- The backend rounds towards zero at every step. -/
theorem calculateApy_le_documentedApy {bets : ℚ} (hbets : 0 ≤ bets) (positive : 0 < bankroll) :
    0 ≤ (calculateApy houseEdgeBps avgBetSize bets bankroll blocksPerYear).apy_percent ∧
      (calculateApy houseEdgeBps avgBetSize bets bankroll blocksPerYear).apy_percent ≤
        documentedApy houseEdgeBps avgBetSize bets bankroll blocksPerYear := by
  have edge := @div_bounds (houseEdgeBps : ℚ) houseEdgeBps 10000 (Nat.cast_nonneg _) (by norm_num)
    le_rfl
  have bet := @mul_bounds (avgBetSize : ℚ) _ avgBetSize _ (Nat.cast_nonneg _) edge.1 le_rfl edge.2
  have won := mul_bounds bet.1 hbets bet.2 (le_refl bets)
  obtain ⟨lost, truncated, le⟩ : ∃ lost : Nat,
      Decimal.truncate (mul prec (mul prec avgBetSize (div prec houseEdgeBps 10000)) bets) =
        lost ∧ lost ≤ profit houseEdgeBps avgBetSize bets := by
    refine ⟨_, truncate_of_nonneg won.1, ?_⟩
    apply Nat.floor_mono
    calc mul prec (mul prec avgBetSize (div prec houseEdgeBps 10000)) bets
        ≤ (avgBetSize : ℚ) * (houseEdgeBps / 10000) * bets := won.2
      _ = (avgBetSize : ℚ) * houseEdgeBps * bets / 10000 := by ring
  have yearly : ((lost * blocksPerYear : Nat) : ℚ) ≤
      (profit houseEdgeBps avgBetSize bets * blocksPerYear : Nat) :=
    Nat.cast_le.mpr (Nat.mul_le_mul_right _ le)
  have share := @div_bounds ((lost * blocksPerYear : Nat) : ℚ) _ (bankroll : ℚ)
    (Nat.cast_nonneg _) (Nat.cast_pos.mpr positive) yearly
  have percent := mul_bounds share.1 (by norm_num : (0 : ℚ) ≤ 100) share.2 le_rfl
  have value : (calculateApy houseEdgeBps avgBetSize bets bankroll blocksPerYear).apy_percent =
      mul prec (div prec ((lost * blocksPerYear : Nat) : ℚ) bankroll) 100 := by
    rw [calculateApy, if_neg (by omega)]
    simp only [Int.cast_natCast, truncated]
    rw [if_pos (by omega), Int.cast_mul, Int.cast_natCast, Int.cast_natCast, Nat.cast_mul]
  rw [value, documentedApy_eq]
  refine ⟨percent.1, percent.2.trans_eq ?_⟩
  rw [div_mul_eq_mul_div, Nat.cast_mul (_ * _), Nat.cast_ofNat]

/-- A quotient that does not change when it is scaled by 100 is zero. -/
theorem hundredfold_eq_iff {n d : Nat} (positive : 0 < d) :
    n / d = n * 100 / d ↔ n * 100 < d := by
  constructor
  · intro same
    have hundred : 100 * (n / d) ≤ n * 100 / d := by
      rw [Nat.mul_comm n]
      exact Nat.mul_div_le_mul_div_assoc 100 n d
    have zero : n * 100 / d = 0 := by omega
    exact (Nat.div_eq_zero_iff_lt positive).mp zero
  · intro below
    rw [Nat.div_eq_of_lt below, Nat.div_eq_of_lt (by omega)]

theorem shown_eq_zero {yearly bankroll : Nat} (below : yearly * 10000 * 100 < bankroll) :
    ((yearly * 10000 / bankroll : Nat) : ℚ) / 10000 = 0 := by
  rw [Nat.div_eq_of_lt ((Nat.le_mul_of_pos_right _ (by norm_num)).trans_lt below), Nat.cast_zero,
    zero_div]

/-- The percentage is below what four decimals show. -/
theorem fourDecimals_documentedApy_eq_iff (bets : ℚ) (positive : 0 < bankroll) :
    ((profit houseEdgeBps avgBetSize bets * blocksPerYear * 10000 / bankroll : Nat) : ℚ) / 10000 =
        fourDecimals (documentedApy houseEdgeBps avgBetSize bets bankroll blocksPerYear) ↔
      profit houseEdgeBps avgBetSize bets * blocksPerYear * 10000 * 100 < bankroll := by
  rw [documentedApy_eq, fourDecimals_div,
    div_left_inj' (by norm_num : (10000 : ℚ) ≠ 0), Nat.cast_inj, Nat.mul_right_comm _ 100 10000]
  exact hundredfold_eq_iff positive

/-- Below four decimals the backend shows nothing either. -/
theorem fourDecimals_calculateApy_eq_zero {bets : ℚ} (hbets : 0 ≤ bets) (positive : 0 < bankroll)
    (below : profit houseEdgeBps avgBetSize bets * blocksPerYear * 10000 * 100 < bankroll) :
    fourDecimals
      (calculateApy houseEdgeBps avgBetSize bets bankroll blocksPerYear).apy_percent = 0 := by
  obtain ⟨nonneg, le⟩ := @calculateApy_le_documentedApy houseEdgeBps avgBetSize bankroll
    blocksPerYear bets hbets positive
  obtain ⟨low, high⟩ := fourDecimals_mono nonneg le
  have documented : fourDecimals
      (documentedApy houseEdgeBps avgBetSize bets bankroll blocksPerYear) = 0 := by
    rw [← (fourDecimals_documentedApy_eq_iff bets positive).mpr below, shown_eq_zero below]
  exact le_antisymm (high.trans_eq documented) low

theorem den_eq_one_of_some {bets apy : ℚ} (positive : 0 < bankroll)
    (h : calculateAPY houseEdgeBps avgBetSize bets bankroll blocksPerYear = some apy) :
    bets.den = 1 := by
  by_contra fraction
  rw [calculateAPY_eq_none positive fraction] at h
  cases h

/-- More profit, less bankroll. -/
theorem calculateAPY_mono {houseEdgeBps' avgBetSize' bankroll' : Nat} {bets bets' apy apy' : ℚ}
    (hbets : 0 ≤ bets) (edge : houseEdgeBps ≤ houseEdgeBps') (bet : avgBetSize ≤ avgBetSize')
    (rate : bets ≤ bets') (positive : 0 < bankroll') (less : bankroll' ≤ bankroll)
    (before : calculateAPY houseEdgeBps avgBetSize bets bankroll blocksPerYear = some apy)
    (after : calculateAPY houseEdgeBps' avgBetSize' bets' bankroll' blocksPerYear = some apy') :
    apy ≤ apy' := by
  obtain ⟨n, rfl⟩ := exists_natCast hbets (den_eq_one_of_some (positive.trans_le less) before)
  obtain ⟨m, rfl⟩ := exists_natCast (hbets.trans rate) (den_eq_one_of_some positive after)
  rw [calculateAPY_natCast n (positive.trans_le less), Option.some.injEq] at before
  rw [calculateAPY_natCast m positive, Option.some.injEq] at after
  have won : profit houseEdgeBps avgBetSize n ≤ profit houseEdgeBps' avgBetSize' m := by
    rw [profit_natCast, profit_natCast]
    exact Nat.div_le_div_right
      (Nat.mul_le_mul (Nat.mul_le_mul bet edge) (Nat.cast_le.mp rate))
  have yearly := Nat.mul_le_mul_right 10000 (Nat.mul_le_mul_right blocksPerYear won)
  rw [← before, ← after]
  exact div_le_div_of_nonneg_right (Nat.cast_le.mpr (Nat.div_le_div yearly less positive.ne'))
    (by norm_num)

/-- The SDK is right exactly about whole rates whose yield four decimals do not show. Where
it returns, it is monotone. -/
theorem calculateAPY_correct_iff (houseEdgeBps avgBetSize : Nat) {bets : ℚ} (hbets : 0 ≤ bets)
    {bankroll : Nat} (positive : 0 < bankroll) (blocksPerYear : Nat) :
    (ReturnsApy houseEdgeBps avgBetSize bets bankroll blocksPerYear ↔
      bets.den = 1 ∧
        profit houseEdgeBps avgBetSize bets * blocksPerYear * 10000 * 100 < bankroll) ∧
    ∀ (houseEdgeBps' avgBetSize' : Nat) (bets' : ℚ) (bankroll' : Nat) (apy apy' : ℚ),
      houseEdgeBps ≤ houseEdgeBps' → avgBetSize ≤ avgBetSize' → bets ≤ bets' →
      0 < bankroll' → bankroll' ≤ bankroll →
      calculateAPY houseEdgeBps avgBetSize bets bankroll blocksPerYear = some apy →
      calculateAPY houseEdgeBps' avgBetSize' bets' bankroll' blocksPerYear = some apy' →
        apy ≤ apy' := by
  refine ⟨?_, ?_⟩
  · constructor
    · rintro ⟨apy, returned, documented, -⟩
      have whole := den_eq_one_of_some positive returned
      obtain ⟨n, rfl⟩ := exists_natCast hbets whole
      rw [calculateAPY_natCast n positive, Option.some.injEq] at returned
      rw [← returned] at documented
      exact ⟨whole, (fourDecimals_documentedApy_eq_iff _ positive).mp documented⟩
    · rintro ⟨whole, below⟩
      obtain ⟨n, rfl⟩ := exists_natCast hbets whole
      refine ⟨_, calculateAPY_natCast n positive,
        (fourDecimals_documentedApy_eq_iff _ positive).mpr below, ?_⟩
      rw [fourDecimals_calculateApy_eq_zero hbets positive below, shown_eq_zero below]
  · intro houseEdgeBps' avgBetSize' bets' bankroll' apy apy' edge bet rate some less before after
    exact calculateAPY_mono hbets edge bet rate some less before after

/-- One bet of 1 ERG in a block and 100,000 ERG of bankroll. -/
theorem calculateAPY_correct_iff_example :
    (ReturnsApy 300 1_000_000_000 1 100_000_000_000_000 262_800 ↔
      (1 : ℚ).den = 1 ∧
        profit 300 1_000_000_000 1 * 262_800 * 10000 * 100 < 100_000_000_000_000) ∧
    ∀ (houseEdgeBps' avgBetSize' : Nat) (bets' : ℚ) (bankroll' : Nat) (apy apy' : ℚ),
      300 ≤ houseEdgeBps' → 1_000_000_000 ≤ avgBetSize' → 1 ≤ bets' →
      0 < bankroll' → bankroll' ≤ 100_000_000_000_000 →
      calculateAPY (300 : Nat) (1_000_000_000 : Nat) 1 (100_000_000_000_000 : Nat)
        (262_800 : Nat) = some apy →
      calculateAPY houseEdgeBps' avgBetSize' bets' bankroll' (262_800 : Nat) = some apy' →
        apy ≤ apy' :=
  calculateAPY_correct_iff 300 1_000_000_000 (by norm_num : (0 : ℚ) ≤ 1)
    (by norm_num : 0 < 100_000_000_000_000) 262_800

/-- The yield of 7.884 percent is shown as 0.0788, and half a bet in a block throws. -/
theorem apy_factor_missing :
    ¬ ∀ (houseEdgeBps avgBetSize : Nat) (bets : ℚ) (bankroll : Nat), 0 ≤ bets → 0 < bankroll →
      ReturnsApy houseEdgeBps avgBetSize bets bankroll 262_800 := by
  intro h
  obtain ⟨apy, returned, -⟩ := h 300 1_000_000_000 (1 / 2) 1 (by norm_num) (by norm_num)
  rw [calculateAPY_eq_none (by norm_num) (by decide +kernel)] at returned
  cases returned

end DuckPools.Backend.PoolManager
