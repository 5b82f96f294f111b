import DuckPools.Backend.LpWithdrawals
import DuckPools.Pool.Shares

/-!
# The estimates of `backend/pool_manager.py`

The share formulas of the backend are the integer formulas of the SDK as long as the products
have no more than fifty digits, except that a pool without value has the price of the first
deposit here.

The estimates of `PoolManager` cap the payment so that the pool keeps its minimum. One of
them burns all the shares it was asked for although it pays less, the other one converts the
capped payment back into shares and rounds them down.
-/

namespace DuckPools.Backend.PoolManager

open Decimal

structure CachedState extends LpPool.PoolState where
  price_per_share : Int

structure WithdrawEstimate where
  shares_to_burn : Int
  erg_to_receive : Int
  price_per_share : Int
  new_total_value : Int
  new_total_supply : Int

/-- The fields that the estimates read. -/
structure Manager where
  config : LpPool.PoolConfig
  cached_state : Option CachedState

def Manager.estimateWithdraw (manager : Manager) (shares : Int) :
    Except String WithdrawEstimate :=
  match manager.cached_state with
  | none => throw "Pool state not loaded; call get_pool_state first"
  | some state =>
      let erg := calculateWithdrawErg shares state.total_value state.total_supply
      let max_withdraw := LpPool.maxWithdraw manager.config state.toPoolState
      let erg := if erg > max_withdraw then max_withdraw else erg
      return {
        shares_to_burn := shares
        erg_to_receive := erg
        price_per_share := state.price_per_share
        new_total_value := state.total_value - erg
        new_total_supply := state.total_supply - shares }

def Manager.estimateWithdrawForErg (manager : Manager) (desiredErg : Int) :
    Except String WithdrawEstimate :=
  match manager.cached_state with
  | none => throw "Pool state not loaded; call get_pool_state first"
  | some state =>
      let shares := calculateSharesToBurnForErg desiredErg state.total_value state.total_supply
      let actual_erg := calculateWithdrawErg shares state.total_value state.total_supply
      let max_withdraw := LpPool.maxWithdraw manager.config state.toPoolState
      let (shares, actual_erg) :=
        if actual_erg > max_withdraw then
          (calculateSharesToBurnForErg max_withdraw state.total_value state.total_supply,
            max_withdraw)
        else (shares, actual_erg)
      return {
        shares_to_burn := shares
        erg_to_receive := actual_erg
        price_per_share := state.price_per_share
        new_total_value := state.total_value - actual_erg
        new_total_supply := state.total_supply - shares }

section Sdk

/-- The formulas of the SDK give the same numbers. -/
structure AgreesWithSdk (deposit burn value supply precision : Nat) : Prop where
  price : calculatePricePerShare value supply precision =
    Bankroll.calculatePricePerShare value supply precision
  shares : calculateDepositShares deposit value supply =
    Bankroll.calculateDepositShares deposit value supply
  erg : calculateWithdrawErg burn value supply =
    Bankroll.calculateWithdrawErg burn value supply

variable {deposit burn value supply precision : Nat}

theorem price_agrees_iff (hprice : value * precision < 10 ^ 50) :
    calculatePricePerShare value supply precision =
        Bankroll.calculatePricePerShare value supply precision ↔
      (value = 0 → supply = 0 ∨ precision = 0) := by
  by_cases hsupply : supply = 0
  · rw [hsupply]
    exact iff_of_true rfl fun _ => Or.inl rfl
  · by_cases hvalue : value = 0
    · rw [calculatePricePerShare, Bankroll.calculatePricePerShare, if_pos (by omega),
        if_neg hsupply, hvalue, Nat.zero_mul, Nat.zero_div]
      omega
    · rw [calculatePricePerShare_natCast hvalue hsupply, Bankroll.calculatePricePerShare,
        if_neg hsupply, decimalQuotient_of_lt hprice (Nat.pos_of_ne_zero hsupply)]
      exact iff_of_true rfl fun h => absurd h hvalue

theorem shares_agree (hdeposit : deposit * supply < 10 ^ 50) :
    calculateDepositShares deposit value supply =
      Bankroll.calculateDepositShares deposit value supply := by
  by_cases degenerate : supply = 0 ∨ value = 0
  · rw [calculateDepositShares, Bankroll.calculateDepositShares, if_pos (by omega),
      if_pos degenerate]
  · obtain ⟨hsupply, hvalue⟩ := not_or.mp degenerate
    rw [calculateDepositShares_natCast hvalue hsupply, Bankroll.calculateDepositShares,
      if_neg degenerate, decimalQuotient_of_lt hdeposit (Nat.pos_of_ne_zero hvalue)]

theorem erg_agrees (hburn : burn * value < 10 ^ 50) :
    calculateWithdrawErg burn value supply = Bankroll.calculateWithdrawErg burn value supply := by
  by_cases hsupply : supply = 0
  · rw [hsupply]
    rfl
  · rw [calculateWithdrawErg_natCast hsupply, Bankroll.calculateWithdrawErg, if_neg hsupply,
      decimalQuotient_of_lt hburn (Nat.pos_of_ne_zero hsupply)]

/-- The two modules agree unless shares are outstanding that nothing backs. -/
theorem pool_arithmetic_agrees_iff (hprice : value * precision < 10 ^ 50)
    (hdeposit : deposit * supply < 10 ^ 50) (hburn : burn * value < 10 ^ 50) :
    AgreesWithSdk deposit burn value supply precision ↔
      (value = 0 → supply = 0 ∨ precision = 0) := by
  constructor
  · intro agrees
    exact (price_agrees_iff hprice).mp agrees.price
  · intro backed
    exact ⟨(price_agrees_iff hprice).mpr backed, shares_agree hdeposit, erg_agrees hburn⟩

theorem pool_arithmetic_agrees_iff_example :
    AgreesWithSdk 10 20 300 400 Bankroll.PRECISION ∧
      ¬ AgreesWithSdk 10 20 0 400 Bankroll.PRECISION := by
  constructor
  · apply (pool_arithmetic_agrees_iff (by decide) (by decide) (by decide)).mpr
    decide
  · intro agrees
    have backed := (pool_arithmetic_agrees_iff (by decide) (by decide) (by decide)).mp agrees rfl
    revert backed
    decide

/-- A pool without value: one price is that of a first deposit, the other one is zero. -/
theorem worthless_pool_price_differs :
    ¬ ∀ deposit burn value supply : Nat, value * Bankroll.PRECISION < 10 ^ 50 →
      deposit * supply < 10 ^ 50 → burn * value < 10 ^ 50 →
        AgreesWithSdk deposit burn value supply Bankroll.PRECISION := by
  intro h
  have agrees := h 0 0 0 1 (by decide) (by decide) (by decide)
  have price := (price_agrees_iff (by decide)).mp agrees.price rfl
  revert price
  decide

end Sdk

section Estimates

/-- The holder gets what the burned shares are worth, and the other holders' shares are
worth no less than before. -/
structure Fair (value supply : Int) (estimate : WithdrawEstimate) : Prop where
  paid : estimate.erg_to_receive = estimate.shares_to_burn * value / supply
  notDiluted : value * (supply - estimate.shares_to_burn) ≤
    (value - estimate.erg_to_receive) * supply

/-- The result exists and is fair. -/
def FairResult (value supply : Int) : Except String WithdrawEstimate → Prop
  | .ok estimate => Fair value supply estimate
  | .error _ => False

/-- What a pool of that value can pay above its minimum. -/
def payable (manager : Manager) (value : Nat) : Nat :=
  ((value : Int) - manager.config.min_pool_value).toNat

/-- `estimate_withdraw` is fair: the payment is not capped, and exact in fifty digits. -/
def PayableInFull (manager : Manager) (value supply shares : Nat) : Prop :=
  shares * value / supply ≤ payable manager value ∧ ExactQuotient prec (shares * value) supply

/-- The payment for the shares that the desired amount is converted to. -/
def worth (value supply desired : Nat) : Nat :=
  decimalQuotient (decimalQuotient (desired * supply) value * value) supply

/-- `estimate_withdraw_for_erg` is fair: the payment is not capped and exact in fifty digits,
or the capped payment is a whole number of shares. -/
def ConvertsExactly (manager : Manager) (value supply desired : Nat) : Prop :=
  if worth value supply desired ≤ payable manager value then
    ExactQuotient prec (decimalQuotient (desired * supply) value * value) supply
  else
    value ∣ payable manager value * supply ∧
      ExactQuotient prec (payable manager value * supply) value

instance (manager : Manager) (value supply shares : Nat) :
    Decidable (PayableInFull manager value supply shares) :=
  inferInstanceAs (Decidable (_ ∧ _))

instance (manager : Manager) (value supply desired : Nat) :
    Decidable (ConvertsExactly manager value supply desired) :=
  inferInstanceAs (Decidable (ite (_ ≤ _) _ _))

variable {value supply : Nat}

/-- A payment of at most the worth of the shares dilutes nobody. -/
theorem notDiluted_of_le {erg shares : Nat} (h : erg * supply ≤ shares * value) :
    (value : Int) * (supply - shares) ≤ (value - erg) * supply := by
  have cast : (erg : Int) * supply ≤ shares * value := by exact_mod_cast h
  calc (value : Int) * (supply - shares) = value * supply - shares * value := by ring
    _ ≤ value * supply - erg * supply := by omega
    _ = (value - erg) * supply := by ring

theorem le_of_notDiluted {erg shares : Nat}
    (h : (value : Int) * (supply - shares) ≤ (value - erg) * supply) :
    erg * supply ≤ shares * value := by
  have parts : (value : Int) * (supply - shares) = value * supply - shares * value := by ring
  have parts' : ((value : Int) - erg) * supply = value * supply - erg * supply := by ring
  have cast : (erg : Int) * supply ≤ shares * value := by omega
  exact_mod_cast cast

/-- The formula in decimals never pays more than the shares are worth. -/
theorem fair_decimalQuotient_iff (hsupply : 0 < supply) {shares : Nat}
    {estimate : WithdrawEstimate} (hshares : estimate.shares_to_burn = shares)
    (herg : estimate.erg_to_receive = decimalQuotient (shares * value) supply) :
    Fair value supply estimate ↔ ExactQuotient prec (shares * value) supply := by
  have bound : decimalQuotient (shares * value) supply * supply ≤ shares * value :=
    (Nat.mul_le_mul_right supply (decimalQuotient_le _ _)).trans (Nat.div_mul_le_self _ _)
  rw [← decimalQuotient_eq_iff hsupply]
  constructor
  · intro fair
    have paid := fair.paid
    rw [hshares, herg] at paid
    exact_mod_cast paid
  · intro exact_
    refine ⟨?_, ?_⟩
    · rw [hshares, herg, exact_]
      push_cast
      rfl
    · rw [hshares, herg]
      exact notDiluted_of_le bound

/-- A capped payment, with the shares that it is converted to. -/
theorem fair_capped_iff (hvalue : 0 < value) (hsupply : 0 < supply) {erg : Nat}
    {estimate : WithdrawEstimate} (herg : estimate.erg_to_receive = erg)
    (hshares : estimate.shares_to_burn = decimalQuotient (erg * supply) value) :
    Fair value supply estimate ↔
      value ∣ erg * supply ∧ ExactQuotient prec (erg * supply) value := by
  have rounded := decimalQuotient_le (erg * supply) value
  have floor : erg * supply / value * value ≤ erg * supply := Nat.div_mul_le_self _ _
  have bound : decimalQuotient (erg * supply) value * value ≤ erg * supply / value * value :=
    Nat.mul_le_mul_right value rounded
  rw [← decimalQuotient_eq_iff hvalue]
  constructor
  · intro fair
    have kept := fair.notDiluted
    rw [hshares, herg] at kept
    have enough := le_of_notDiluted kept
    have whole : erg * supply / value * value = erg * supply := by omega
    refine ⟨Dvd.intro_left _ whole, ?_⟩
    apply Nat.eq_of_mul_eq_mul_right hvalue
    omega
  · rintro ⟨divides, same⟩
    have whole : decimalQuotient (erg * supply) value * value = erg * supply := by
      rw [same, Nat.div_mul_cancel divides]
    refine ⟨?_, ?_⟩
    · rw [hshares, herg]
      have cast : ((decimalQuotient (erg * supply) value : Nat) : Int) * value = erg * supply := by
        exact_mod_cast whole
      rw [cast, Int.mul_ediv_cancel _ (by omega)]
    · rw [hshares, herg]
      exact notDiluted_of_le whole.ge

variable {manager : Manager} {state : CachedState}

theorem maxWithdraw_eq_payable (bankroll : state.bankroll = value) :
    LpPool.maxWithdraw manager.config state.toPoolState = payable manager value := by
  rw [LpPool.maxWithdraw, bankroll, payable]
  omega

/-- A payment below the worth of the shares is too low for them. -/
theorem not_fair_of_lt {erg shares : Nat} {estimate : WithdrawEstimate}
    (herg : estimate.erg_to_receive = erg) (hshares : estimate.shares_to_burn = shares)
    (low : erg < shares * value / supply) : ¬ Fair value supply estimate := by
  intro fair
  have paid := fair.paid
  rw [herg, hshares] at paid
  have cast : erg = shares * value / supply := by exact_mod_cast paid
  omega

theorem estimateWithdraw_fair_iff (cached : manager.cached_state = some state)
    (total : state.total_value = value) (bankroll : state.bankroll = value)
    (shares_out : state.total_supply = supply) (hsupply : 0 < supply) (shares : Nat) :
    FairResult value supply (manager.estimateWithdraw shares) ↔
      PayableInFull manager value supply shares := by
  have erg : calculateWithdrawErg shares state.total_value state.total_supply =
      decimalQuotient (shares * value) supply := by
    rw [total, shares_out, calculateWithdrawErg_natCast hsupply.ne']
  rw [Manager.estimateWithdraw, cached, PayableInFull]
  dsimp only
  rw [erg, maxWithdraw_eq_payable bankroll]
  have rounded := decimalQuotient_le (shares * value) supply
  by_cases capped : decimalQuotient (shares * value) supply > payable manager value
  · rw [if_pos (by exact_mod_cast capped)]
    apply iff_of_false
    · exact not_fair_of_lt rfl rfl (Nat.lt_of_lt_of_le capped rounded)
    · rintro ⟨full, _⟩
      omega
  · rw [if_neg (by exact_mod_cast capped)]
    apply (fair_decimalQuotient_iff hsupply rfl rfl).trans
    constructor
    · intro quotient
      have same := (decimalQuotient_eq_iff hsupply).mpr quotient
      exact ⟨by omega, quotient⟩
    · exact fun full => full.2

theorem estimateWithdrawForErg_fair_iff (cached : manager.cached_state = some state)
    (total : state.total_value = value) (bankroll : state.bankroll = value)
    (shares_out : state.total_supply = supply) (hvalue : 0 < value) (hsupply : 0 < supply)
    (desired : Nat) :
    FairResult value supply (manager.estimateWithdrawForErg desired) ↔
      ConvertsExactly manager value supply desired := by
  have converted : ∀ erg : Nat, calculateSharesToBurnForErg erg value supply =
      decimalQuotient (erg * supply) value :=
    calculateSharesToBurnForErg_natCast hvalue.ne' hsupply.ne'
  have erg : ∀ shares : Nat, calculateWithdrawErg shares value supply =
      decimalQuotient (shares * value) supply :=
    fun shares => calculateWithdrawErg_natCast hsupply.ne' shares value
  rw [Manager.estimateWithdrawForErg, cached, ConvertsExactly, worth]
  dsimp only
  rw [total, shares_out, maxWithdraw_eq_payable bankroll, converted, converted, erg]
  by_cases capped :
      decimalQuotient (decimalQuotient (desired * supply) value * value) supply >
        payable manager value
  · rw [if_pos (by exact_mod_cast capped), if_neg (Nat.not_le_of_gt capped)]
    exact fair_capped_iff hvalue hsupply rfl rfl
  · rw [if_neg (by exact_mod_cast capped), if_pos (Nat.le_of_not_gt capped)]
    exact fair_decimalQuotient_iff hsupply rfl rfl

/-- The estimates are fair exactly if no cap and no dropped digit comes between the shares
and the payment. -/
theorem withdraw_estimates_fair_iff (cached : manager.cached_state = some state)
    (total : state.total_value = value) (bankroll : state.bankroll = value)
    (shares_out : state.total_supply = supply) (hvalue : 0 < value) (hsupply : 0 < supply) :
    (∀ shares : Nat, 0 < shares → shares ≤ supply →
      (FairResult value supply (manager.estimateWithdraw shares) ↔
        PayableInFull manager value supply shares)) ∧
    ∀ desired : Nat, 0 < desired → desired ≤ value →
      (FairResult value supply (manager.estimateWithdrawForErg desired) ↔
        ConvertsExactly manager value supply desired) := by
  constructor
  · intro shares _ _
    exact estimateWithdraw_fair_iff cached total bankroll shares_out hsupply shares
  · intro desired _ _
    exact estimateWithdrawForErg_fair_iff cached total bankroll shares_out hvalue hsupply desired

/-- A pool of three nanoERG and two shares that keeps one nanoERG. -/
def floorPool : Manager where
  config := { min_pool_value := 1 }
  cached_state := some ⟨⟨3, 2, 3, 60, []⟩, 1_500_000_000⟩

/-- Half of the pool is payable, all of it is not. -/
theorem withdraw_estimates_fair_iff_example :
    FairResult (3 : Nat) (2 : Nat) (floorPool.estimateWithdraw (1 : Nat)) ∧
      ¬ FairResult (3 : Nat) (2 : Nat) (floorPool.estimateWithdraw (2 : Nat)) ∧
      ¬ FairResult (3 : Nat) (2 : Nat) (floorPool.estimateWithdrawForErg (3 : Nat)) := by
  obtain ⟨exactly, converts⟩ := @withdraw_estimates_fair_iff 3 2 floorPool _ rfl rfl rfl rfl
    (by decide) (by decide)
  refine ⟨(exactly 1 (by decide) (by decide)).mpr (by decide), ?_, ?_⟩
  · intro fair
    exact absurd ((exactly 2 (by decide) (by decide)).mp fair) (by decide)
  · intro fair
    exact absurd ((converts 3 (by decide) (by decide)).mp fair) (by decide)

/-- Both shares are burned for the two nanoERG above the minimum, not for three. -/
theorem capped_estimate_unfair :
    ¬ ∀ (manager : Manager) (state : CachedState) (value supply : Nat),
      manager.cached_state = some state → state.total_value = value → state.bankroll = value →
      state.total_supply = supply → 0 < value → 0 < supply →
        ∀ shares desired : Nat, 0 < shares → shares ≤ supply → 0 < desired → desired ≤ value →
          FairResult value supply (manager.estimateWithdraw shares) ∧
            FairResult value supply (manager.estimateWithdrawForErg desired) := by
  intro h
  have fair := (h floorPool _ 3 2 rfl rfl rfl rfl (by decide) (by decide) 2 3 (by decide)
    (by decide) (by decide) (by decide)).1
  have full := (@estimateWithdraw_fair_iff 3 2 floorPool _ rfl rfl rfl rfl (by decide) 2).mp fair
  exact absurd full (by decide)

end Estimates

end DuckPools.Backend.PoolManager
