import DuckPools.Pool.Shares

/-!
# Deposits and withdrawals at the estimated amounts

`PoolManager` estimates a deposit or a withdrawal from the two share formulas and the
state of the pool it last read. A run of the pool carries out such operations one after
the other: a deposit mints the estimated shares, a withdrawal pays the estimated amount.
Both estimates round against whoever trades, so the value of a share never falls and a
run that returns to its supply returns at least its value.
-/

namespace DuckPools.Bankroll

/-- The part of `getPoolState` that the estimates read. -/
structure PoolState where
  bankroll : Nat
  totalSupply : Nat
  pendingBetsValue : Nat
  totalValue : Nat
  pricePerShare : Nat

structure DepositEstimate where
  shares : Nat
  pricePerShare : Nat
  newValue : Nat

structure WithdrawEstimate where
  ergAmount : Nat
  pricePerShare : Nat
  newValue : Int

/-- The pool box as `getPoolState` finds it: its value and the LP supply. -/
structure Pool where
  bankroll : Nat
  totalSupply : Nat

/-- The value of pending bets is the constant zero in the source. -/
def Pool.getPoolState (pool : Pool) : PoolState :=
  let pendingBetsValue := 0
  let totalValue := pool.bankroll + pendingBetsValue
  { bankroll := pool.bankroll
    totalSupply := pool.totalSupply
    pendingBetsValue
    totalValue
    pricePerShare := calculatePricePerShare totalValue pool.totalSupply }

def Pool.estimateDeposit (pool : Pool) (amount : Nat) : DepositEstimate :=
  let state := pool.getPoolState
  { shares := calculateDepositShares amount state.totalValue state.totalSupply
    pricePerShare := state.pricePerShare
    newValue := state.totalValue + amount }

def Pool.estimateWithdraw (pool : Pool) (shares : Nat) : WithdrawEstimate :=
  let state := pool.getPoolState
  let ergAmount := calculateWithdrawErg shares state.totalValue state.totalSupply
  { ergAmount
    pricePerShare := state.pricePerShare
    newValue := state.totalValue - ergAmount }

/-- `totalValue` of the pool's state. -/
def Pool.totalValue (pool : Pool) : Nat := pool.getPoolState.totalValue

def Pool.backing (pool : Pool) : Backing Nat := ⟨pool.totalValue, pool.totalSupply⟩

/-- The amount is paid into the box and the estimated shares are minted. -/
def Pool.deposit (pool : Pool) (amount : Nat) : Pool :=
  ⟨pool.bankroll + amount, pool.totalSupply + (pool.estimateDeposit amount).shares⟩

/-- The shares are burned and the estimated amount is paid out of the box. -/
def Pool.withdraw (pool : Pool) (shares : Nat) : Pool :=
  ⟨pool.bankroll - (pool.estimateWithdraw shares).ergAmount, pool.totalSupply - shares⟩

/-- One operation with the ERG it pays into the pool. A withdrawal leaves a share. -/
inductive EstimateStep : Pool → Int → Pool → Prop
  | deposit {pool : Pool} {amount : Nat} (positive : 0 < amount) :
      EstimateStep pool amount (pool.deposit amount)
  | withdraw {pool : Pool} {shares : Nat} (remain : shares < pool.totalSupply) :
      EstimateStep pool (-((pool.estimateWithdraw shares).ergAmount : Int)) (pool.withdraw shares)

/-- Finitely many operations in any order, with the net ERG paid in. -/
inductive Run (start : Pool) : Int → Pool → Prop
  | refl : Run start 0 start
  | tail {paid more : Int} {pool next : Pool} :
      Run start paid pool → EstimateStep pool more next → Run start (paid + more) next

@[simp] theorem Pool.totalValue_eq (pool : Pool) : pool.totalValue = pool.bankroll := rfl

/-- The payment for fewer shares than there are is less than the value. -/
theorem Pool.ergAmount_lt {pool : Pool} {shares : Nat} (value : 0 < pool.totalValue)
    (remain : shares < pool.totalSupply) :
    (pool.estimateWithdraw shares).ergAmount < pool.totalValue := by
  show calculateWithdrawErg shares pool.totalValue pool.totalSupply < pool.totalValue
  rw [calculateWithdrawErg, if_neg (by omega), Nat.div_lt_iff_lt_mul (by omega),
    Nat.mul_comm pool.totalValue]
  exact Nat.mul_lt_mul_of_pos_right remain value

theorem Pool.estimateWithdraw_newValue {pool : Pool} {shares : Nat}
    (value : 0 < pool.totalValue) (remain : shares < pool.totalSupply) :
    (pool.estimateWithdraw shares).newValue = (pool.withdraw shares).totalValue := by
  have less := Pool.ergAmount_lt value remain
  rw [Pool.totalValue_eq] at less
  show (pool.bankroll : Int) - (pool.estimateWithdraw shares).ergAmount =
    ((pool.bankroll - (pool.estimateWithdraw shares).ergAmount : Nat) : Int)
  omega

theorem Pool.notDiluted_deposit {pool : Pool} (amount : Nat) (value : 0 < pool.totalValue)
    (supply : 0 < pool.totalSupply) :
    pool.backing.NotDiluted (pool.deposit amount).backing :=
  (calculateDepositShares_iff value supply).mp le_rfl

theorem Pool.notDiluted_withdraw {pool : Pool} {shares : Nat} (value : 0 < pool.totalValue)
    (remain : shares < pool.totalSupply) :
    pool.backing.NotDiluted (pool.withdraw shares).backing := by
  have supply : 0 < pool.totalSupply := by omega
  exact (calculateWithdrawErg_iff supply (Pool.ergAmount_lt value remain).le remain.le).mp le_rfl

/-- What one operation does to a pool with value and supply. -/
theorem EstimateStep.spec {pool next : Pool} {paid : Int} (step : EstimateStep pool paid next)
    (value : 0 < pool.totalValue) (supply : 0 < pool.totalSupply) :
    pool.backing.NotDiluted next.backing ∧ 0 < next.totalValue ∧ 0 < next.totalSupply ∧
      (next.totalValue : Int) = pool.totalValue + paid := by
  cases step with
  | deposit positive =>
      refine ⟨Pool.notDiluted_deposit _ value supply, ?_, ?_, ?_⟩
      · exact Nat.add_pos_left value _
      · exact Nat.add_pos_left supply _
      · exact Int.natCast_add _ _
  | withdraw remain =>
      have less := Pool.ergAmount_lt value remain
      refine ⟨Pool.notDiluted_withdraw value remain, ?_, ?_, ?_⟩
      · exact Nat.sub_pos_of_lt less
      · exact Nat.sub_pos_of_lt remain
      · rw [← Pool.estimateWithdraw_newValue value remain]
        exact Int.sub_eq_add_neg

/-- What a run of operations does, by induction on the run. -/
theorem Run.spec {start pool : Pool} {paid : Int} (run : Run start paid pool)
    (value : 0 < start.totalValue) (supply : 0 < start.totalSupply) :
    start.backing.NotDiluted pool.backing ∧ 0 < pool.totalValue ∧ 0 < pool.totalSupply ∧
      (pool.totalValue : Int) = start.totalValue + paid := by
  induction run with
  | refl => exact ⟨le_rfl, value, supply, (Int.add_zero _).symm⟩
  | tail _ step ih =>
      obtain ⟨kept, hvalue, hsupply, hpaid⟩ := ih
      obtain ⟨kept', hvalue', hsupply', hpaid'⟩ := step.spec hvalue hsupply
      refine ⟨?_, hvalue', hsupply', ?_⟩
      · exact kept.trans (Nat.zero_le _) hsupply (Nat.zero_le _) kept'
      · rw [hpaid', hpaid, Int.add_assoc]

/-- Share arithmetic extracts nothing: along every run no operation lowers the value
per share, the value stays positive, and whoever brings the supply back has paid in. -/
theorem share_arithmetic_extracts_nothing {start pool : Pool} {paid : Int}
    (value : 0 < start.totalValue) (supply : 0 < start.totalSupply)
    (run : Run start paid pool) :
    0 < pool.totalValue ∧
      (∀ (more : Int) (next : Pool), EstimateStep pool more next →
        pool.totalValue * next.totalSupply ≤ next.totalValue * pool.totalSupply) ∧
      (pool.totalSupply = start.totalSupply →
        start.totalValue ≤ pool.totalValue ∧ 0 ≤ paid) := by
  obtain ⟨kept, hvalue, hsupply, hpaid⟩ := run.spec value supply
  refine ⟨hvalue, ?_, ?_⟩
  · intro more next step
    exact (step.spec hvalue hsupply).1
  · intro same
    have grown : start.totalValue ≤ pool.totalValue := by
      have kept : start.totalValue * pool.totalSupply ≤ pool.totalValue * start.totalSupply := kept
      rw [same] at kept
      exact Nat.le_of_mul_le_mul_right kept supply
    exact ⟨grown, by omega⟩

/-- Into 7 nanoERG behind 3 shares, 5 more mint 2 shares, and these give back 4. -/
theorem share_arithmetic_extracts_nothing_at_seven :
    ∃ paid pool, Run ⟨7, 3⟩ paid pool ∧ pool.totalSupply = 3 ∧ pool.totalValue = 8 ∧
      7 ≤ pool.totalValue ∧ 0 ≤ paid := by
  have deposited : Run ⟨7, 3⟩ (0 + (5 : Nat)) ⟨12, 5⟩ :=
    .tail .refl (@EstimateStep.deposit ⟨7, 3⟩ 5 (by omega))
  have returned : Run ⟨7, 3⟩ (0 + (5 : Nat) + -4) ⟨8, 3⟩ :=
    .tail deposited (@EstimateStep.withdraw ⟨12, 5⟩ 2 (by simp))
  have spec := share_arithmetic_extracts_nothing (by decide) (by decide) returned
  exact ⟨_, _, returned, rfl, rfl, spec.2.2 rfl⟩

end DuckPools.Bankroll
