import DuckPools.Ledger.Backing
import DuckPools.Pool.Bankroll

/-!
# The value behind an LP share

The share price formulas of the pool live off chain, and what they round down to is the exact
boundary of dilution. On chain no amount is compared with them. The guard keeps to them all the
same, since the one path that it accepts leaves value and supply as they are, and so does every
run of accepted transactions.
-/

namespace DuckPools.Bankroll

open ErgoScript Relation

/-- `POOL_CONFIG.PRECISION` -/
def PRECISION : Nat := 1_000_000_000

def calculatePricePerShare (totalValue totalSupply : Nat) (precision : Nat := PRECISION) : Nat :=
  if totalSupply = 0 then precision else totalValue * precision / totalSupply

def calculateDepositShares (depositAmount totalValue totalSupply : Nat) : Nat :=
  if totalSupply = 0 ∨ totalValue = 0 then depositAmount
  else depositAmount * totalSupply / totalValue

def calculateWithdrawErg (burnAmount totalValue totalSupply : Nat) : Nat :=
  if totalSupply = 0 then 0 else burnAmount * totalValue / totalSupply

/-- The deposit formula is the largest number of shares that dilutes nobody. -/
theorem calculateDepositShares_iff {V S d m : Nat} (hV : 0 < V) (hS : 0 < S) :
    m ≤ calculateDepositShares d V S ↔ Backing.NotDiluted ⟨V, S⟩ ⟨V + d, S + m⟩ := by
  rw [calculateDepositShares, if_neg (by omega), Backing.notDiluted_mint_iff hV]

/-- The withdrawal formula is the largest payment that dilutes nobody. -/
theorem calculateWithdrawErg_iff {V S w b : Nat} (hS : 0 < S) (hw : w ≤ V) (hb : b ≤ S) :
    w ≤ calculateWithdrawErg b V S ↔ Backing.NotDiluted ⟨V, S⟩ ⟨V - w, S - b⟩ := by
  rw [calculateWithdrawErg, if_neg (by omega), Backing.notDiluted_burn_iff hS hw hb]

section Guard

variable {Point : Type} [DecidableEq Point]

/-- A box with an LP token, the state of the pool between two transactions. -/
structure PoolBox (Point : Type) where
  box : Box Point
  lpToken : Token
  holds : box.tokens[1]? = some lpToken

def PoolBox.backing (p : PoolBox Point) : Backing Nat := ⟨p.box.value, p.lpToken.amount⟩

/-- One accepted transaction, from the spent pool box to the continuing one. -/
def AcceptedStep (p q : PoolBox Point) : Prop :=
  ∃ ctx signers v path, AcceptedVia ctx signers v path ∧ ctx.self = p.box ∧ v.poolOut = q.box

variable {ctx : Context Point} {v : Vals Point} {signers : List Point}

omit [DecidableEq Point] in
theorem Updates.notDiluted (h : Updates ctx signers v) :
    (ctx.self.value : Nat) * v.outLpSupply ≤ v.poolOut.value * v.selfLpSupply := by
  rw [h.supply, h.value]

omit [DecidableEq Point] in
/-- What is minted and what is paid out is nothing. -/
theorem Updates.formulas (h : Updates ctx signers v) :
    v.outLpSupply - v.selfLpSupply ≤
        calculateDepositShares (v.poolOut.value - ctx.self.value) ctx.self.value v.selfLpSupply ∧
      (ctx.self.value : Nat) - v.poolOut.value ≤
        calculateWithdrawErg (v.selfLpSupply - v.outLpSupply) ctx.self.value v.selfLpSupply := by
  rw [h.supply, h.value, Nat.sub_self, Nat.sub_self]
  exact ⟨Nat.zero_le _, Nat.zero_le _⟩

theorem AcceptedStep.notDiluted {p q : PoolBox Point} (h : AcceptedStep p q) :
    p.backing.NotDiluted q.backing := by
  obtain ⟨ctx, signers, v, path, accepted, hself, hout⟩ := h
  obtain ⟨hown, _, houtLp⟩ := readVals_eq_some_iff.mp accepted.2.1
  have own : p.lpToken = ⟨v.lpTokenId, v.selfLpSupply⟩ := by
    have hlp := (readSelf_eq_some_iff.mp hown).2.1
    rw [hself, p.holds, Option.some.injEq] at hlp
    exact hlp
  have out : q.lpToken = v.outLpToken := by
    rw [hout, q.holds, Option.some.injEq] at houtLp
    exact houtLp
  have kept := accepted.updates.notDiluted
  simp only [Vals.outLpSupply, hself, hout] at kept
  rw [PoolBox.backing, PoolBox.backing, own, out]
  exact kept

theorem notDiluted_of_run {p q : PoolBox Point} (run : ReflTransGen AcceptedStep p q) :
    p.backing.NotDiluted q.backing := by
  refine Backing.NotDiluted.of_run ?_ ?_ run
  · intro s
    exact s.lpToken.amount.2.1
  · intro s t step
    exact step.notDiluted

/-- No accepted transaction dilutes a share, none mints more than the deposit formula or pays
more than the withdrawal formula, and no run of them lowers the value of a share. -/
theorem value_per_share_kept :
    (∀ (ctx : Context Point) (signers : List Point) (v : Vals Point) (path : Path),
      AcceptedVia ctx signers v path →
        (ctx.self.value : Nat) * v.outLpSupply ≤ v.poolOut.value * v.selfLpSupply ∧
        v.outLpSupply - v.selfLpSupply ≤
          calculateDepositShares (v.poolOut.value - ctx.self.value) ctx.self.value
            v.selfLpSupply ∧
        (ctx.self.value : Nat) - v.poolOut.value ≤
          calculateWithdrawErg (v.selfLpSupply - v.outLpSupply) ctx.self.value
            v.selfLpSupply) ∧
    ∀ p q : PoolBox Point, ReflTransGen AcceptedStep p q →
      (p.box.value : Nat) * q.lpToken.amount ≤ q.box.value * p.lpToken.amount := by
  constructor
  · intro ctx signers v path accepted
    exact ⟨accepted.updates.notDiluted, accepted.updates.formulas⟩
  · intro p q run
    exact notDiluted_of_run run

end Guard

end DuckPools.Bankroll
