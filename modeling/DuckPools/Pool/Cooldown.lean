import DuckPools.Pool.Bankroll

/-!
# How much an accepted transaction may burn

The withdraw path asks for one input beside the pool that starts with LP tokens and carries two
integers whose sum the height has reached. What it does not ask for, the request script and the
quantity of LP tokens, makes no difference: the path compares the registers of the house key
before it comes to the inputs, and never gets past them. So nothing is burned that mature
requests do not hold.
-/

namespace DuckPools.Bankroll

open ErgoScript

variable {Point : Type}

/-- Locked by the request script, and old enough for the pool's own cooldown. -/
def isMatureRequest (requestTree : Bytes) (cooldownDelta height : Int32) (inp : Box Point) :
    Bool :=
  inp.propositionBytes == requestTree &&
    (inp.int .R6).any fun requestHeight =>
      decide (requestHeight.toInt + cooldownDelta.toInt ≤ height.toInt)

/-- The LP tokens in mature requests among `inputs`. -/
def matureLp (requestTree lpTokenId : Bytes) (cooldownDelta height : Int32)
    (inputs : List (Box Point)) : Nat :=
  ((inputs.filter (isMatureRequest requestTree cooldownDelta height)).map
    (Box.tokenAmount · lpTokenId)).sum

/-- The withdraw path is never taken, and whatever else is accepted burns no more LP tokens than
the mature requests among the inputs hold. -/
theorem burned_le_matureLp [DecidableEq Point] (requestTree : Bytes) {ctx : Context Point}
    {signers : List Point} {v : Vals Point} {path : Path}
    (h : AcceptedVia ctx signers v path) :
    path ≠ .withdraw ∧
      (v.selfLpSupply : Nat) - v.outLpSupply ≤
        matureLp requestTree v.lpTokenId v.cooldownDelta ctx.height ctx.inputs := by
  have same := h.updates.supply
  constructor
  · rintro rfl
    have less := (isWithdraw_eq_true_iff.mp h.2.2).1
    omega
  · omega

/-- The house sets another minimum deposit. -/
theorem burned_le_matureLp_update :
    Path.update ≠ .withdraw ∧
      ((updateVals [8]).selfLpSupply : Nat) - (updateVals [8]).outLpSupply ≤
        matureLp [4] (updateVals [8]).lpTokenId (updateVals [8]).cooldownDelta (update [8]).height
          (update [8]).inputs :=
  burned_le_matureLp [4] (update_accepted [8])

end DuckPools.Bankroll
