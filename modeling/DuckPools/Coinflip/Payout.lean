import DuckPools.Coinflip.Contract
import DuckPools.Frontend.CoinflipService
import DuckPools.Frontend.PayoutPreview
import DuckPools.Language.Exceptions
import DuckPools.Sdk.BetManager

/-!
# One payout, settled four times and promised twice

The contract, the reveals of the frontend, and the two computations of the SDK pay 97/50
of the bet, rounded down: twice the bet, less three percent. What the forms show before
the bet is 97/100 of it, which is less than the bet itself.
-/

namespace DuckPools.CoinflipV2

open Exceptions

/-- What is paid for a won bet of `betAmount`. -/
structure SettlesAt (betAmount payout : Nat) : Prop where
  contract : winPayout betAmount = some payout
  frontend : ∀ (H : Blake2b) (F : Frontend.Fleet) (cfg : Frontend.Config) (node : Frontend.Node)
    (params : Frontend.RevealParams) (r : Frontend.RevealResult),
    params.commitBox.value = betAmount →
    Frontend.buildRevealTx H F cfg node params = .ok r → r.playerWins = true →
      r.payoutAmount = payout
  /-- At the default house edge. -/
  sdk : ∀ config : Sdk.BetManagerConfig, config.houseEdge = none →
    Sdk.BetManager.calculatePayout (Sdk.BetManager.create config) betAmount .win = payout
  sdkBuilder : ∀ (builder : Sdk.TransactionBuilder) (params : Sdk.TransactionBuilder.RevealParams)
    (built : Sdk.ErgoTransaction × Sdk.TransactionBuilder), params.houseEdge = 3 / 100 →
    params.betAmount = betAmount → params.result = .win →
    builder.buildRevealTransaction params = .ok built →
      (built.1.outputs.head?.map (·.value)) = some (payout : Int)

/-- What the forms show for a bet of `betAmount`. -/
structure PromisesAt (betAmount payout : Nat) : Prop where
  betForm : Frontend.BetForm.calculatePayout (Js.bigIntToString betAmount) =
    some (Js.bigIntToString payout)
  coinFlipGame : Frontend.CoinFlipGame.calculatePayout (Js.bigIntToString betAmount) =
    some (Js.bigIntToString payout)

/-- One number everywhere. -/
def PayoutsAgree (betAmount : Nat) : Prop :=
  ∃ payout, SettlesAt betAmount payout ∧ PromisesAt betAmount payout

section Frontend

open Frontend

variable {H : Blake2b} {F : Fleet} {cfg : Config} {node : Node} {params : RevealParams}
  {r : RevealResult}

theorem payoutAmount_of_buildPayoutTx {playerWins : Bool} {prevBlockHeaderId : Text}
    (built : buildPayoutTx F cfg params playerWins prevBlockHeaderId = .ok r) :
    r.payoutAmount =
      if r.playerWins then params.commitBox.value * 97 / 50 else params.commitBox.value := by
  simp only [buildPayoutTx, throw_bind, ite_throw_eq_ok_iff, bind_eq_ok_iff,
    pure_eq_ok_iff] at built
  obtain ⟨_, _, _, _, _, _, _, _, _, rfl⟩ := built
  rfl

theorem payoutAmount_of_buildRevealTx (built : buildRevealTx H F cfg node params = .ok r) :
    r.payoutAmount =
      if r.playerWins then params.commitBox.value * 97 / 50 else params.commitBox.value := by
  simp only [buildRevealTx, throw_bind, ite_throw_eq_ok_iff, bind_eq_ok_iff] at built
  obtain ⟨_, _, prevBlockHeaderId, _, boxResp, _, built⟩ := built
  split at built
  · split at built
    · exact payoutAmount_of_buildPayoutTx built
    · exact absurd built (throw_ne_ok _ _)
  · exact absurd built (throw_ne_ok _ _)

end Frontend

section Sdk

open Sdk Sdk.TransactionBuilder

/-- At an edge of three percent the SDK pays 97/50 of the bet. -/
theorem winnings_default (betAmount : Nat) :
    winnings (3 / 100) betAmount = ((betAmount * 97 / 50 : Nat) : Int) := by
  have hrate : Js.round (2 * (1 - 3 / 100) * 10000) = 19400 := by
    rw [Js.round, Int.floor_eq_iff]
    norm_num
  rw [winnings, hrate, Int.tdiv_eq_ediv_of_nonneg (by omega)]
  omega

theorem houseEdge_default {config : BetManagerConfig} (h : config.houseEdge = none) :
    (BetManager.create config).houseEdge = 3 / 100 := by
  simp only [BetManager.create, h]
  rfl

theorem head_outputs_of_reveal {builder : TransactionBuilder} {params : RevealParams}
    {built : ErgoTransaction × TransactionBuilder}
    (h : builder.buildRevealTransaction params = .ok built) :
    built.1.outputs.head? = some (revealOutput params) := by
  obtain ⟨_, ⟨change, houtputs, _⟩, _⟩ := build_spec h
  rw [houtputs]
  rfl

end Sdk

theorem settlesAt {betAmount : Nat} (hfit : betAmount * 97 < 2 ^ 63) :
    SettlesAt betAmount (betAmount * 97 / 50) where
  contract := winPayout_eq_some_iff.mpr ⟨hfit, rfl⟩
  frontend := by
    intro H F cfg node params r hvalue hbuilt hwins
    rw [payoutAmount_of_buildRevealTx hbuilt, hwins, hvalue]
    rfl
  sdk := by
    intro config hedge
    rw [Sdk.BetManager.calculatePayout, houseEdge_default hedge, winnings_default]
  sdkBuilder := by
    intro builder params built hedge hamount hwin hbuilt
    rw [head_outputs_of_reveal hbuilt, Sdk.TransactionBuilder.revealOutput, hwin, hedge, hamount,
      winnings_default]
    rfl

theorem promisesAt (betAmount : Nat) : PromisesAt betAmount (betAmount * 97 / 100) where
  betForm := Frontend.payoutPreview_eq betAmount
  coinFlipGame := Frontend.payoutPreview_eq betAmount

/-- What settles a bet is determined by it, and more than what the forms promise. -/
theorem not_payoutsAgree {betAmount : Nat} (hpos : 1 ≤ betAmount) : ¬ PayoutsAgree betAmount := by
  rintro ⟨payout, hsettles, hpromises⟩
  obtain ⟨_, rfl⟩ := winPayout_eq_some_iff.mp hsettles.contract
  have hshown := hpromises.betForm
  rw [(promisesAt betAmount).betForm, Option.some.injEq] at hshown
  have hparsed := congrArg Js.parseBigInt hshown
  rw [Js.bigIntToString_natCast, Js.bigIntToString_natCast, Js.parseBigInt_toDigits,
    Js.parseBigInt_toDigits, Option.some.injEq, Int.natCast_inj] at hparsed
  have hpaid : 1 ≤ betAmount * 97 / 50 := by omega
  omega

/-- All four settlements pay 97/50 of the bet, and no bet is paid what the forms show. -/
theorem payouts_never_agree {betAmount : Nat} (hpos : 1 ≤ betAmount)
    (hfit : betAmount * 97 < 2 ^ 63) :
    SettlesAt betAmount (betAmount * 97 / 50) ∧ PromisesAt betAmount (betAmount * 97 / 100) ∧
      ¬ PayoutsAgree betAmount :=
  ⟨settlesAt hfit, promisesAt betAmount, not_payoutsAgree hpos⟩

theorem payouts_never_agree_one_erg :
    SettlesAt 1000000000 (1000000000 * 97 / 50) ∧ PromisesAt 1000000000 (1000000000 * 97 / 100) ∧
      ¬ PayoutsAgree 1000000000 :=
  payouts_never_agree (by decide) (by decide)

theorem promised_payout_differs :
    ¬ ∀ betAmount : Nat, 1 ≤ betAmount → betAmount * 97 < 2 ^ 63 → PayoutsAgree betAmount := by
  intro h
  exact not_payoutsAgree (by decide) (h 1000000000 (by decide) (by decide))

end DuckPools.CoinflipV2
