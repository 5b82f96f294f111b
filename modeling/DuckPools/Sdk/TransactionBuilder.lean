import DuckPools.Language.NumberText
import DuckPools.Language.Numbers
import DuckPools.Sdk.Serialization
import Mathlib.Algebra.BigOperators.Group.List.Basic
import Mathlib.Data.Rat.Floor

/-!
# `sdk/src/transaction/TransactionBuilder.ts`

The builder balances the values its caller hands it: outputs and fee may not exceed the
inputs, and what is left over becomes a change output, or part of the fee if it is too
small for a box. In that last case the builder keeps the larger fee, so `build` returns
the builder as it is afterwards; after a `throw` it is the old one.

None of its amounts is checked for its sign. A house edge is a rational number.
-/

namespace DuckPools.Sdk

open ErgoScript (Reg)
open Exceptions

structure TransactionBuilder where
  fee : Int
  changeAddress : Option Text
  minBoxValue : Int

structure TransactionBuilderOptions where
  fee : Option Int := none
  changeAddress : Option Text := none
  minBoxValue : Option Int := none

namespace TransactionBuilder

def create (options : TransactionBuilderOptions) : TransactionBuilder where
  fee := options.fee.getD 1000000
  changeAddress := options.changeAddress
  minBoxValue := options.minBoxValue.getD 100000

/-- A change address counts as missing when it is empty. -/
def change (builder : TransactionBuilder) : Option Text :=
  builder.changeAddress.filter (!·.isEmpty)

def build (builder : TransactionBuilder) (inputs : List TransactionInput)
    (outputs : List TransactionOutput) : Except SdkError (ErgoTransaction × TransactionBuilder) :=
  let totalInputValue := (inputs.map (·.value)).sum
  let totalOutputValue := (outputs.map (·.value)).sum
  let totalCost := totalOutputValue + builder.fee
  let changeValue := totalInputValue - totalCost
  if inputs.isEmpty then
    throw (.error "Transaction must have at least one input")
  else if totalCost > totalInputValue then
    throw (.error (s!"Insufficient input value: inputs={totalInputValue} nanoERG, " ++
      s!"outputs={totalOutputValue} nanoERG, fee={builder.fee} nanoERG, " ++
      s!"shortfall={totalCost - totalInputValue} nanoERG"))
  else if changeValue > 0 then
    match builder.change with
    | none =>
        throw (.error ("Change address required: transaction has " ++
          s!"{changeValue} nanoERG unspent. Call setChangeAddress() first."))
    | some changeAddress =>
        if changeValue ≥ builder.minBoxValue then
          let changeOutput := { address := some changeAddress, value := changeValue }
          return ({ inputs, outputs := outputs ++ [changeOutput], fee := builder.fee }, builder)
        else
          -- Dust: `this.fee += changeValue`.
          let fee := builder.fee + changeValue
          return ({ inputs, outputs, fee }, { builder with fee })
  else return ({ inputs, outputs, fee := builder.fee }, builder)

structure PlaceBetParams where
  playerAddress : Text
  pendingBetAddress : Text
  amount : Int
  housePubKey : Text
  playerPubKey : Text
  commitment : Text
  choice : Int
  secret : Text
  timeoutHeight : Int
  inputBoxId : Text
  inputBoxValue : Int

/-- The box that locks the bet, with the registers of `coinflip_v2.es`. -/
def betOutput (params : PlaceBetParams) : TransactionOutput where
  address := some params.pendingBetAddress
  value := params.amount
  additionalRegisters := some
    [(.R4, .collByte params.housePubKey),
     (.R5, .collByte params.playerPubKey),
     (.R6, .collByte params.commitment),
     (.R7, .int params.choice),
     (.R8, .int params.timeoutHeight),
     (.R9, .collByte params.secret)]

def buildPlaceBetTransaction (builder : TransactionBuilder) (params : PlaceBetParams) :
    Except SdkError (ErgoTransaction × TransactionBuilder) :=
  builder.build [{ boxId := params.inputBoxId, value := params.inputBoxValue }] [betOutput params]

/-- `2 * (1 - houseEdge)` times the amount, in steps of 1/10000. -/
def winnings (houseEdge : ℚ) (betAmount : Int) : Int :=
  let winMultiplier := 2 * (1 - houseEdge)
  (betAmount * Js.round (winMultiplier * 10000)).tdiv 10000

structure RevealParams where
  betBoxId : Text
  betBoxValue : Int
  houseAddress : Text
  playerAddress : Text
  betAmount : Int
  result : BetResult
  houseEdge : ℚ
  blockHash : Text
  secret : Text

/-- The output of a reveal: the winnings of the player, or the bet for the house. -/
def revealOutput (params : RevealParams) : TransactionOutput :=
  match params.result with
  | .win =>
      { address := some params.playerAddress, value := winnings params.houseEdge params.betAmount }
  | .lose => { address := some params.houseAddress, value := params.betAmount }

def buildRevealTransaction (builder : TransactionBuilder) (params : RevealParams) :
    Except SdkError (ErgoTransaction × TransactionBuilder) :=
  builder.build [{ boxId := params.betBoxId, value := params.betBoxValue }] [revealOutput params]

structure RefundParams where
  betBoxId : Text
  betBoxValue : Int
  playerAddress : Text
  betAmount : Int

def refundOutput (params : RefundParams) : TransactionOutput where
  address := some params.playerAddress
  value := params.betAmount

def buildRefundTransaction (builder : TransactionBuilder) (params : RefundParams) :
    Except SdkError (ErgoTransaction × TransactionBuilder) :=
  builder.build [{ boxId := params.betBoxId, value := params.betBoxValue }] [refundOutput params]

end TransactionBuilder

structure WalletRegister where
  value : Text
  type : String

structure WalletAsset where
  tokenId : Text
  amount : Text

structure WalletOutput where
  address : Option Text
  value : Text
  ergoTree : Option Text
  assets : Option (List WalletAsset)
  registers : Option (List (Reg × WalletRegister))
  creationHeight : Option Int

/-- The body of a request to `/wallet/transaction/send`. -/
structure WalletRequest where
  requests : List WalletOutput
  inputsRaw : List Text
  fee : Text

def walletRegister (entry : Reg × SValue) : Except SdkError (Reg × WalletRegister) := do
  let value ← serializeSValue entry.2
  return (entry.1, { value, type := entry.2.type })

def walletOutput (output : TransactionOutput) : Except SdkError WalletOutput := do
  let registers ← output.additionalRegisters.mapM fun entries => entries.mapM walletRegister
  return {
    address := output.address
    value := Js.bigIntToString output.value
    ergoTree := output.ergoTree
    assets := output.assets.map fun assets => assets.map fun a =>
      { tokenId := a.tokenId, amount := Js.bigIntToString a.amount }
    registers
    creationHeight := output.creationHeight }

def toWalletFormat (tx : ErgoTransaction) : Except SdkError WalletRequest := do
  let requests ← tx.outputs.mapM walletOutput
  return { requests, inputsRaw := tx.inputs.map (·.boxId), fee := Js.bigIntToString tx.fee }

namespace TransactionBuilder

/-- What the inputs hold is what the outputs and the fee take. -/
def Balanced (tx : ErgoTransaction) : Prop :=
  (tx.inputs.map (·.value)).sum = (tx.outputs.map (·.value)).sum + tx.fee

variable {builder : TransactionBuilder} {inputs : List TransactionInput}
  {outputs : List TransactionOutput} {built : ErgoTransaction × TransactionBuilder}

/-- A transaction is built exactly if there is an input, the inputs cover the outputs and
the fee, and there is an address for the change if there is any. -/
theorem build_isOk_iff : (∃ built, builder.build inputs outputs = .ok built) ↔
    inputs ≠ [] ∧
      (outputs.map (·.value)).sum + builder.fee ≤ (inputs.map (·.value)).sum ∧
      ((outputs.map (·.value)).sum + builder.fee < (inputs.map (·.value)).sum →
        builder.change ≠ none) := by
  by_cases hempty : inputs = []
  · simp [build, hempty, throw_ne_ok]
  by_cases hcost : (outputs.map (·.value)).sum + builder.fee > (inputs.map (·.value)).sum
  · simp only [build, List.isEmpty_iff, hempty, if_false, if_pos hcost, throw_ne_ok, exists_false,
      false_iff]
    omega
  by_cases hchange : (inputs.map (·.value)).sum -
      ((outputs.map (·.value)).sum + builder.fee) > 0
  · cases haddress : builder.change with
    | none =>
        simp only [build, List.isEmpty_iff, hempty, if_false, if_neg hcost, if_pos hchange,
          haddress, throw_ne_ok, exists_false, false_iff, not_and]
        intro _ _ h
        exact h (by omega) rfl
    | some address =>
        simp only [build, List.isEmpty_iff, hempty, if_false, if_neg hcost, if_pos hchange,
          haddress]
        refine iff_of_true ?_ ⟨hempty, by omega, fun _ => nofun⟩
        split
        · exact ⟨_, rfl⟩
        · exact ⟨_, rfl⟩
  · simp only [build, List.isEmpty_iff, hempty, if_false, if_neg hcost, if_neg hchange]
    exact iff_of_true ⟨_, rfl⟩ ⟨hempty, by omega, by omega⟩

/-- What is built keeps the inputs and the outputs it was asked for, adds at most a change
output without registers, and is balanced. -/
theorem build_spec (h : builder.build inputs outputs = .ok built) :
    built.1.inputs = inputs ∧
      (∃ change, built.1.outputs = outputs ++ change ∧
        ∀ output ∈ change, output.additionalRegisters = none) ∧
      Balanced built.1 := by
  simp only [build, ite_throw_eq_ok_iff] at h
  obtain ⟨_, hcost, h⟩ := h
  split at h
  · split at h
    · exact absurd h (throw_ne_ok _ _)
    · split at h
      · obtain rfl := pure_eq_ok_iff.mp h
        refine ⟨rfl, ⟨_, rfl, by simp⟩, ?_⟩
        simp only [Balanced, List.map_append, List.sum_append, List.map_cons, List.map_nil,
          List.sum_singleton]
        omega
      · obtain rfl := pure_eq_ok_iff.mp h
        refine ⟨rfl, ⟨[], (List.append_nil _).symm, nofun⟩, ?_⟩
        simp only [Balanced]
        omega
  · obtain rfl := pure_eq_ok_iff.mp h
    refine ⟨rfl, ⟨[], (List.append_nil _).symm, nofun⟩, ?_⟩
    simp only [Balanced]
    omega

end TransactionBuilder
end DuckPools.Sdk
