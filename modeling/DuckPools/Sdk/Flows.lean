import DuckPools.Coinflip.Contract
import DuckPools.Sdk.BetManager

/-!
# The value balance of the SDK's flows

Each flow hands the builder one input and one output. A bet is placed with an input of
value zero, which the wallet is meant to fill in; a reveal or a refund spends the bet
box alone and has to leave nearly all of its value in the first output. Nothing is left
for the fee in any of them, so the builder throws, or, at a house edge that
lowers the winnings far enough, the first output is less than the contract demands.
-/

namespace DuckPools.Sdk

open CoinflipV2 ErgoScript TransactionBuilder BetManager

/-- The call returned a balanced transaction, whose first output holds what is demanded. -/
def Completes (demand : Eval Nat)
    (call : Except SdkError (ErgoTransaction × TransactionBuilder)) : Prop :=
  ∃ built output required, call = .ok built ∧ Balanced built.1 ∧
    built.1.outputs.head? = some output ∧ demand = some required ∧ (required : Int) ≤ output.value

/-- The bet is locked in full. -/
def PlaceCompletes (H : Blake2b) (manager : BetManager) (node : NodeClient) (runtime : Runtime)
    (options : PlaceBetOptions) (betAmount : Nat) : Prop :=
  ∃ bet, prepareBet H manager node runtime options = .ok bet ∧
    Completes (some betAmount) (manager.txBuilder.buildPlaceBetTransaction bet.params)

/-- The player is paid `winPayout`, or the house the bet. -/
def RevealCompletes (manager : BetManager) (options : RevealBetOptions) (outcome : Outcome)
    (betAmount : Nat) : Prop :=
  Completes (match outcome.result with
      | .win => winPayout betAmount
      | .lose => some betAmount)
    (manager.txBuilder.buildRevealTransaction (revealParams manager options outcome))

/-- The player gets back all but the fee of the house. -/
def RefundCompletes (manager : BetManager) (options : RefundBetOptions) (betBox : PendingBetBox)
    (betAmount : Nat) : Prop :=
  Completes (some (refundAmount betAmount))
    (manager.txBuilder.buildRefundTransaction (refundParams options betBox))

/-- A bet can be placed, revealed either way, and refunded. -/
structure FlowsComplete (H : Blake2b) (manager : BetManager) (node : NodeClient)
    (runtime : Runtime) (place : PlaceBetOptions) (reveal : RevealBetOptions)
    (refund : RefundBetOptions) (betBox : PendingBetBox) (blockHash : Text) (betAmount : Nat) :
    Prop where
  placed : PlaceCompletes H manager node runtime place betAmount
  won : RevealCompletes manager reveal ⟨betBox, blockHash, .win⟩ betAmount
  lost : RevealCompletes manager reveal ⟨betBox, blockHash, .lose⟩ betAmount
  refunded : RefundCompletes manager refund betBox betAmount

variable {H : Blake2b} {manager : BetManager} {node : NodeClient} {runtime : Runtime}

/-- With one input and one output, a call that completes leaves room for the fee. -/
theorem room_of_completes {demand : Eval Nat} {builder : TransactionBuilder}
    {input : TransactionInput} {output : TransactionOutput}
    (h : Completes demand (builder.build [input] [output])) :
    output.value + builder.fee ≤ input.value ∧
      ∃ required, demand = some required ∧ (required : Int) ≤ output.value := by
  obtain ⟨built, first, required, hbuilt, _, hfirst, hdemand, hpays⟩ := h
  obtain ⟨_, hcovered, _⟩ := build_isOk_iff.mp ⟨built, hbuilt⟩
  obtain ⟨_, ⟨change, houtputs, _⟩, _⟩ := build_spec hbuilt
  rw [houtputs, List.singleton_append, List.head?_cons] at hfirst
  obtain rfl := Option.some.inj hfirst
  simp only [List.map_cons, List.map_nil, List.sum_singleton] at hcovered
  exact ⟨hcovered, required, hdemand, hpays⟩

theorem not_placeCompletes {options : PlaceBetOptions} {betAmount : Nat}
    (hfee : 0 < manager.txBuilder.fee) :
    ¬ PlaceCompletes H manager node runtime options betAmount := by
  rintro ⟨bet, hbet, hcompletes⟩
  obtain ⟨hroom, required, hdemand, hpays⟩ := room_of_completes hcompletes
  have hinput : bet.params.inputBoxValue = 0 := by
    obtain ⟨_, _, _, _, rfl⟩ := prepareBet_eq_ok_iff.mp hbet
    rfl
  simp only [hinput] at hroom
  omega

theorem not_revealCompletes {options : RevealBetOptions} {outcome : Outcome} {betAmount : Nat}
    (hfee : 0 < manager.txBuilder.fee) (hvalue : outcome.betBox.value = betAmount) :
    ¬ RevealCompletes manager options outcome betAmount := by
  intro hcompletes
  obtain ⟨hroom, required, hdemand, hpays⟩ := room_of_completes hcompletes
  have hinput : (revealParams manager options outcome).betBoxValue = betAmount := hvalue
  cases hresult : outcome.result with
  | win =>
      rw [hresult] at hdemand
      obtain ⟨_, rfl⟩ := winPayout_eq_some_iff.mp hdemand
      simp only [hinput] at hroom
      omega
  | lose =>
      rw [hresult] at hdemand
      obtain rfl := Option.some.inj hdemand
      simp only [hinput] at hroom
      omega

theorem not_refundCompletes {options : RefundBetOptions} {betBox : PendingBetBox} {betAmount : Nat}
    (hfee : 0 < manager.txBuilder.fee) :
    ¬ RefundCompletes manager options betBox betAmount := by
  intro hcompletes
  obtain ⟨hroom, _⟩ := room_of_completes hcompletes
  simp only [refundParams, refundOutput] at hroom
  omega

/-- No flow completes, whatever the amount, the fee, the house edge and the node. -/
theorem no_flow_completes {place : PlaceBetOptions} {reveal : RevealBetOptions}
    {refund : RefundBetOptions} {betBox : PendingBetBox} {blockHash : Text} {betAmount : Nat}
    (hfee : 0 < manager.txBuilder.fee) (hvalue : betBox.value = betAmount) :
    ¬ PlaceCompletes H manager node runtime place betAmount ∧
      (∀ result, ¬ RevealCompletes manager reveal ⟨betBox, blockHash, result⟩ betAmount) ∧
      ¬ RefundCompletes manager refund betBox betAmount :=
  ⟨not_placeCompletes hfee, fun _ => not_revealCompletes hfee hvalue, not_refundCompletes hfee⟩

theorem no_flow_completes_one_erg :
    ¬ PlaceCompletes exampleHash (exampleManager 1000000)
        (exampleClient (exampleBox 1000000000 []) (.object none none)) exampleRuntime
        ⟨1000000000, 0, none, none⟩ 1000000000 ∧
      (∀ result, ¬ RevealCompletes (exampleManager 1000000) ⟨[], [], 0⟩
        ⟨exampleBox 1000000000 [], [], result⟩ 1000000000) ∧
      ¬ RefundCompletes (exampleManager 1000000) ⟨[], []⟩ (exampleBox 1000000000 [])
        1000000000 :=
  no_flow_completes (by decide) rfl

theorem flows_do_not_complete :
    ¬ ∀ (H : Blake2b) (manager : BetManager) (node : NodeClient) (runtime : Runtime)
        (place : PlaceBetOptions) (reveal : RevealBetOptions) (refund : RefundBetOptions)
        (betBox : PendingBetBox) (blockHash : Text) (betAmount : Nat),
        0 < manager.txBuilder.fee → manager.txBuilder.change ≠ none → 0 < betAmount →
        place.amount = betAmount → (place.choice = 0 ∨ place.choice = 1) →
        betBox.value = betAmount →
        FlowsComplete H manager node runtime place reveal refund betBox blockHash betAmount := by
  intro h
  have hflows := h exampleHash (exampleManager 1000000)
    (exampleClient (exampleBox 1000000000 []) (.object none none)) exampleRuntime
    ⟨1000000000, 0, none, none⟩ ⟨[], [], 0⟩ ⟨[], []⟩ (exampleBox 1000000000 []) [] 1000000000
    (by decide) nofun (by decide) rfl (Or.inl rfl) rfl
  exact not_placeCompletes (by decide) hflows.placed

end DuckPools.Sdk
