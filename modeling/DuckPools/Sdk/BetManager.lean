import DuckPools.Sdk.Crypto
import DuckPools.Sdk.TransactionBuilder

/-!
# `sdk/src/bet/BetManager.ts`

The three flows of the SDK, and the requests of `sdk/src/client/NodeClient.ts` that they
make. The node answers each request or fails; what the calls take from the runtime is one
more argument. A flow returns its result together with the requests that reached the
node's wallet and with the builder it leaves behind, so that a flow that throws can be told
from one that throws after it has submitted something.

Each flow is a sequence of checks, the parameters of one builder call, and `submit`.
-/

namespace DuckPools.Sdk

open ErgoScript (Reg)
open Exceptions

/-- The JSON of `/blocks/at/{height}`. -/
inductive BlockAnswer where
  | object (headerId id : Option Text)
  | array (headerIds : List Text)

/-- `blockInfo.headerId`, which no array has. -/
def BlockAnswer.headerId : BlockAnswer → Option Text
  | object headerId _ => headerId
  | array _ => none

def BlockAnswer.id : BlockAnswer → Option Text
  | object _ id => id
  | array _ => none

structure NodeClient where
  getCurrentHeight : Except NodeFailure Nat
  getBoxById : Text → Except NodeFailure PendingBetBox
  getBlockHeaderByHeight : Nat → Except NodeFailure BlockAnswer
  /-- The id of the transaction. -/
  submitTransaction : WalletRequest → Except NodeFailure Text

/-- What a call takes from the runtime: random bytes, the time, and functions that are not
part of the SDK. -/
structure Runtime where
  randomBytes : Vector Byte 8
  timestamp : Text
  sha256 : Bytes → Bytes
  numberToString : Js.Number → String

structure BetManager where
  txBuilder : TransactionBuilder
  pendingBetAddress : Text
  houseAddress : Text
  houseEdge : ℚ

structure BetManagerConfig where
  txBuilder : Option TransactionBuilder := none
  pendingBetAddress : Text
  houseAddress : Text
  houseEdge : Option ℚ := none

/-- What is left of a call. -/
structure Run (α : Type) where
  result : Except SdkError α
  submitted : List WalletRequest
  txBuilder : TransactionBuilder

namespace BetManager

/-- `config.houseEdge || 0.03`: an edge of zero counts as none. -/
def create (config : BetManagerConfig) : BetManager where
  txBuilder := config.txBuilder.getD (TransactionBuilder.create {})
  pendingBetAddress := config.pendingBetAddress
  houseAddress := config.houseAddress
  houseEdge := (config.houseEdge.filter (· ≠ 0)).getD (3 / 100)

variable (H : Blake2b) (manager : BetManager) (node : NodeClient) (runtime : Runtime)

/-- A call that stops before it has built anything. -/
def throws {α : Type} (e : SdkError) : Run α where
  result := throw e
  submitted := []
  txBuilder := manager.txBuilder

/-- The common end of the flows: what was built goes to the node in wallet format. -/
def submit {α : Type} (built : Except SdkError (ErgoTransaction × TransactionBuilder))
    (finish : Text → Except SdkError α) : Run α :=
  match built with
  | .error e => manager.throws e
  | .ok (tx, txBuilder) =>
      match toWalletFormat tx with
      | .error e => { result := throw e, submitted := [], txBuilder }
      | .ok request =>
          match node.submitTransaction request with
          | .error failure => { result := throw (.node failure), submitted := [request], txBuilder }
          | .ok txId => { result := finish txId, submitted := [request], txBuilder }

section PlaceBet

/-- `sha256(commitment + timestamp)` -/
def generateBetId (commitment : Text) : Text :=
  Js.bytesToHex (runtime.sha256 (Js.bufferFromUtf8 (commitment ++ runtime.timestamp)))

/-- What `placeBet` hands to `buildPlaceBetTransaction`. -/
structure PreparedBet where
  params : TransactionBuilder.PlaceBetParams
  betId : Text

/-- The bet on chain at `currentHeight`. The wallet is to fill in the input. -/
def preparedBet (options : PlaceBetOptions) (currentHeight : Nat) : PreparedBet :=
  let secret := actualSecret runtime.randomBytes options.secret
  let commitment := (generateCommit H runtime.randomBytes (some secret) options.choice).commitment
  let betId := generateBetId runtime commitment
  let timeoutDelta := (options.timeoutDelta.filter (· ≠ 0)).getD 100
  let timeoutHeight := currentHeight + timeoutDelta
  { params :=
      { playerAddress := manager.pendingBetAddress
        pendingBetAddress := manager.pendingBetAddress
        amount := options.amount
        housePubKey := manager.houseAddress
        playerPubKey := manager.pendingBetAddress
        commitment
        choice := options.choice
        secret
        timeoutHeight
        inputBoxId := []
        inputBoxValue := 0 }
    betId }

/-- `placeBet` up to the call of the builder. -/
def prepareBet (options : PlaceBetOptions) : Except SdkError PreparedBet :=
  if options.amount ≤ 0 then throw (.betError "Bet amount must be positive")
  else if options.choice ≠ 0 ∧ options.choice ≠ 1 then
    throw (.betError "Bet choice must be 0 (heads) or 1 (tails)")
  else
    match node.getCurrentHeight with
    | .error failure => throw (.node failure)
    | .ok currentHeight => return preparedBet H manager runtime options currentHeight

def placeBet (options : PlaceBetOptions) : Run PlaceBetResult :=
  match prepareBet H manager node runtime options with
  | .error e => manager.throws e
  | .ok bet =>
      manager.submit node (manager.txBuilder.buildPlaceBetTransaction bet.params) fun txId =>
        return {
          betId := bet.betId
          boxId := []
          transactionId := txId
          commitment := bet.params.commitment
          secret := bet.params.secret
          timeoutHeight := bet.params.timeoutHeight }

end PlaceBet

/-- `getBetBox`, and the error that follows if the node has no answer. -/
def getBetBox (boxId : Text) : Except SdkError PendingBetBox :=
  match node.getBoxById boxId with
  | .error _ => throw (.betError s!"Bet box {String.ofList boxId} not found")
  | .ok box => return box

/-- `betBox.additionalRegisters.R.serializedValue` -/
def serializedValue (box : PendingBetBox) (r : Reg) : Except SdkError Text :=
  match box.additionalRegisters r with
  | none => throw (.typeError "Cannot read properties of undefined (reading 'serializedValue')")
  | some register => return register.serializedValue

section RevealBet

def verifyCommit (commitment secret : Text) (choice : Int) : Bool :=
  Sdk.verifyCommit H runtime.randomBytes commitment secret choice

/-- The box of the bet, if its commitment is that of the options. -/
def getVerifiedBox (options : RevealBetOptions) : Except SdkError PendingBetBox := do
  let betBox ← getBetBox node options.boxId
  let commitment ← serializedValue betBox .R5
  if verifyCommit H runtime commitment options.secret options.choice then return betBox
  else throw (.betError "Secret does not match commitment")

/-- `blockInfo.headerId || blockInfo.id` -/
def blockHash (blockInfo : BlockAnswer) : Option Text :=
  (blockInfo.headerId.filter (!·.isEmpty)).or (blockInfo.id.filter (!·.isEmpty))

def getBlockHash (height : Nat) : Except SdkError Text :=
  match node.getBlockHeaderByHeight height with
  | .error failure => throw (.node failure)
  | .ok blockInfo =>
      match blockHash blockInfo with
      | none =>
          throw (.betError (s!"Cannot determine block hash for height {height} — " ++
            "node returned unexpected format. Aborting reveal to prevent RNG manipulation."))
      | some hash =>
          if hash = "placeholder_block_hash".toList ∨ hash = "unknown_block_hash".toList then
            throw (.betError (s!"Suspicious block hash at height {height}: " ++
              s!"\"{String.ofList hash}\". Aborting reveal to prevent RNG manipulation."))
          else return hash

/-- A bet whose outcome is known. -/
structure Outcome where
  betBox : PendingBetBox
  blockHash : Text
  result : BetResult

/-- `revealBet` up to the payout. -/
def revealOutcome (options : RevealBetOptions) : Except SdkError Outcome := do
  let betBox ← getVerifiedBox H node runtime options
  let blockHash ← getBlockHash node betBox.creationHeight
  let outcome := computeRng H blockHash options.secret
  let result := if (outcome : Int) = options.choice then .win else .lose
  return { betBox, blockHash, result }

def calculatePayout (betAmount : Int) : BetResult → Int
  | .win => TransactionBuilder.winnings manager.houseEdge betAmount
  | .lose => 0

/-- What `revealBet` hands to `buildRevealTransaction`. -/
def revealParams (options : RevealBetOptions) (outcome : Outcome) :
    TransactionBuilder.RevealParams where
  betBoxId := options.boxId
  betBoxValue := outcome.betBox.value
  houseAddress := manager.houseAddress
  playerAddress := []
  betAmount := outcome.betBox.value
  result := outcome.result
  houseEdge := manager.houseEdge
  blockHash := outcome.blockHash
  secret := options.secret

def computeRngHash (blockHash secret : Text) : Text :=
  Js.bytesToHex (runtime.sha256 (Js.bufferFromUtf8 blockHash ++ Js.bufferFromHex secret))

def revealBet (options : RevealBetOptions) : Run RevealBetResult :=
  match revealOutcome H node runtime options with
  | .error e => manager.throws e
  | .ok outcome =>
      let params := revealParams manager options outcome
      manager.submit node (manager.txBuilder.buildRevealTransaction params) fun txId => do
        let betId ← serializedValue outcome.betBox .R8
        return {
          transactionId := txId
          betId
          result := outcome.result
          payout := calculatePayout manager outcome.betBox.value outcome.result
          blockHash := outcome.blockHash
          rngHeight := outcome.betBox.creationHeight
          rngHash := computeRngHash runtime outcome.blockHash options.secret }

end RevealBet

section RefundBet

/-- The message of the timeout check. -/
def timeoutNotReached (currentHeight : Nat) (timeoutHeight : Js.Number) : SdkError :=
  .betError (s!"Timeout not reached: current={currentHeight}, " ++
    s!"timeout={runtime.numberToString timeoutHeight}")

/-- `refundBet` up to the call of the builder. -/
def getExpiredBox (options : RefundBetOptions) : Except SdkError PendingBetBox := do
  let betBox ← getBetBox node options.boxId
  match betBox.additionalRegisters .R9 with
  | none => throw (.betError "Bet box does not have timeout register")
  | some r9 =>
      match node.getCurrentHeight with
      | .error failure => throw (.node failure)
      | .ok currentHeight =>
          let timeoutHeight := Js.stringToNumber r9.serializedValue
          if timeoutHeight.exceeds currentHeight then
            throw (timeoutNotReached runtime currentHeight timeoutHeight)
          else return betBox

/-- What `refundBet` hands to `buildRefundTransaction`. -/
def refundParams (options : RefundBetOptions) (betBox : PendingBetBox) :
    TransactionBuilder.RefundParams where
  betBoxId := options.boxId
  betBoxValue := betBox.value
  playerAddress := options.refundAddress
  betAmount := betBox.value

def refundBet (options : RefundBetOptions) : Run RefundBetResult :=
  match getExpiredBox node runtime options with
  | .error e => manager.throws e
  | .ok betBox =>
      let params := refundParams options betBox
      manager.submit node (manager.txBuilder.buildRefundTransaction params) fun txId => do
        let betId ← serializedValue betBox .R8
        return { transactionId := txId, betId, refundAmount := betBox.value }

end RefundBet

section Examples

/-- The default builder with a change address, and `fee` in place of its fee. -/
def exampleBuilder (fee : Int) : TransactionBuilder :=
  TransactionBuilder.create { fee := some fee, changeAddress := some ['c'] }

def exampleManager (fee : Int) : BetManager :=
  create
    { txBuilder := some (exampleBuilder fee)
      pendingBetAddress := ['p']
      houseAddress := ['h'] }

/-- A box with the same text in every register. -/
def exampleBox (value : Int) (serializedValue : Text) : PendingBetBox where
  value := value
  creationHeight := 100
  additionalRegisters _ := some { value := serializedValue, serializedValue }

/-- A node at height 100 that knows one box and accepts every transaction. -/
def exampleClient (betBox : PendingBetBox) (blockAnswer : BlockAnswer) : NodeClient where
  getCurrentHeight := .ok 100
  getBoxById _ := .ok betBox
  getBlockHeaderByHeight _ := .ok blockAnswer
  submitTransaction _ := .ok ['t']

/-- A hash with one digest of every length. -/
def exampleHash : Blake2b := ⟨fun n _ => Vector.replicate n 0⟩

def exampleRuntime : Runtime where
  randomBytes := Vector.replicate 8 0
  timestamp := ['0']
  sha256 bytes := bytes
  numberToString _ := "?"

end Examples

section Specs

variable {H manager node runtime}

/-- A bet is prepared exactly for the accepted options, once the height is known. -/
theorem prepareBet_eq_ok_iff {options : PlaceBetOptions} {bet : PreparedBet} :
    prepareBet H manager node runtime options = .ok bet ↔
      0 < options.amount ∧ (options.choice = 0 ∨ options.choice = 1) ∧
        ∃ currentHeight, node.getCurrentHeight = .ok currentHeight ∧
          bet = preparedBet H manager runtime options currentHeight := by
  rw [prepareBet, ite_throw_eq_ok_iff, ite_throw_eq_ok_iff]
  have hamount : ¬ options.amount ≤ 0 ↔ 0 < options.amount := Int.not_le
  have hchoice : ¬ (options.choice ≠ 0 ∧ options.choice ≠ 1) ↔
      options.choice = 0 ∨ options.choice = 1 := by omega
  rw [hamount, hchoice]
  apply and_congr_right
  intro _
  apply and_congr_right
  intro _
  cases hheight : node.getCurrentHeight with
  | error failure => simp [throw_ne_ok]
  | ok currentHeight =>
      simp only [Except.ok.injEq, exists_eq_left']
      exact pure_eq_ok_iff.trans eq_comm

theorem getBetBox_eq_ok {boxId : Text} {betBox : PendingBetBox}
    (hbox : node.getBoxById boxId = .ok betBox) : getBetBox node boxId = .ok betBox := by
  rw [getBetBox, hbox]
  rfl

/-- What is built and can be sent is submitted, whatever the node answers. -/
theorem submitted_submit {α : Type} {tx : ErgoTransaction} {request : WalletRequest}
    (hrequest : toWalletFormat tx = .ok request) (txBuilder : TransactionBuilder)
    (finish : Text → Except SdkError α) :
    (manager.submit node (.ok (tx, txBuilder)) finish).submitted = [request] := by
  simp only [submit, hrequest]
  cases node.submitTransaction request with
  | error failure => rfl
  | ok txId => rfl

end Specs

end BetManager
end DuckPools.Sdk
