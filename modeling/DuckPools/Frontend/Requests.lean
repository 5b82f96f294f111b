import DuckPools.Frontend.CoinflipService
import DuckPools.Language.Exceptions

/-!
# What the builders hand to Fleet

The builders are taken apart at the call of Fleet's `build`: `placeBetRequest` and
`revealRequest` return what it is given.

The reveal and the refund both give it the commit box as an input, without its registers. The
id of the box is that of a box with registers, so nothing comes back.
-/

namespace DuckPools.Frontend

open ErgoScript Exceptions

/-- What both builders do once they have the first output: boxes are selected, put behind the
inputs `own`, and nothing selected is an error. -/
def withSelection (F : Fleet) (box : Except String Output) (utxos : List Utxo) (target : Nat)
    (nothing : String) (own : List Utxo) (creationHeight : Int) (changeAddress : Text) :
    Except String TxRequest := do
  let box ← box
  let selected ← F.select utxos target
  if selected.isEmpty then
    throw nothing
  return { creationHeight, inputs := own ++ selected, outputs := [box], changeAddress }

section PlaceBet

variable (F : Fleet) (cfg : Config) (ergText : Nat → String) (params : PlaceBetParams)

/-- The bet box, and the first failures. -/
def lockedBet : Except String Output := do
  if !cfg.isOnChainEnabled then
    throw ("On-chain bet flow is not available. Configure VITE_CONTRACT_P2S_ADDRESS and " ++
      "VITE_HOUSE_PUB_KEY in .env.local.")
  let contractAddress ← F.fromBase58 cfg.P2S_ADDRESS
  F.OutputBuilder (betBox F cfg params contractAddress)

/-- `buildPlaceBetTx` up to the call of `build`. -/
def placeBetRequest : Except String TxRequest :=
  withSelection F (lockedBet F cfg params) params.utxos params.amountNanoErg
    ("Insufficient ERG balance to place bet. You need at least " ++
      s!"{ergText params.amountNanoErg} ERG.") [] params.currentHeight params.changeAddress

theorem buildPlaceBetTx_eq : buildPlaceBetTx F cfg ergText params = (do
    let request ← placeBetRequest F cfg ergText params
    let unsignedTx ← F.build request
    return { unsignedTx, timeoutHeight := params.currentHeight + TIMEOUT_DELTA }) := by
  rw [buildPlaceBetTx, placeBetRequest, withSelection, lockedBet]
  cases cfg.isOnChainEnabled with
  | false => rfl
  | true =>
      cases F.fromBase58 cfg.P2S_ADDRESS with
      | error e => rfl
      | ok contractAddress =>
          dsimp only [ok_bind, Bool.not_true, Bool.false_eq_true, if_false]
          cases F.OutputBuilder (betBox F cfg params contractAddress) with
          | error e => rfl
          | ok betBox =>
              dsimp only [ok_bind]
              cases F.select params.utxos params.amountNanoErg with
              | error e => rfl
              | ok selectedInputs =>
                  dsimp only [ok_bind]
                  cases selectedInputs.isEmpty <;> rfl

end PlaceBet

section Reveal

variable (H : Blake2b) (F : Fleet) (cfg : Config) (node : Node) (params : RevealParams)

/-- The flip as the frontend simulates it, and the header id it is based on. -/
def simulatedFlip : Except String (Bool × Text) := do
  if !cfg.isOnChainEnabled then
    throw "On-chain flow is not available."
  if cfg.HOUSE_ADDRESS.isEmpty then
    throw "VITE_HOUSE_ADDRESS not configured. Cannot build reveal tx."
  let prevBlockHeaderId ← fetchBlockHeaderId node (params.currentHeight - 1)
  let boxResp ← node.utxoByBoxId params.commitBox.boxId
  let some r9Encoded := registerText boxResp.body .R9
    | throw "Commit box missing R9 (playerSecret) register."
  let some r7Encoded := registerText boxResp.body .R7
    | throw "Commit box missing R7 (playerChoice) register."
  let flip : Int := flipResult H prevBlockHeaderId (decodeCollByte r9Encoded)
  return (decide (flip = decodeInt r7Encoded), prevBlockHeaderId)

/-- What the winner is paid. -/
def payoutValue (betAmount : Nat) (playerWins : Bool) : Nat :=
  if playerWins then betAmount * 97 / 50 else betAmount

def payoutBox (playerWins : Bool) : Except String Output := do
  let outputAddress := if playerWins then params.playerAddress else cfg.HOUSE_ADDRESS
  let recipient ← F.fromBase58 outputAddress
  F.OutputBuilder
    { value := payoutValue params.commitBox.value playerWins
      ergoTree := recipient
      creationHeight := params.currentHeight
      assets := params.commitBox.tokens.getD []
      additionalRegisters := fun _ => none }

/-- `buildPayoutTx` up to the call of `build`. -/
def payoutRequest (playerWins : Bool) : Except String TxRequest :=
  withSelection F (payoutBox F cfg params playerWins) params.houseUtxos 1_000_000
    "House wallet has no UTXOs to pay the reveal transaction fee."
    [commitInput cfg params.commitBox] params.currentHeight params.houseChangeAddress

theorem buildPayoutTx_eq (playerWins : Bool) (prevBlockHeaderId : Text) :
    buildPayoutTx F cfg params playerWins prevBlockHeaderId = (do
      let request ← payoutRequest F cfg params playerWins
      let unsignedTx ← F.build request
      return {
        unsignedTx
        playerWins
        payoutAmount := payoutValue params.commitBox.value playerWins
        blockHash := prevBlockHeaderId }) := by
  rw [buildPayoutTx, payoutRequest, withSelection, payoutBox]
  cases F.fromBase58 (if playerWins then params.playerAddress else cfg.HOUSE_ADDRESS) with
  | error e => rfl
  | ok recipient =>
      dsimp only [ok_bind, payoutValue]
      cases F.OutputBuilder _ with
      | error e => rfl
      | ok payoutBox =>
          dsimp only [ok_bind]
          cases F.select params.houseUtxos 1_000_000 with
          | error e => rfl
          | ok selectedHouseInputs =>
              dsimp only [ok_bind]
              cases selectedHouseInputs.isEmpty <;> rfl

/-- `buildRevealTx` up to the call of `build`. -/
def revealRequest : Except String TxRequest := do
  let (playerWins, _) ← simulatedFlip H cfg node params
  payoutRequest F cfg params playerWins

theorem buildRevealTx_eq : buildRevealTx H F cfg node params = (do
    let (playerWins, prevBlockHeaderId) ← simulatedFlip H cfg node params
    buildPayoutTx F cfg params playerWins prevBlockHeaderId) := by
  rw [buildRevealTx, simulatedFlip]
  cases cfg.isOnChainEnabled with
  | false => rfl
  | true =>
      cases cfg.HOUSE_ADDRESS.isEmpty with
      | true => rfl
      | false =>
          dsimp only [Bool.not_true, Bool.false_eq_true, if_false]
          cases fetchBlockHeaderId node (params.currentHeight - 1) with
          | error e => rfl
          | ok prevBlockHeaderId =>
              dsimp only [ok_bind]
              cases node.utxoByBoxId params.commitBox.boxId with
              | error e => rfl
              | ok boxResp =>
                  dsimp only [ok_bind]
                  cases registerText boxResp.body .R9 with
                  | none => rfl
                  | some r9Encoded =>
                      dsimp only
                      cases registerText boxResp.body .R7 <;> rfl

end Reveal

theorem withSelection_eq_ok_iff {F : Fleet} {box : Except String Output} {utxos own : List Utxo}
    {target : Nat} {nothing : String} {creationHeight : Int} {changeAddress : Text}
    {request : TxRequest} :
    withSelection F box utxos target nothing own creationHeight changeAddress = .ok request ↔
      ∃ out selected, box = .ok out ∧ F.select utxos target = .ok selected ∧ selected ≠ [] ∧
        request = ⟨creationHeight, own ++ selected, [out], changeAddress⟩ := by
  simp only [withSelection, throw_bind, ite_throw_eq_ok_iff, bind_eq_ok_iff, pure_eq_ok_iff,
    List.isEmpty_iff]
  constructor
  · rintro ⟨out, hout, selected, hselected, some, rfl⟩
    exact ⟨out, selected, hout, hselected, some, rfl⟩
  · rintro ⟨out, selected, hout, hselected, some, rfl⟩
    exact ⟨out, hout, selected, hselected, some, rfl⟩

section CommitBoxes

/-- The commit box as the node knows it, with its registers. -/
def CommitBox.utxo (cfg : Config) (commitBox : CommitBox) (registers : Reg → Option Text) : Utxo :=
  { commitInput cfg commitBox with additionalRegisters := registers }

/-- The caller describes a box with these registers: its id is the hash of that box, and the hash
tells the box from the one without registers. -/
structure CommitBox.Genuine (H : Blake2b) (cfg : Config) (commitBox : CommitBox)
    (registers : Reg → Option Text) : Prop where
  isValid : (commitBox.utxo cfg registers).isValid H = true
  noCollision : (commitBox.utxo cfg registers).serialize ≠ (commitInput cfg commitBox).serialize →
    H.blake2b256 (commitBox.utxo cfg registers).serialize ≠
      H.blake2b256 (commitInput cfg commitBox).serialize

variable {H : Blake2b} {F : Fleet} {cfg : Config} {commitBox : CommitBox}
  {registers : Reg → Option Text}

/-- Without its registers the box does not have the id of its content. -/
theorem commitInput_not_isValid (genuine : commitBox.Genuine H cfg registers) {r : Reg}
    {text : Text} (held : registers r = some text) :
    (commitInput cfg commitBox).isValid H = false := by
  have content : (commitBox.utxo cfg registers).serialize ≠ (commitInput cfg commitBox).serialize :=
    Utxo.serialize_ne_of_registers rfl
      (List.ne_nil_of_mem (List.mem_filterMap.mpr ⟨r, by cases r <;> simp, held⟩)) rfl
  by_contra valid
  rw [Bool.not_eq_false, Utxo.isValid_iff] at valid
  have named : commitBox.boxId = (commitBox.utxo cfg registers).hashId H :=
    Utxo.isValid_iff.mp genuine.isValid
  have ids : (commitBox.utxo cfg registers).hashId H = (commitInput cfg commitBox).hashId H :=
    named.symm.trans valid
  exact genuine.noCollision content (Vector.toList_inj.mp (Hex.encode_injective ids))

/-- Fleet builds nothing with the commit box in front, whatever else is selected. -/
theorem build_ne_ok_of_commitInput (validates : F.Validates H)
    (genuine : commitBox.Genuine H cfg registers) {r : Reg} {text : Text}
    (held : registers r = some text) {asked made : Output}
    (hmade : F.OutputBuilder asked = .ok made) (assets : asked.assets = commitBox.tokens.getD [])
    (selected : List Utxo) (creationHeight : Int) (changeAddress : Text) (tx : UnsignedTx) :
    F.build ⟨creationHeight, commitInput cfg commitBox :: selected, [made], changeAddress⟩ ≠
      .ok tx := by
  intro built
  have taken := validates.first_selected built rfl fun tokenId => by
    rw [List.flatMap_singleton, validates.assets_kept hmade, assets]
    exact Nat.le_refl _
  have valid := validates.valid_inputs built _ taken
  rw [commitInput_not_isValid genuine held] at valid
  cases valid

end CommitBoxes

end DuckPools.Frontend
