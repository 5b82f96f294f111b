import DuckPools.Codec.Blake2b
import DuckPools.Frontend.Fleet
import DuckPools.Language.JavaScript

/-!
# `frontend/src/services/coinflipService.ts`

The builders of the bet, of its reveal and of its refund, with the decoders of register
text they use. Fleet, the node and the configuration are arguments; an exception is a
value of `Except`, so the order of the checks is the order of the lines.

The loops over encoded numbers keep a signed 32-bit accumulator, whose shift count is
taken modulo 32, and run to the end of the bytes if no byte stops them.
-/

namespace DuckPools.Frontend

open ErgoScript

/-- `config/contract.ts`; a variable that is not set is the empty string. -/
structure Config where
  P2S_ADDRESS : Text
  CONTRACT_ERGO_TREE : Text
  HOUSE_PUB_KEY : Text
  HOUSE_ADDRESS : Text
  GAME_NFT_ID : Text

def TIMEOUT_DELTA : Int := 100

def Config.isOnChainEnabled (cfg : Config) : Bool :=
  !cfg.P2S_ADDRESS.isEmpty && !cfg.HOUSE_PUB_KEY.isEmpty

/-- The configuration that goes with `exampleFleet`. -/
def exampleConfig : Config where
  P2S_ADDRESS := ['c']
  CONTRACT_ERGO_TREE := Hex.encode [9]
  HOUSE_PUB_KEY := Hex.encode (twoKeys.getEncoded true)
  HOUSE_ADDRESS := ['h']
  GAME_NFT_ID := []

section PlaceBet

structure PlaceBetParams where
  changeAddress : Text
  amountNanoErg : Nat
  playerPubKey : Text
  commitment : Text
  choice : Int
  secret : Bytes
  currentHeight : Int
  utxos : List Utxo

structure PlaceBetResult where
  unsignedTx : UnsignedTx
  timeoutHeight : Int

def secretToHex (secret : Bytes) : Text := Js.bytesToHex secret

/-- The output that locks the bet, as it is asked for. -/
def betBox (F : Fleet) (cfg : Config) (params : PlaceBetParams) (contractAddress : Bytes) :
    Output where
  value := params.amountNanoErg
  ergoTree := contractAddress
  creationHeight := params.currentHeight
  assets := if cfg.GAME_NFT_ID.isEmpty then [] else [⟨cfg.GAME_NFT_ID, 1⟩]
  additionalRegisters
    | .R4 => some (F.SColl cfg.HOUSE_PUB_KEY)
    | .R5 => some (F.SColl params.playerPubKey)
    | .R6 => some (F.SColl params.commitment)
    | .R7 => some (F.SInt params.choice)
    | .R8 => some (F.SInt (params.currentHeight + TIMEOUT_DELTA))
    | .R9 => some (F.SColl (secretToHex params.secret))

/-- `ergText` renders `(Number(amount) / 1e9).toFixed(4)` in the one message that needs it. -/
def buildPlaceBetTx (F : Fleet) (cfg : Config) (ergText : Nat → String)
    (params : PlaceBetParams) : Except String PlaceBetResult := do
  if !cfg.isOnChainEnabled then
    throw ("On-chain bet flow is not available. Configure VITE_CONTRACT_P2S_ADDRESS and " ++
      "VITE_HOUSE_PUB_KEY in .env.local.")
  let timeoutHeight := params.currentHeight + TIMEOUT_DELTA
  let contractAddress ← F.fromBase58 cfg.P2S_ADDRESS
  let betBox ← F.OutputBuilder (betBox F cfg params contractAddress)
  let selectedInputs ← F.select params.utxos params.amountNanoErg
  if selectedInputs.isEmpty then
    throw ("Insufficient ERG balance to place bet. You need at least " ++
      s!"{ergText params.amountNanoErg} ERG.")
  let unsignedTx ← F.build
    { creationHeight := params.currentHeight
      inputs := selectedInputs
      outputs := [betBox]
      changeAddress := params.changeAddress }
  return { unsignedTx, timeoutHeight }

/-- The example wallet can bet what is left after the fee. -/
theorem exists_built_bet {H : Blake2b} {contract changeTree : Bytes} {cfg : Config}
    {ergText : Nat → String} {params : PlaceBetParams} {tree : Text} {value : Nat}
    (enabled : cfg.isOnChainEnabled = true) (address : cfg.P2S_ADDRESS = ['c'])
    (noToken : cfg.GAME_NFT_ID = []) (utxos : params.utxos = [walletBox H tree value])
    (change : exampleAddress contract params.changeAddress = .ok changeTree)
    (pos : 0 < params.amountNanoErg) (enough : params.amountNanoErg + 1_100_000 ≤ value) :
    ∃ result, buildPlaceBetTx (fleetAt H contract) cfg ergText params = .ok result := by
  have contracts : (fleetAt H contract).fromBase58 cfg.P2S_ADDRESS = .ok contract := by
    rw [address]
    rfl
  have made : ∀ bet : Output, bet.value = params.amountNanoErg →
      (fleetAt H contract).OutputBuilder bet = .ok bet :=
    fun bet value => if_neg (by omega)
  have selected : (fleetAt H contract).select params.utxos params.amountNanoErg =
      .ok [walletBox H tree value] := by
    have held : funds [walletBox H tree value] = value := Nat.add_zero _
    have covered : ¬ value < params.amountNanoErg := by omega
    have some : params.amountNanoErg ≠ 0 := by omega
    simp [fleetAt, utxos, held, covered, accumulate, some]
  have sent : ∀ bet : Output, bet.value = params.amountNanoErg → bet.assets = [] →
      ∃ tx, (fleetAt H contract).build ⟨params.currentHeight, [walletBox H tree value], [bet],
        params.changeAddress⟩ = .ok tx :=
    fun bet value assets => exists_exampleBuild change assets (by omega)
  generalize fleetAt H contract = F at contracts made selected sent
  obtain ⟨tx, built⟩ := sent (betBox F cfg params contract) rfl (by simp [betBox, noToken])
  refine ⟨⟨tx, params.currentHeight + TIMEOUT_DELTA⟩, ?_⟩
  simp [buildPlaceBetTx, enabled, contracts, made (betBox F cfg params contract) rfl, selected,
    built, bind, Except.bind, pure, Except.pure]

end PlaceBet

section Commitment

variable (H : Blake2b)

/-- `buf[secret.length] = choice` in a `Uint8Array`, hashed. -/
def commitmentHash (secret : Bytes) (choice : Int) : Bytes :=
  (H.blake2b256 (secret ++ [Js.toUint8 (some choice)])).toList

def verifyCommitment (secret : Bytes) (choice : Int) (commitment : Text) : Bool :=
  Js.bytesToHex (commitmentHash H secret choice) == Js.toLowerCase commitment

end Commitment

section Decoding

/-- The byte pairs of a string without `0x`, one `parseInt` each. -/
def parsePairs : Text → Bytes
  | hi :: lo :: rest => Js.toUint8 (Js.parseIntHex [hi, lo]) :: parsePairs rest
  -- The array has half the length, rounded down, and writes past its end are dropped.
  | _ => []

def hexToBytes (hex : Text) : Bytes :=
  match hex with
  | '0' :: 'x' :: clean => parsePairs clean
  | clean => parsePairs clean

/-- The common loop of the decoders: the accumulator, and the bytes not read. -/
def decodeVlq : Bytes → BitVec 32 → Nat → BitVec 32 × Bytes
  | [], acc, _ => (acc, [])
  | b :: rest, acc, shift =>
      let acc := acc ||| (b &&& 0x7f).setWidth 32 <<< (shift % 32)
      if b &&& 0x80 = 0 then (acc, rest) else decodeVlq rest acc (shift + 7)

def decodeCollByte (encoded : Text) : Bytes :=
  let bytes := hexToBytes encoded
  -- A second byte 0x01 is taken for an element type.
  let offset := if bytes[1]? = some 0x01 then 2 else 1
  let (len, rest) := decodeVlq (bytes.drop offset) 0 0
  let offset := max offset (bytes.length - rest.length)
  Js.slice bytes offset (offset + len.toInt)

def decodeInt (encoded : Text) : Int :=
  let bytes := hexToBytes encoded
  let (value, _) := decodeVlq (bytes.drop 1) 0 0
  (value >>> 1 ^^^ -(value &&& 1)).toInt

end Decoding

section Reveal

structure Response (α : Type) where
  status : Nat
  body : α

/-- `resp.ok` -/
def Response.ok {α : Type} (resp : Response α) : Bool := 200 ≤ resp.status && resp.status ≤ 299

/-- What the node says about a box; an error body has no registers. -/
structure NodeBox where
  additionalRegisters : Option (Reg → Option Text)

/-- The node's REST API. A request that does not complete throws. -/
structure Node where
  blocksAt : Int → Except String (Response (List Text))
  utxoByBoxId : Text → Except String (Response NodeBox)

structure CommitBox where
  boxId : Text
  value : Nat
  creationHeight : Int
  txId : Text
  index : Nat
  tokens : Option (List Asset)

structure RevealParams where
  commitBox : CommitBox
  playerAddress : Text
  currentHeight : Int
  houseUtxos : List Utxo
  houseChangeAddress : Text

structure RevealResult where
  unsignedTx : UnsignedTx
  playerWins : Bool
  payoutAmount : Nat
  blockHash : Text

variable (H : Blake2b)

def fetchBlockHeaderId (node : Node) (height : Int) : Except String Text := do
  let resp ← node.blocksAt height
  if !resp.ok then
    throw s!"Failed to fetch block at height {height}: {resp.status}"
  match resp.body with
  | [] => throw s!"No block header found at height {height}"
  | headerId :: _ => return headerId

/-- A register of the answer; missing and empty text are both falsy. -/
def registerText (boxData : NodeBox) (r : Reg) : Option Text :=
  (boxData.additionalRegisters.bind (· r)).filter (!·.isEmpty)

/-- `rngHash[0] % 2`, on the unsigned bytes of a `Uint8Array`. -/
def flipResult (prevBlockHeaderId : Text) (r9Bytes : Bytes) : Nat :=
  (firstByte (H.blake2b256 (hexToBytes prevBlockHeaderId ++ r9Bytes))).toNat % 2

/-- The commit box as an input: its registers are not filled in. -/
def commitInput (cfg : Config) (commitBox : CommitBox) : Utxo where
  boxId := commitBox.boxId
  value := commitBox.value
  ergoTree := some cfg.CONTRACT_ERGO_TREE
  creationHeight := commitBox.creationHeight
  assets := commitBox.tokens.getD []
  additionalRegisters _ := none
  transactionId := commitBox.txId
  index := commitBox.index

/-- The second half of `buildRevealTx`: the payout to the expected winner, and the
transaction around it. -/
def buildPayoutTx (F : Fleet) (cfg : Config) (params : RevealParams) (playerWins : Bool)
    (prevBlockHeaderId : Text) : Except String RevealResult := do
  let betAmount := params.commitBox.value
  let winPayout := betAmount * 97 / 50
  let outputAddress := if playerWins then params.playerAddress else cfg.HOUSE_ADDRESS
  let outputValue := if playerWins then winPayout else betAmount
  let recipient ← F.fromBase58 outputAddress
  let payoutBox ← F.OutputBuilder
    { value := outputValue
      ergoTree := recipient
      creationHeight := params.currentHeight
      assets := params.commitBox.tokens.getD []
      additionalRegisters := fun _ => none }
  let selectedHouseInputs ← F.select params.houseUtxos 1_000_000
  if selectedHouseInputs.isEmpty then
    throw "House wallet has no UTXOs to pay the reveal transaction fee."
  let unsignedTx ← F.build
    { creationHeight := params.currentHeight
      inputs := commitInput cfg params.commitBox :: selectedHouseInputs
      outputs := [payoutBox]
      changeAddress := params.houseChangeAddress }
  return { unsignedTx, playerWins, payoutAmount := outputValue, blockHash := prevBlockHeaderId }

def buildRevealTx (F : Fleet) (cfg : Config) (node : Node) (params : RevealParams) :
    Except String RevealResult := do
  if !cfg.isOnChainEnabled then
    throw "On-chain flow is not available."
  if cfg.HOUSE_ADDRESS.isEmpty then
    throw "VITE_HOUSE_ADDRESS not configured. Cannot build reveal tx."
  let prevBlockHeaderId ← fetchBlockHeaderId node (params.currentHeight - 1)
  -- The status of this answer is not checked.
  let boxResp ← node.utxoByBoxId params.commitBox.boxId
  let some r9Encoded := registerText boxResp.body .R9
    | throw "Commit box missing R9 (playerSecret) register."
  let r9Bytes := decodeCollByte r9Encoded
  let some r7Encoded := registerText boxResp.body .R7
    | throw "Commit box missing R7 (playerChoice) register."
  let playerChoice := decodeInt r7Encoded
  let playerWins := decide ((flipResult H prevBlockHeaderId r9Bytes : Int) = playerChoice)
  buildPayoutTx F cfg params playerWins prevBlockHeaderId

end Reveal

section Refund

structure RefundParams where
  commitBox : CommitBox
  playerUtxos : List Utxo
  changeAddress : Text
  currentHeight : Int

structure RefundResult where
  unsignedTx : UnsignedTx
  refundAmount : Nat

/-- Neither the registers of the box nor the timeout are looked at. -/
def buildRefundTx (F : Fleet) (cfg : Config) (params : RefundParams) :
    Except String RefundResult := do
  if !cfg.isOnChainEnabled then
    throw "On-chain flow is not available."
  let betAmount := params.commitBox.value
  let refundAmount := betAmount - betAmount / 50
  let recipient ← F.fromBase58 params.changeAddress
  let refundBox ← F.OutputBuilder
    { value := refundAmount
      ergoTree := recipient
      creationHeight := params.currentHeight
      assets := params.commitBox.tokens.getD []
      additionalRegisters := fun _ => none }
  let selectedInputs ← F.select params.playerUtxos 1_000_000
  if selectedInputs.isEmpty then
    throw "Insufficient UTXOs to pay the refund transaction fee."
  let unsignedTx ← F.build
    { creationHeight := params.currentHeight
      inputs := commitInput cfg params.commitBox :: selectedInputs
      outputs := [refundBox]
      changeAddress := params.changeAddress }
  return { unsignedTx, refundAmount }

end Refund

end DuckPools.Frontend
