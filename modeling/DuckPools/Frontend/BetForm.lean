import DuckPools.Frontend.CoinflipService

/-!
# `frontend/src/components/BetForm.tsx`

The submission of a bet. The wallet, Fleet and the backend answer or throw; whatever
is thrown ends up as the error message of the form. On chain, the key of the player is
taken from the first unspent box of the wallet; what follows with that key is
`placeBet`.
-/

namespace DuckPools.Frontend

structure SignedTx where
  tx : UnsignedTx
  spendingProofs : List Bytes

/-- The answers of the connected wallet. -/
structure Wallet where
  isConnected : Bool
  walletAddress : Option Text
  getUtxos : Except String (List Utxo)
  getCurrentHeight : Except String Int
  getChangeAddress : Except String (Option Text)
  signTransaction : UnsignedTx → Except String (Option SignedTx)
  submitTransaction : SignedTx → Except String (Option Text)

/-- The state of the form. `isValidAmount` and `amountNanoErg` are what its amount
field parses to. -/
structure Form where
  isValidAmount : Bool
  amountNanoErg : Nat
  choice : Option (Fin 2)
  isSubmitting : Bool

/-- The body of a request to `/place-bet`. -/
structure BetPayload where
  address : Text
  amount : Nat
  choice : Int
  commitment : Text
  betId : Text

/-- A bet that went through; off chain there is no transaction. -/
structure Placed where
  txId : Text
  unsignedTx : Option UnsignedTx

def generateCommitment (H : Blake2b) (secret : Bytes) (choice : Int) : Text :=
  Js.bytesToHex (commitmentHash H secret choice)

def extractPubKeyFromUtxo (utxo : Utxo) : Option Text :=
  match utxo.ergoTree with
  | none => none
  | some tree =>
      if tree.isEmpty || tree.length < 74 then none
      else if "0008cd".toList.isPrefixOf tree then some (Js.slice tree 4 (4 + 66))
      else none

def canSubmit (wallet : Wallet) (form : Form) : Bool :=
  wallet.isConnected && form.isValidAmount && form.choice.isSome && !form.isSubmitting &&
    wallet.walletAddress.isSome

variable (H : Blake2b) (F : Fleet) (cfg : Config) (ergText : Nat → String)

/-- Build, sign and broadcast. -/
def placeBet (wallet : Wallet) (params : PlaceBetParams) : Except String Placed := do
  let built ← buildPlaceBetTx F cfg ergText params
  let some signedTx ← wallet.signTransaction built.unsignedTx
    | throw "Transaction signing was rejected or failed"
  let txId := (← wallet.submitTransaction signedTx).getD []
  if txId.isEmpty then
    throw "Transaction broadcast failed"
  return { txId, unsignedTx := some built.unsignedTx }

/-- The on-chain branch of `handleSubmit`. -/
def onChainFlow (wallet : Wallet) (walletAddress : Text) (amountNanoErg : Nat) (choice : Int)
    (secret : Bytes) (commitment : Text) : Except String Placed := do
  let utxos ← wallet.getUtxos
  let currentHeight ← wallet.getCurrentHeight
  let changeAddressRaw ← wallet.getChangeAddress
  let changeAddress := changeAddressRaw.getD walletAddress
  if changeAddress.isEmpty then
    throw "Could not get change address from wallet"
  let first :: _ := utxos
    | throw "No UTXOs available in wallet. Fund your wallet first."
  let some playerPubKey := (extractPubKeyFromUtxo first).filter (!·.isEmpty)
    | throw "Could not determine player public key. Ensure your UTXO is a P2PK address."
  placeBet F cfg ergText wallet
    { changeAddress, amountNanoErg, playerPubKey, commitment, choice, secret, currentHeight, utxos }

/-- The body of the `try` block. -/
def submitBet (server : BetPayload → Except String Text) (wallet : Wallet)
    (walletAddress : Text) (amountNanoErg : Nat) (choice : Int) (secret : Bytes) (betId : Text) :
    Except String Placed := do
  let commitment := generateCommitment H secret choice
  if !verifyCommitment H secret choice commitment then
    throw "Commitment verification failed — internal error"
  if cfg.isOnChainEnabled then
    onChainFlow F cfg ergText wallet walletAddress amountNanoErg choice secret commitment
  else
    let txId ← server
      { address := walletAddress, amount := amountNanoErg, choice, commitment, betId }
    return { txId, unsignedTx := none }

/-- Nothing happens unless the form can be submitted; otherwise a bet or an error. -/
def handleSubmit (server : BetPayload → Except String Text) (wallet : Wallet) (form : Form)
    (secret : Bytes) (betId : Text) : Option (Except String Placed) :=
  if !canSubmit wallet form then none
  else
    match form.choice, wallet.walletAddress with
    | some choice, some walletAddress =>
        if walletAddress.isEmpty then none
        else
          some (submitBet H F cfg ergText server wallet walletAddress form.amountNanoErg
            (choice.val : Int) secret betId)
    | _, _ => none

variable {H}

/-- The sanity check of the form cannot fail. -/
theorem verifyCommitment_generateCommitment (secret : Bytes) (choice : Int) :
    verifyCommitment H secret choice (generateCommitment H secret choice) = true := by
  rw [verifyCommitment, generateCommitment, Js.toLowerCase, Js.bytesToHex, Hex.map_toLower_encode]
  exact beq_self_eq_true _

end DuckPools.Frontend
