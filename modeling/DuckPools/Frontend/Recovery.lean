import DuckPools.Coinflip.Commitment
import DuckPools.Language.Exceptions

/-!
# Bets placed by the form, and who can take them back

A bet is recoverable by a key when the box it creates is readable, opens its
commitment and lets the holder of that key take the refund. The builder produces such
a box when it is given the key of the player (`buildPlaceBetTx_recoverable`).

The form never gives it that key. The tree of a pay-to-public-key box is a text of 72
characters and `extractPubKeyFromUtxo` asks for 74, so those boxes are turned away; a
longer text with the same start is accepted, and cut one byte too early.
-/

namespace DuckPools.Frontend

open ErgoScript CoinflipV2 Exceptions

variable {Point : Type} (H : Blake2b) (E : Curve Point)

/-- The bet of `tx` can be taken back by the holder of `pk` from its timeout on. -/
def Recoverable [DecidableEq Point] (pk : Point) (tx : UnsignedTx) : Prop :=
  ∃ out ∈ tx.outputs, ∀ box : Box Point, Realizes E box out →
    box.registers .R5 = some (.collByte (E.getEncoded pk)) ∧
      ∃ bet, readRegisters E box = some bet ∧ commitmentOk H bet = true ∧
        ∀ (ctx : Context Point) (signers : List Point) (payout : Box Point), ctx.self = box →
          bet.timeoutHeight ≤ ctx.height → pk ∈ signers → ctx.outputs[0]? = some payout →
          payout.propositionBytes = E.propBytes pk → refundAmount box.value ≤ payout.value →
          acceptsRefund E ctx signers

/-- The first unspent box of the wallet is locked by `pk`. -/
def FirstP2PK (wallet : Wallet) (pk : Point) : Prop :=
  ∃ first rest tree, wallet.getUtxos = .ok (first :: rest) ∧ first.ergoTree = some tree ∧
    Hex.decode tree = some (E.propBytes pk)

def keyText (pk : Point) : Text := Hex.encode (E.getEncoded pk)

variable {H E}

/-- A pay-to-public-key tree is too short for the length check. -/
theorem extractPubKeyFromUtxo_p2pk {utxo : Utxo} {tree : Text} {pk : Point}
    (htree : utxo.ergoTree = some tree) (hdecode : Hex.decode tree = some (E.propBytes pk)) :
    extractPubKeyFromUtxo utxo = none := by
  have hlen : tree.length = 72 := by
    rw [Hex.length_of_decode hdecode, Curve.propBytes, List.length_append, E.length_getEncoded]
    rfl
  simp [extractPubKeyFromUtxo, htree, hlen]

theorem extractPubKeyFromUtxo_eq_some_iff {utxo : Utxo} {key : Text} :
    extractPubKeyFromUtxo utxo = some key ↔
      ∃ tree, utxo.ergoTree = some tree ∧ 74 ≤ tree.length ∧
        "0008cd".toList.isPrefixOf tree = true ∧ Js.slice tree 4 70 = key := by
  rw [extractPubKeyFromUtxo]
  cases utxo.ergoTree with
  | none => simp
  | some tree =>
      simp only [Option.some.injEq, exists_eq_left', Int.reduceAdd]
      by_cases hlong : 74 ≤ tree.length
      · have hnonempty : tree.isEmpty = false := by
          cases tree with
          | nil => simp at hlong
          | cons c tree => rfl
        have hshort : ¬ tree.length < 74 := by omega
        simp only [hnonempty, hshort, decide_false, Bool.or_self, Bool.false_eq_true, if_false,
          hlong, true_and]
        split
        · next h => simp only [h, Option.some.injEq, true_and]
        · next h => simp only [h, reduceCtorEq, Bool.false_eq_true, false_and]
      · have hshort : tree.length < 74 := by omega
        simp only [hshort, decide_true, Bool.or_true, if_true, reduceCtorEq, hlong, false_and]

theorem isEmpty_slice_of_long {tree : Text} (h : 74 ≤ tree.length) :
    (Js.slice tree 4 70).isEmpty = false := by
  have hslice : Js.slice tree 4 70 = (tree.drop 4).take 66 :=
    @Js.slice_natCast _ tree 4 70 (by omega)
  have hlen : (Js.slice tree 4 70).length = 66 := by
    rw [hslice, List.length_take, List.length_drop]
    omega
  exact List.isEmpty_eq_false_iff.mpr (List.ne_nil_of_length_pos (by omega))

section Flow

variable (F : Fleet) (cfg : Config) (ergText : Nat → String) (wallet : Wallet)
variable (walletAddress : Text) (amountNanoErg : Nat) (choice : Int) (secret : Bytes)
variable (commitment : Text)

/-- Everything but the extraction of the key succeeds, if the key is `key`. -/
def PlacesWith (key : Text) (placed : Placed) : Prop :=
  ∃ utxos currentHeight changeAddressRaw, wallet.getUtxos = .ok utxos ∧
    wallet.getCurrentHeight = .ok currentHeight ∧ wallet.getChangeAddress = .ok changeAddressRaw ∧
    (changeAddressRaw.getD walletAddress).isEmpty = false ∧
    placeBet F cfg ergText wallet
      { changeAddress := changeAddressRaw.getD walletAddress, amountNanoErg, playerPubKey := key,
        commitment, choice, secret, currentHeight, utxos } = .ok placed

variable {F cfg ergText wallet walletAddress amountNanoErg choice secret commitment}

theorem onChainFlow_eq_ok_iff {placed : Placed} :
    onChainFlow F cfg ergText wallet walletAddress amountNanoErg choice secret commitment =
        .ok placed ↔
      ∃ first rest key, wallet.getUtxos = .ok (first :: rest) ∧
        extractPubKeyFromUtxo first = some key ∧ key.isEmpty = false ∧
        PlacesWith F cfg ergText wallet walletAddress amountNanoErg choice secret commitment key
          placed := by
  simp only [onChainFlow, throw_bind, ite_throw_eq_ok_iff, bind_eq_ok_iff, Bool.not_eq_true]
  constructor
  · rintro ⟨utxos, hutxos, height, hheight, raw, hraw, hchange, h⟩
    cases utxos with
    | nil => exact absurd h (throw_ne_ok _ _)
    | cons first rest =>
        cases hextract : (extractPubKeyFromUtxo first).filter (!·.isEmpty) with
        | none =>
            simp only [hextract] at h
            exact absurd h (throw_ne_ok _ _)
        | some key =>
            simp only [hextract] at h
            rw [Option.filter_eq_some_iff, Bool.not_eq_true'] at hextract
            exact ⟨first, rest, key, hutxos, hextract.1, hextract.2, _, height, raw, hutxos,
              hheight, hraw, hchange, h⟩
  · rintro ⟨first, rest, key, hfirst, hextract, hkey, utxos, height, raw, hutxos, hheight, hraw,
      hchange, h⟩
    obtain rfl : first :: rest = utxos := Except.ok.inj (hfirst.symm.trans hutxos)
    refine ⟨_, hutxos, height, hheight, raw, hraw, hchange, ?_⟩
    simpa only [hextract, Option.filter_some, hkey, Bool.not_false, if_true] using h

/-- No wallet whose first box is pay-to-public-key gets a bet on chain. -/
theorem onChainFlow_ne_ok_of_p2pk {pk : Point} (h : FirstP2PK E wallet pk) (placed : Placed) :
    onChainFlow F cfg ergText wallet walletAddress amountNanoErg choice secret commitment ≠
      .ok placed := by
  intro hflow
  obtain ⟨first, rest, tree, hutxos, htree, hdecode⟩ := h
  obtain ⟨first', rest', key, hutxos', hextract, _⟩ := onChainFlow_eq_ok_iff.mp hflow
  obtain ⟨rfl, rfl⟩ : first = first' ∧ rest = rest' := by
    simpa using hutxos.symm.trans hutxos'
  rw [extractPubKeyFromUtxo_p2pk htree hdecode] at hextract
  cases hextract

end Flow

section Builder

variable {F : Fleet} {cfg : Config} {ergText : Nat → String} {params : PlaceBetParams}
variable {result : PlaceBetResult}

/-- A built bet is the first output, with the registers that were asked for. -/
theorem buildPlaceBetTx_head (lawful : F.Lawful)
    (built : buildPlaceBetTx F cfg ergText params = .ok result) :
    ∃ contractAddress out, result.unsignedTx.outputs.head? = some out ∧
      out.additionalRegisters = (betBox F cfg params contractAddress).additionalRegisters := by
  simp only [buildPlaceBetTx, throw_bind, ite_throw_eq_ok_iff, bind_eq_ok_iff,
    pure_eq_ok_iff] at built
  obtain ⟨_, contractAddress, _, made, hmade, inputs, _, _, tx, htx, rfl⟩ := built
  obtain ⟨_, _, hregisters⟩ := lawful.output_kept hmade
  obtain ⟨rest, hrest⟩ := lawful.outputs_first htx
  refine ⟨contractAddress, made, ?_, hregisters⟩
  show tx.outputs.head? = some made
  rw [← hrest]
  rfl

theorem buildPlaceBetTx_spec (lawful : F.Lawful)
    (built : buildPlaceBetTx F cfg ergText params = .ok result) :
    ∃ contractAddress, ∃ out ∈ result.unsignedTx.outputs,
      out.additionalRegisters = (betBox F cfg params contractAddress).additionalRegisters := by
  obtain ⟨contractAddress, out, hout, hregisters⟩ := buildPlaceBetTx_head lawful built
  exact ⟨contractAddress, out, List.mem_of_head? hout, hregisters⟩

/-- Given the key of the player, the builder makes bets that this player can recover. -/
theorem buildPlaceBetTx_recoverable [DecidableEq Point] {pk housePk : Point}
    {choice timeoutHeight : Int32} (lawful : F.Lawful) (encodes : F.Encodes)
    (hhouse : cfg.HOUSE_PUB_KEY = keyText E housePk) (hplayer : params.playerPubKey = keyText E pk)
    (hchoice : choice = 0 ∨ choice = 1) (hparam : params.choice = choice.toInt)
    (hcommit : params.commitment = generateCommitment H params.secret params.choice)
    (htimeout : params.currentHeight + TIMEOUT_DELTA = timeoutHeight.toInt)
    (built : buildPlaceBetTx F cfg ergText params = .ok result) :
    Recoverable H E pk result.unsignedTx := by
  obtain ⟨contractAddress, out, hout, hregisters⟩ := buildPlaceBetTx_spec lawful built
  refine ⟨out, hout, ?_⟩
  intro box realizes
  have text (r : Reg) :
      box.hexRegisters E r = (betBox F cfg params contractAddress).additionalRegisters r := by
    rw [realizes.registers, hregisters]
  have h4 : box.registers .R4 = some (.collByte (E.getEncoded housePk)) :=
    Box.register_of_hex (by rw [text, betBox, hhouse, keyText, encodes.SColl_encode E])
  have h5 : box.registers .R5 = some (.collByte (E.getEncoded pk)) :=
    Box.register_of_hex (by rw [text, betBox, hplayer, keyText, encodes.SColl_encode E])
  have h6 : box.registers .R6 = some (.collByte (computedHash H params.secret choice)) :=
    Box.register_of_hex (by
      rw [text, betBox, hcommit, generateCommitment, Js.bytesToHex, hparam,
        commitmentHash_eq_computedHash hchoice, encodes.SColl_encode E])
  have h7 : box.registers .R7 = some (.int choice) :=
    Box.register_of_hex (by rw [text, betBox, hparam, encodes.SInt_toInt E])
  have h8 : box.registers .R8 = some (.int timeoutHeight) :=
    Box.register_of_hex (by rw [text, betBox, htimeout, encodes.SInt_toInt E])
  have h9 : box.registers .R9 = some (.collByte params.secret) :=
    Box.register_of_hex (by
      rw [text, betBox, secretToHex, Js.bytesToHex, encodes.SColl_encode E])
  let bet : Bet Point :=
    ⟨housePk, pk, computedHash H params.secret choice, choice, timeoutHeight, params.secret⟩
  have reads : readRegisters E box = some bet :=
    readRegisters_eq_some_iff.mpr
      ⟨⟨_, h4, E.decodePoint_getEncoded housePk⟩, ⟨_, h5, E.decodePoint_getEncoded pk⟩, h6, h7, h8,
        h9⟩
  refine ⟨h5, bet, reads, beq_self_eq_true _, ?_⟩
  rintro ctx signers payout rfl hheight hsigns hfirst hscript hvalue
  obtain ⟨prop, hrefund, hproved⟩ := (canRefund_proved_iff (E := E)).mpr
    (⟨hheight, hsigns, payout, hfirst, hscript, hvalue⟩ :
      bet.timeoutHeight ≤ ctx.height ∧ bet.playerPk ∈ signers ∧ _)
  exact ⟨bet, prop, reads, hrefund, hproved⟩

/-- With the key of the player instead of the extracted one, the form would place
recoverable bets. -/
theorem PlacesWith.recoverable [DecidableEq Point] {wallet : Wallet} {walletAddress : Text}
    {amountNanoErg : Nat} {choice : Int32} {secret : Bytes} {placed : Placed} {pk housePk : Point}
    (lawful : F.Lawful) (encodes : F.Encodes) (hhouse : cfg.HOUSE_PUB_KEY = keyText E housePk)
    (hchoice : choice = 0 ∨ choice = 1)
    (hheight : ∀ height, wallet.getCurrentHeight = .ok height →
      ∃ timeoutHeight : Int32, height + TIMEOUT_DELTA = timeoutHeight.toInt)
    (h : PlacesWith F cfg ergText wallet walletAddress amountNanoErg choice.toInt secret
      (generateCommitment H secret choice.toInt) (keyText E pk) placed) :
    ∃ tx, placed.unsignedTx = some tx ∧ Recoverable H E pk tx := by
  obtain ⟨utxos, height, raw, _, hget, _, _, hplace⟩ := h
  obtain ⟨timeoutHeight, htimeout⟩ := hheight height hget
  simp only [placeBet, bind_eq_ok_iff] at hplace
  obtain ⟨result, built, signed, _, hplace⟩ := hplace
  cases signed with
  | none => exact absurd hplace (throw_ne_ok _ _)
  | some signedTx =>
      simp only [bind_eq_ok_iff, throw_bind, ite_throw_eq_ok_iff, pure_eq_ok_iff] at hplace
      obtain ⟨_, _, _, rfl⟩ := hplace
      exact ⟨_, rfl, buildPlaceBetTx_recoverable lawful encodes hhouse rfl hchoice rfl rfl htimeout
        built⟩

end Builder

section Claim

variable (H E)
variable [DecidableEq Point] (F : Fleet) (cfg : Config) (ergText : Nat → String) (wallet : Wallet)
variable (walletAddress : Text) (amountNanoErg : Nat) (choice : Int) (secret : Bytes)

/-- A wallet whose first box is pay-to-public-key gets a recoverable bet, provided that
the bet can be placed with its key at all, and any other wallet gets no bet. -/
def FlowRecoverable : Prop :=
  let commitment := generateCommitment H secret choice
  (∀ pk, FirstP2PK E wallet pk →
    (∃ placed, PlacesWith F cfg ergText wallet walletAddress amountNanoErg choice secret commitment
      (keyText E pk) placed) →
    ∃ placed tx,
      onChainFlow F cfg ergText wallet walletAddress amountNanoErg choice secret commitment =
          .ok placed ∧
        placed.unsignedTx = some tx ∧ Recoverable H E pk tx) ∧
  ((∀ pk, ¬ FirstP2PK E wallet pk) →
    ∀ placed,
      onChainFlow F cfg ergText wallet walletAddress amountNanoErg choice secret commitment ≠
        .ok placed)

/-- The claim about the flow holds exactly for the wallets that could not have placed the
bet with their key, and whose first tree is no longer text that starts like a
pay-to-public-key tree, or leads to no bet for another reason. -/
theorem flowRecoverable_iff :
    FlowRecoverable H E F cfg ergText wallet walletAddress amountNanoErg choice secret ↔
      (∀ pk, FirstP2PK E wallet pk → ∀ placed,
        ¬ PlacesWith F cfg ergText wallet walletAddress amountNanoErg choice secret
          (generateCommitment H secret choice) (keyText E pk) placed) ∧
      ((∀ pk, ¬ FirstP2PK E wallet pk) →
        ∀ first rest tree, wallet.getUtxos = .ok (first :: rest) → first.ergoTree = some tree →
          74 ≤ tree.length → "0008cd".toList.isPrefixOf tree = true → ∀ placed,
          ¬ PlacesWith F cfg ergText wallet walletAddress amountNanoErg choice secret
            (generateCommitment H secret choice) (Js.slice tree 4 70) placed) := by
  constructor
  · rintro ⟨recoverable, nobet⟩
    constructor
    · intro pk hpk placed hplaces
      obtain ⟨placed', _, hflow, _⟩ := recoverable pk hpk ⟨placed, hplaces⟩
      exact onChainFlow_ne_ok_of_p2pk hpk placed' hflow
    · intro hnot first rest tree hutxos htree hlong hstart placed hplaces
      have hextract : extractPubKeyFromUtxo first = some (Js.slice tree 4 70) :=
        extractPubKeyFromUtxo_eq_some_iff.mpr ⟨tree, htree, hlong, hstart, rfl⟩
      apply nobet hnot placed
      exact onChainFlow_eq_ok_iff.mpr
        ⟨first, rest, _, hutxos, hextract, isEmpty_slice_of_long hlong, hplaces⟩
  · rintro ⟨noP2PK, noOther⟩
    constructor
    · rintro pk hpk ⟨placed, hplaces⟩
      exact absurd hplaces (noP2PK pk hpk placed)
    · intro hnot placed hflow
      obtain ⟨first, rest, key, hutxos, hextract, _, hplaces⟩ := onChainFlow_eq_ok_iff.mp hflow
      obtain ⟨tree, htree, hlong, hstart, rfl⟩ := extractPubKeyFromUtxo_eq_some_iff.mp hextract
      exact noOther hnot first rest tree hutxos htree hlong hstart placed hplaces

end Claim

/-- A funded wallet of the player of `twoKeys`, that signs and submits. -/
def exampleWallet : Wallet where
  isConnected := true
  walletAddress := some ['p']
  getUtxos := .ok [exampleUtxo sizeHash (Hex.encode (twoKeys.propBytes false))]
  getCurrentHeight := .ok 100
  getChangeAddress := .ok (some ['p'])
  signTransaction tx := .ok (some ⟨tx, []⟩)
  submitTransaction _ := .ok (some ['t'])

/-- It could bet one ERG, and is refused. -/
theorem p2pk_wallet_refused :
    ¬ ∀ (H : Blake2b) (F : Fleet) (cfg : Config) (ergText : Nat → String) (wallet : Wallet)
        (walletAddress : Text) (amountNanoErg : Nat) (choice : Int) (secret : Bytes), F.Lawful →
        F.Encodes →
        FlowRecoverable H twoKeys F cfg ergText wallet walletAddress amountNanoErg choice
          secret := by
  intro h
  have hpk : FirstP2PK twoKeys exampleWallet false :=
    ⟨_, _, _, rfl, rfl, Hex.decode_encode _⟩
  let params : PlaceBetParams :=
    { changeAddress := ['p'], amountNanoErg := 1_000_000_000, playerPubKey := keyText twoKeys false
      commitment := generateCommitment sizeHash (List.replicate 8 0) 0, choice := 0
      secret := List.replicate 8 0, currentHeight := 100
      utxos := [exampleUtxo sizeHash (Hex.encode (twoKeys.propBytes false))] }
  obtain ⟨result, built⟩ : ∃ result,
      buildPlaceBetTx (exampleFleet sizeHash) exampleConfig (fun _ => "") params = .ok result :=
    exists_built_bet rfl rfl rfl rfl rfl (by decide) (by decide)
  have places : placeBet (exampleFleet sizeHash) exampleConfig (fun _ => "") exampleWallet params =
      .ok ⟨['t'], some result.unsignedTx⟩ := by
    rw [placeBet, built]
    rfl
  obtain ⟨_, _, hflow, _⟩ := (h sizeHash (exampleFleet sizeHash) exampleConfig
    (fun _ => "") exampleWallet ['p'] 1_000_000_000 0 (List.replicate 8 0) (fleetAt_lawful _ _)
    (fleetAt_encodes _ _)).1 false hpk ⟨_, _, _, _, rfl, rfl, rfl, rfl, places⟩
  exact onChainFlow_ne_ok_of_p2pk hpk _ hflow

end DuckPools.Frontend
