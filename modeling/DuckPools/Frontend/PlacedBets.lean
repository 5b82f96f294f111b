import DuckPools.Coinflip.BetRuns
import DuckPools.Frontend.Refund
import DuckPools.Frontend.Recovery

/-!
# Bets of the frontend in runs of the ledger

From the form to the end of the bet: what the builder writes decides what can become of the
box. Whether it can be spent at all depends on the two keys alone, since the builder gives all
other registers the types that the script reads. A bet with the keys of a house and a player
comes to an end, if need be through a refund of the player, without the frontend.

The form does not get as far. It takes the key of the player from the first box of the wallet,
and asks for more digits than a pay-to-public-key tree has.
-/

namespace DuckPools.Frontend

open ErgoScript CoinflipV2 Exceptions

variable {Point : Type}

/-- The configured address is the one of the published script. -/
def Config.Published (F : Fleet) (cfg : Config) : Prop :=
  ∃ tree, F.fromBase58 cfg.P2S_ADDRESS = .ok tree ∧ Hex.decode ergoTreeHex = some tree

/-- The box that the first output of a transaction becomes. -/
def Creates (E : Curve Point) (tx : UnsignedTx) (b : Box Point) : Prop :=
  ∃ out ∈ tx.outputs.head?, Realizes E b out

section Builder

/-- What a bet is built from, read as bytes and numbers. -/
structure BetInputs (cfg : Config) (params : PlaceBetParams) where
  housePk : Bytes
  playerPk : Bytes
  commitmentHash : Bytes
  playerChoice : Int32
  timeoutHeight : Int32
  house_text : cfg.HOUSE_PUB_KEY = Hex.encode housePk
  player_text : params.playerPubKey = Hex.encode playerPk
  commitment_text : params.commitment = Hex.encode commitmentHash
  choice_eq : params.choice = playerChoice.toInt
  timeout_eq : params.currentHeight + TIMEOUT_DELTA = timeoutHeight.toInt

variable {E : Curve Point} {F : Fleet} {cfg : Config} {ergText : Nat → String}
  {params : PlaceBetParams} {result : PlaceBetResult} {b : Box Point}

/-- The bet is the first output of what is built. -/
theorem buildPlaceBetTx_first (lawful : F.Lawful)
    (built : buildPlaceBetTx F cfg ergText params = .ok result) :
    ∃ contractAddress out, F.fromBase58 cfg.P2S_ADDRESS = .ok contractAddress ∧
      result.unsignedTx.outputs.head? = some out ∧ out.ergoTree = contractAddress ∧
      out.value = params.amountNanoErg ∧
      out.additionalRegisters = (betBox F cfg params contractAddress).additionalRegisters := by
  simp only [buildPlaceBetTx, throw_bind, ite_throw_eq_ok_iff, bind_eq_ok_iff,
    pure_eq_ok_iff] at built
  obtain ⟨_, contractAddress, haddress, made, hmade, inputs, _, _, tx, htx, rfl⟩ := built
  obtain ⟨hvalue, htree, hregisters⟩ := lawful.output_kept hmade
  obtain ⟨rest, hrest⟩ := lawful.outputs_first htx
  refine ⟨contractAddress, made, haddress, ?_, htree, hvalue, hregisters⟩
  show tx.outputs.head? = some made
  rw [← hrest]
  rfl

theorem locked_of_built (lawful : F.Lawful) (published : cfg.Published F)
    (built : buildPlaceBetTx F cfg ergText params = .ok result)
    (creates : Creates E result.unsignedTx b) :
    Hex.decode ergoTreeHex = some b.propositionBytes ∧
      (b.value : Nat) = params.amountNanoErg := by
  obtain ⟨tree, haddress, hdecode⟩ := published
  obtain ⟨contractAddress, made, haddress', hmade, htree, hvalue, _⟩ :=
    buildPlaceBetTx_first lawful built
  obtain ⟨out, hout, realizes⟩ := creates
  obtain rfl := Option.mem_unique hout hmade
  obtain rfl := Except.ok.inj (haddress.symm.trans haddress')
  exact ⟨by rw [realizes.script, htree, hdecode], by rw [realizes.value, hvalue]⟩

theorem hexRegisters_of_built (lawful : F.Lawful)
    (built : buildPlaceBetTx F cfg ergText params = .ok result)
    (creates : Creates E result.unsignedTx b) (r : Reg) :
    b.hexRegisters E r = (betBox F cfg params []).additionalRegisters r := by
  obtain ⟨contractAddress, made, _, hmade, _, _, hregisters⟩ := buildPlaceBetTx_first lawful built
  obtain ⟨out, hout, realizes⟩ := creates
  obtain rfl := Option.mem_unique hout hmade
  rw [realizes.registers, hregisters]
  cases r <;> rfl

/-- What the script finds in the registers. -/
def BetInputs.register (ins : BetInputs cfg params) : Reg → Value Point
  | .R4 => .collByte ins.housePk
  | .R5 => .collByte ins.playerPk
  | .R6 => .collByte ins.commitmentHash
  | .R7 => .int ins.playerChoice
  | .R8 => .int ins.timeoutHeight
  | .R9 => .collByte params.secret

/-- They are written as the ledger reads them. -/
theorem BetInputs.text (ins : BetInputs cfg params) (encodes : F.Encodes) (E : Curve Point)
    (contractAddress : Bytes) (r : Reg) :
    (betBox F cfg params contractAddress).additionalRegisters r =
      some (Value.hex E (ins.register r)) := by
  cases r with
  | R4 => simp only [betBox, register, ins.house_text, encodes.SColl_encode E]
  | R5 => simp only [betBox, register, ins.player_text, encodes.SColl_encode E]
  | R6 => simp only [betBox, register, ins.commitment_text, encodes.SColl_encode E]
  | R7 => simp only [betBox, register, ins.choice_eq, encodes.SInt_toInt E]
  | R8 => simp only [betBox, register, ins.timeout_eq, encodes.SInt_toInt E]
  | R9 => simp only [betBox, register, secretToHex, Js.bytesToHex, encodes.SColl_encode E]

theorem register_of_built (lawful : F.Lawful) (encodes : F.Encodes)
    (ins : BetInputs cfg params) (built : buildPlaceBetTx F cfg ergText params = .ok result)
    (creates : Creates E result.unsignedTx b) (r : Reg) :
    b.registers r = some (ins.register r) :=
  Box.register_of_hex
    ((hexRegisters_of_built lawful built creates r).trans (ins.text encodes E [] r))

/-- There is such a box. -/
theorem exists_created (lawful : F.Lawful) (encodes : F.Encodes) (ins : BetInputs cfg params)
    (built : buildPlaceBetTx F cfg ergText params = .ok result)
    (pos : 0 < params.amountNanoErg) (fits : params.amountNanoErg < 2 ^ 63) :
    ∃ b : Box Point, Creates E result.unsignedTx b := by
  obtain ⟨contractAddress, out, _, hout, htree, hvalue, hregisters⟩ :=
    buildPlaceBetTx_first lawful built
  refine ⟨⟨[], ⟨params.amountNanoErg, pos, fits⟩, contractAddress, [],
    fun r => some (ins.register r)⟩, out, hout, hvalue.symm, htree.symm, fun r => ?_⟩
  rw [hregisters, ins.text encodes E]
  rfl

/-- The bet of a house and a player. -/
def BetInputs.bet (ins : BetInputs cfg params) (housePk playerPk : Point) : Bet Point where
  housePk
  playerPk
  commitmentHash := ins.commitmentHash
  playerChoice := ins.playerChoice
  timeoutHeight := ins.timeoutHeight
  playerSecret := params.secret

/-- The types are right in any case; what is read depends on the two keys. -/
theorem readRegisters_of_built (lawful : F.Lawful) (encodes : F.Encodes)
    (ins : BetInputs cfg params) (built : buildPlaceBetTx F cfg ergText params = .ok result)
    (creates : Creates E result.unsignedTx b) :
    readRegisters E b = (E.decodePoint ins.housePk).bind fun housePk =>
      (E.decodePoint ins.playerPk).map fun playerPk => ins.bet housePk playerPk := by
  have registers := register_of_built lawful encodes ins built creates
  simp only [readRegisters, Box.collByte, Box.int, registers, BetInputs.register,
    Option.bind_eq_bind, Option.bind_some, Option.pure_def]
  cases E.decodePoint ins.housePk with
  | none => rfl
  | some housePk => cases E.decodePoint ins.playerPk <;> rfl

end Builder

section Form

variable {E : Curve Point} {H : Blake2b} {F : Fleet} {cfg : Config} {ergText : Nat → String}
  {wallet : Wallet}

/-- If the tree of the first box starts like a pay-to-public-key tree, it is a tree. -/
def Wallet.FirstTreeParses (E : Curve Point) (wallet : Wallet) : Prop :=
  ∀ utxos, wallet.getUtxos = .ok utxos → ∀ first ∈ utxos.head?, ∀ tree ∈ first.ergoTree,
    "0008cd".toList.isPrefixOf tree = true →
      ∃ bytes, tree = Hex.encode bytes ∧ (ErgoTree.parse E bytes).isSome = true

/-- Such a tree has 72 digits. -/
theorem length_of_publicKeyTree {bytes : Bytes}
    (start : "0008cd".toList.isPrefixOf (Hex.encode bytes) = true)
    (parses : (ErgoTree.parse E bytes).isSome = true) : (Hex.encode bytes).length = 72 := by
  have first : (Hex.encode bytes).take 6 = Hex.encode [0x00, 0x08, 0xcd] :=
    (List.prefix_iff_eq_take.mp (List.isPrefixOf_iff_prefix.mp start)).symm
  have front : bytes.take 3 = [0x00, 0x08, 0xcd] :=
    Hex.encode_injective ((Hex.take_encode bytes 3).symm.trans first)
  have whole : bytes = 0x00 :: 0x08 :: 0xcd :: bytes.drop 3 := by
    have parts := List.take_append_drop 3 bytes
    rw [front] at parts
    exact parts.symm
  rw [whole] at parses
  have key := ErgoTree.length_of_parse_publicKey parses
  rw [Hex.length_encode, whole]
  simp only [List.length_cons, key]

/-- From a wallet that holds boxes of the ledger the form takes no key. -/
theorem onChainFlow_ne_ok (trees : wallet.FirstTreeParses E) {walletAddress : Text}
    {amountNanoErg : Nat} {choice : Int} {secret : Bytes} {commitment : Text} (placed : Placed) :
    onChainFlow F cfg ergText wallet walletAddress amountNanoErg choice secret commitment ≠
      .ok placed := by
  intro flow
  obtain ⟨first, rest, key, hutxos, hextract, _⟩ := onChainFlow_eq_ok_iff.mp flow
  obtain ⟨tree, htree, long, start, _⟩ := extractPubKeyFromUtxo_eq_some_iff.mp hextract
  obtain ⟨bytes, rfl, parses⟩ := trees _ hutxos first rfl tree htree start
  have short := length_of_publicKeyTree start parses
  omega

/-- The form places no bet on chain: a submission that succeeds has no transaction. -/
theorem form_never_bets_on_chain {server : BetPayload → Except String Text} {form : Form}
    {secret : Bytes} {betId : Text} (trees : wallet.FirstTreeParses E) :
    ¬ ∃ placed tx,
      handleSubmit H F cfg ergText server wallet form secret betId = some (.ok placed) ∧
        placed.unsignedTx = some tx := by
  rintro ⟨placed, tx, h, onChain⟩
  rw [handleSubmit] at h
  split at h
  · cases h
  split at h
  · split at h
    · cases h
    have submitted := Option.some.inj h
    simp only [submitBet, verifyCommitment_generateCommitment, Bool.not_true, Bool.false_eq_true,
      if_false] at submitted
    by_cases enabled : cfg.isOnChainEnabled = true
    · rw [if_pos enabled] at submitted
      exact onChainFlow_ne_ok trees placed submitted
    · rw [if_neg enabled] at submitted
      obtain ⟨_, _, offChain⟩ := bind_eq_ok_iff.mp submitted
      obtain rfl := pure_eq_ok_iff.mp offChain
      cases onChain
  · cases h

/-- A wallet with a box of the player of `twoKeys`, in a configuration with the contract. -/
theorem form_never_bets_on_chain_sample :
    ¬ ∃ placed tx,
      handleSubmit sizeHash (exampleFleet sizeHash) exampleConfig (fun _ => "")
          (fun _ => .error "") exampleWallet ⟨true, 1_000_000_000, some 0, false⟩ [] [] =
        some (.ok placed) ∧ placed.unsignedTx = some tx := by
  refine @form_never_bets_on_chain _ twoKeys _ _ _ _ _ _ _ _ _ ?_
  rintro utxos ⟨⟩ first ⟨⟩ tree ⟨⟩ _
  exact ⟨twoKeys.propBytes false, rfl, by rfl⟩

end Form

section Sample

/-- The script is at the address of the configuration. -/
def sampleFleet : Fleet := fleetAt sizeHash (deployed.serialize twoKeys)

theorem published_exampleConfig : exampleConfig.Published sampleFleet :=
  ⟨deployed.serialize twoKeys, rfl, decode_ergoTreeHex twoKeys⟩

/-- A bet of one ERG on heads. -/
def sampleParams : PlaceBetParams where
  changeAddress := ['p']
  amountNanoErg := 1_000_000_000
  playerPubKey := Hex.encode (twoKeys.getEncoded false)
  commitment := generateCommitment sizeHash [] 0
  choice := 0
  secret := []
  currentHeight := 100
  utxos := [exampleUtxo sizeHash (Hex.encode (twoKeys.propBytes false))]

def sampleInputs : BetInputs exampleConfig sampleParams where
  housePk := twoKeys.getEncoded true
  playerPk := twoKeys.getEncoded false
  commitmentHash := commitmentHash sizeHash [] 0
  playerChoice := 0
  timeoutHeight := 200
  house_text := rfl
  player_text := rfl
  commitment_text := rfl
  choice_eq := rfl
  timeout_eq := rfl

theorem sampleParams_built : ∃ result,
    buildPlaceBetTx sampleFleet exampleConfig (fun _ => "") sampleParams = .ok result :=
  exists_built_bet rfl rfl rfl rfl rfl (by decide) (by decide)

/-- The bet is built, and a box can be made of it. -/
theorem sampleParams_created : ∃ result, ∃ b : Box Bool,
    buildPlaceBetTx sampleFleet exampleConfig (fun _ => "") sampleParams = .ok result ∧
      Creates twoKeys result.unsignedTx b := by
  obtain ⟨result, built⟩ := sampleParams_built
  obtain ⟨b, creates⟩ := @exists_created _ twoKeys _ _ _ _ _ (fleetAt_lawful _ _)
    (fleetAt_encodes _ _) sampleInputs built (by decide) (by decide)
  exact ⟨result, b, built, creates⟩

end Sample

section Runs

variable [DecidableEq Point] {H : Blake2b} {E : Curve Point} {F : Fleet} {cfg : Config}
  {ergText : Nat → String} {others : Lock Point} {b : Box Point} {s : Chain Point}
  {events : List (Event Point)}

/-- Whether a bet can be spent some day depends on its two keys alone. -/
theorem built_bet_spendable_iff {params : PlaceBetParams} {result : PlaceBetResult}
    (lawful : F.Lawful) (encodes : F.Encodes) (published : cfg.Published F)
    (ins : BetInputs cfg params) (built : buildPlaceBetTx F cfg ergText params = .ok result)
    (creates : Creates E result.unsignedTx b) (sound : s.Sound) (placed : b ∈ s.utxo.unspent)
    (small : params.amountNanoErg * 97 < 2 ^ 63) :
    (∃ events, s.AcceptedUnder (guarded H E others) events ∧
        b ∉ (s.run events).utxo.unspent) ↔
      (E.decodePoint ins.housePk).isSome = true ∧ (E.decodePoint ins.playerPk).isSome = true := by
  obtain ⟨locked, value⟩ := locked_of_built lawful published built creates
  rw [spendable_iff_readable locked sound placed (by rw [value]; exact small),
    readRegisters_of_built lawful encodes ins built creates]
  cases E.decodePoint ins.housePk with
  | none => simp
  | some housePk => simp

theorem built_bet_spendable_iff_sample :
    ∃ b : Box Bool,
      (∃ events, (sampleChain b).AcceptedUnder (guarded sizeHash twoKeys noOthers) events ∧
          b ∉ ((sampleChain b).run events).utxo.unspent) ↔
        (twoKeys.decodePoint (twoKeys.getEncoded true)).isSome = true ∧
          (twoKeys.decodePoint (twoKeys.getEncoded false)).isSome = true := by
  obtain ⟨result, b, built, creates⟩ := sampleParams_created
  exact ⟨b, built_bet_spendable_iff (fleetAt_lawful _ _) (fleetAt_encodes _ _)
    published_exampleConfig sampleInputs built creates (sound_sampleChain b)
    (List.mem_singleton_self b) (by decide)⟩

/-- A bet with the keys of a house and a player comes to an end: after the timeout it has been
settled, or the player alone can take it back, for a fee of up to a fiftieth. The frontend is no
help with that. -/
theorem built_bet_comes_back {params : PlaceBetParams} {result : PlaceBetResult}
    {housePk playerPk : Point} (lawful : F.Lawful) (encodes : F.Encodes)
    (validates : F.Validates H) (published : cfg.Published F) (ins : BetInputs cfg params)
    (house : E.decodePoint ins.housePk = some housePk)
    (player : E.decodePoint ins.playerPk = some playerPk)
    (built : buildPlaceBetTx F cfg ergText params = .ok result)
    (creates : Creates E result.unsignedTx b) (sound : s.Sound) (placed : b ∈ s.utxo.unspent)
    (small : params.amountNanoErg * 97 < 2 ^ 63)
    (accepted : s.AcceptedUnder (guarded H E others) events)
    (timedOut : params.currentHeight + TIMEOUT_DELTA ≤ (s.run events).height.toInt)
    (feeTree : Bytes) {fee : Nat} (hfee : fee ≤ params.amountNanoErg / 50) :
    ((∃ before t after, events = before ++ .tx t :: after ∧ b ∈ t.inputs ∧
        ∃ c : BetBox E, c.box = b ∧ c.bet = ins.bet housePk playerPk ∧
          Settles H (s.run before) t c) ∨
      ∃ t, (s.run events).ValidUnder (guarded H E others) t ∧ t.inputs = [b] ∧
        t.signers = [playerPk] ∧ ∃ out, t.outputs[0]? = some out ∧
          out.propositionBytes = E.propBytes playerPk ∧
          (out.value : Nat) = params.amountNanoErg - fee) ∧
    ∀ refund : RefundParams, refund.commitBox.Genuine H cfg (b.hexRegisters E) →
      ∀ r, buildRefundTx F cfg refund ≠ .ok r := by
  obtain ⟨locked, value⟩ := locked_of_built lawful published built creates
  have reads : readRegisters E b = some (ins.bet housePk playerPk) := by
    simp [readRegisters_of_built lawful encodes ins built creates, house, player]
  let bet : LockedBet E := ⟨⟨b, ins.bet housePk playerPk, reads⟩, locked⟩
  have late : bet.bet.timeoutHeight ≤ (s.run events).height := by
    rw [Int32.le_iff_toInt_le]
    exact ins.timeout_eq ▸ timedOut
  constructor
  · obtain ⟨before, t, after, split, spent, settles⟩ | ⟨t, valid, inputs, signers, out, first,
        script, amount⟩ :=
      settled_or_refundable bet sound placed accepted late (by show (b.value : Nat) * 97 < _; omega)
        feeTree (by show fee ≤ (b.value : Nat) / 50; omega)
    · exact .inl ⟨before, t, after, split, spent, bet.toBetBox, rfl, rfl, settles⟩
    · exact .inr ⟨t, valid, inputs, signers, out, first, script, amount.trans (by rw [value])⟩
  · intro refund genuine r
    exact @buildRefundTx_ne_ok _ _ _ _ _ _ bet.toBetBox validates genuine r

/-- A bet of one ERG that times out in the next block. -/
theorem built_bet_comes_back_sample :
    ∃ b : Box Bool,
      let s : Chain Bool := ⟨⟨[b], [b.id]⟩, 199, []⟩
      ∃ t, (s.run [.block [7]]).ValidUnder (guarded sizeHash twoKeys noOthers) t ∧
        t.inputs = [b] ∧ t.signers = [false] := by
  obtain ⟨result, b, built, creates⟩ := sampleParams_created
  refine ⟨b, ?_⟩
  intro s
  have sound : s.Sound := ⟨by simp [s], by simp [s]⟩
  have next : s.AcceptedUnder (guarded sizeHash twoKeys noOthers) [.block [7]] :=
    ⟨show (199 : Int32) < Int32.maxValue by decide, trivial⟩
  obtain ⟨⟨_, t, _, split, _⟩ | ⟨t, valid, inputs, signers, _⟩, _⟩ :=
    built_bet_comes_back (fleetAt_lawful _ _) (fleetAt_encodes _ _) (fleetAt_validates _ _)
      published_exampleConfig sampleInputs (twoKeys.decodePoint_getEncoded true)
      (twoKeys.decodePoint_getEncoded false) built creates sound (List.mem_singleton_self b)
      (by decide) next (show (100 : Int) + 100 ≤ ((199 : Int32) + 1).toInt by decide) []
      (Nat.zero_le _)
  · have mem : Event.tx t ∈ [Event.block [7]] := by
      rw [split]
      exact List.mem_append_right _ List.mem_cons_self
    simp at mem
  · exact ⟨t, valid, inputs, signers⟩

end Runs

end DuckPools.Frontend
