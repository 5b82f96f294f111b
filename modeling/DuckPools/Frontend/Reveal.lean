import DuckPools.Coinflip.Fairness
import DuckPools.Frontend.Registers
import DuckPools.Frontend.Requests

/-!
# Reveals built by the frontend, against the contract

`buildRevealTx` simulates the flip before it builds the transaction, and pays whoever
it expects to win. It does not get as far as the contract: Fleet is given the commit box
without its registers, and refuses it.

What Fleet is asked for would be accepted when the simulation and the contract agree, and
when the payout the contract computes does not overflow.

The simulation reads the first hash byte unsigned, so it expects tails to win on the
odd bytes from 128 on, where the contract lets nobody win. And it simulates a secret
of one byte without that byte, because the register decoder loses it.
-/

namespace DuckPools.Frontend

open ErgoScript CoinflipV2 Exceptions

variable {Point : Type} {E : Curve Point} (H : Blake2b)

/-- A committed bet, the addresses of its two keys, and a node that knows the box and
the chain. The reveal is included at `height`, in the block after `parentId`. -/
structure RevealSituation (F : Fleet) (cfg : Config) (node : Node) (params : RevealParams)
    (b : BetBox E) (height : Int32) (parentId : Bytes) : Prop where
  choice : b.bet.playerChoice = 0 ∨ b.bet.playerChoice = 1
  committed : commitmentOk H b.bet = true
  /-- A box has at most 4096 bytes. -/
  secret_le : b.bet.playerSecret.length ≤ 4096
  player : F.fromBase58 params.playerAddress = .ok (E.propBytes b.bet.playerPk)
  house : F.fromBase58 cfg.HOUSE_ADDRESS = .ok (E.propBytes b.bet.housePk)
  currentHeight : params.currentHeight = height.toInt
  value : params.commitBox.value = b.box.value
  box : node.utxoByBoxId params.commitBox.boxId = .ok ⟨200, ⟨some (b.box.hexRegisters E)⟩⟩
  header : ∃ others,
    node.blocksAt (height.toInt - 1) = .ok ⟨200, Hex.encode parentId :: others⟩

/-- The secret as the register decoder returns it. -/
def decodedSecret (secret : Bytes) : Bytes := if secret.length = 1 then [] else secret

/-- The outcome the frontend computes for a bet. -/
def expectedWin (b : BetBox E) (parentId : Bytes) : Bool :=
  decide (((firstByte (rngHash H parentId (decodedSecret b.bet.playerSecret))).toNat % 2 : Nat) =
    b.bet.playerChoice.toInt)

theorem registerText_of_register {b : Box Point} {r : Reg} {v : Value Point}
    (h : b.registers r = some v) :
    registerText ⟨some (b.hexRegisters E)⟩ r = some (v.hex E) := by
  have text : b.hexRegisters E r = some (v.hex E) := by rw [Box.hexRegisters, h, Option.map_some]
  have nonempty : (v.hex E).isEmpty = false := by cases v <;> rfl
  simp [registerText, text, nonempty]

variable {H}
variable {F : Fleet} {cfg : Config} {node : Node} {params : RevealParams} {b : BetBox E}
variable {height : Int32} {parentId : Bytes} {r : RevealResult}

theorem RevealSituation.fetch (s : RevealSituation H F cfg node params b height parentId) :
    fetchBlockHeaderId node (params.currentHeight - 1) = .ok (Hex.encode parentId) := by
  obtain ⟨others, header⟩ := s.header
  rw [s.currentHeight, fetchBlockHeaderId, header]
  rfl

theorem RevealSituation.secretText (s : RevealSituation H F cfg node params b height parentId) :
    registerText ⟨some (b.box.hexRegisters E)⟩ .R9 =
        some (Value.hex E (.collByte b.bet.playerSecret)) ∧
      decodeCollByte (Value.hex E (.collByte b.bet.playerSecret)) =
        decodedSecret b.bet.playerSecret := by
  obtain ⟨_, _, _, _, _, h9⟩ := readRegisters_eq_some_iff.mp b.reads
  have hle := s.secret_le
  exact ⟨registerText_of_register h9, decodeCollByte_hex E (by omega)⟩

theorem choiceText (b : BetBox E) :
    registerText ⟨some (b.box.hexRegisters E)⟩ .R7 =
      some (Value.hex E (.int b.bet.playerChoice)) :=
  registerText_of_register (readRegisters_eq_some_iff.mp b.reads).2.2.2.1

/-- For a committed bet the simulation is the expected outcome. -/
theorem RevealSituation.simulatedFlip_eq
    (s : RevealSituation H F cfg node params b height parentId)
    (enabled : cfg.isOnChainEnabled = true) (house : cfg.HOUSE_ADDRESS.isEmpty = false) :
    simulatedFlip H cfg node params = .ok (expectedWin H b parentId, Hex.encode parentId) := by
  obtain ⟨secretText, secretRead⟩ := s.secretText
  simp only [simulatedFlip, enabled, house, Bool.not_true, Bool.false_eq_true, if_false, s.fetch,
    s.box, ok_bind, secretText, secretRead, choiceText, decodeInt_hex, flipResult,
    hexToBytes_encode]
  rfl

/-- Nothing is simulated without the configuration. -/
theorem enabled_of_simulatedFlip {flip : Bool × Text}
    (h : simulatedFlip H cfg node params = .ok flip) :
    cfg.isOnChainEnabled = true ∧ cfg.HOUSE_ADDRESS.isEmpty = false := by
  simp only [simulatedFlip, throw_bind, ite_throw_eq_ok_iff, Bool.not_eq_true', Bool.not_eq_false,
    Bool.not_eq_true] at h
  exact ⟨h.1, h.2.1⟩

/-- The expected winner is to be paid with the only output that is asked for. -/
theorem RevealSituation.revealRequest_spec (lawful : F.Lawful)
    (s : RevealSituation H F cfg node params b height parentId) {request : TxRequest}
    (asked : revealRequest H F cfg node params = .ok request) :
    simulatedFlip H cfg node params = .ok (expectedWin H b parentId, Hex.encode parentId) ∧
      ∃ out, request.outputs = [out] ∧
        out.ergoTree =
          E.propBytes (if expectedWin H b parentId then b.bet.playerPk else b.bet.housePk) ∧
        out.value = payoutValue b.box.value (expectedWin H b parentId) := by
  obtain ⟨flip, hflip, paid⟩ := bind_eq_ok_iff.mp asked
  obtain ⟨enabled, house⟩ := enabled_of_simulatedFlip hflip
  have simulated := s.simulatedFlip_eq enabled house
  obtain rfl := Except.ok.inj (simulated.symm.trans hflip)
  refine ⟨simulated, ?_⟩
  have recipient : F.fromBase58
      (if expectedWin H b parentId = true then params.playerAddress else cfg.HOUSE_ADDRESS) =
      .ok (E.propBytes (if expectedWin H b parentId = true then b.bet.playerPk
        else b.bet.housePk)) := by
    split
    · exact s.player
    · exact s.house
  obtain ⟨made, selected, hmade, _, _, rfl⟩ := withSelection_eq_ok_iff.mp paid
  simp only [payoutBox, recipient, ok_bind, s.value] at hmade
  obtain ⟨hvalue, htree, _⟩ := lawful.output_kept hmade
  exact ⟨made, rfl, htree, hvalue⟩

/-- The two conditions under which the simulation agrees with the contract, and the one
under which the contract can compute the payout. -/
structure RevealAgrees (H : Blake2b) (b : BetBox E) (parentId : Bytes) : Prop where
  /-- Tails, and a first hash byte that is odd and at least 128: a win for the frontend,
  a loss on chain. -/
  sign : b.bet.playerSecret.length ≠ 1 →
    ¬ (b.bet.playerChoice = 1 ∧
      (firstByte (rngHash H parentId b.bet.playerSecret)).toNat % 2 = 1 ∧
      128 ≤ (firstByte (rngHash H parentId b.bet.playerSecret)).toNat)
  /-- A secret of one byte: the frontend hashes the parent id alone. -/
  oneByte : b.bet.playerSecret.length = 1 →
    ((((firstByte (rngHash H parentId [])).toNat % 2 : Nat) : Int) = b.bet.playerChoice.toInt ↔
      winningByte b.bet.playerChoice (firstByte (rngHash H parentId b.bet.playerSecret)))
  /-- The payout of a won bet is computed in 64 bits. -/
  payout : winningByte b.bet.playerChoice (firstByte (rngHash H parentId b.bet.playerSecret)) →
    (b.box.value : Nat) * 97 < 2 ^ 63

theorem payoutFits_iff (hchoice : b.bet.playerChoice = 0 ∨ b.bet.playerChoice = 1) :
    b.bet.payoutFits H parentId b.box.value ↔
      (winningByte b.bet.playerChoice (firstByte (rngHash H parentId b.bet.playerSecret)) →
        (b.box.value : Nat) * 97 < 2 ^ 63) := by
  rw [Bet.payoutFits, Bet.playerWins, playerWins_iff_winningByte H hchoice]

/-- On the decoded secret, the frontend's parity test and the contract's signed one differ
on one combination only. -/
theorem expectedWin_eq_iff (hchoice : b.bet.playerChoice = 0 ∨ b.bet.playerChoice = 1) :
    expectedWin H b parentId = b.bet.playerWins H parentId ↔
      (b.bet.playerSecret.length ≠ 1 →
        ¬ (b.bet.playerChoice = 1 ∧
          (firstByte (rngHash H parentId b.bet.playerSecret)).toNat % 2 = 1 ∧
          128 ≤ (firstByte (rngHash H parentId b.bet.playerSecret)).toNat)) ∧
      (b.bet.playerSecret.length = 1 →
        ((((firstByte (rngHash H parentId [])).toNat % 2 : Nat) : Int) = b.bet.playerChoice.toInt ↔
          winningByte b.bet.playerChoice (firstByte (rngHash H parentId b.bet.playerSecret)))) := by
  have wins := playerWins_iff_winningByte H hchoice parentId b.bet.playerSecret
  rw [Bool.eq_iff_iff, Bet.playerWins, wins, expectedWin, decide_eq_true_iff, decodedSecret]
  by_cases hone : b.bet.playerSecret.length = 1
  · simp only [hone, if_true, ne_eq, not_true_eq_false, false_imp_iff, true_imp_iff, true_and]
  · simp only [hone, if_false, ne_eq, not_false_eq_true, true_imp_iff, false_imp_iff, and_true]
    have heads : ¬ (0 : Int32) = 1 := by decide
    rcases hchoice with hc | hc
    · simp only [hc, winningByte, Int32.toInt_zero, heads, false_and, or_false, true_and,
        not_false_eq_true, iff_true]
      omega
    · simp only [hc, winningByte, Int32.toInt_one, Ne.symm heads, false_and, false_or, true_and]
      omega

/-- The reveal that is asked for expects what the contract will find, and would be accepted, if
and only if the two simulations agree and the payout fits. -/
theorem RevealSituation.request_agrees_iff [DecidableEq Point] (lawful : F.Lawful)
    (s : RevealSituation H F cfg node params b height parentId) {request : TxRequest}
    {inputs outputs : List (Box Point)} (asked : revealRequest H F cfg node params = .ok request)
    (starts : StartsWith E outputs request.outputs) :
    ((∃ header, simulatedFlip H cfg node params = .ok (b.bet.playerWins H parentId, header)) ∧
      acceptsReveal H E (revealContext inputs outputs height parentId b) [b.bet.housePk]) ↔
      RevealAgrees H b parentId := by
  obtain ⟨simulated, out, houtputs, htree, hvalue⟩ := s.revealRequest_spec lawful asked
  have agree := @expectedWin_eq_iff _ _ H b parentId s.choice
  have fits := @payoutFits_iff _ _ H b parentId s.choice
  have same : (∃ header, simulatedFlip H cfg node params =
      .ok (b.bet.playerWins H parentId, header)) ↔
        expectedWin H b parentId = b.bet.playerWins H parentId := by
    simp only [simulated, Except.ok.injEq, Prod.mk.injEq, exists_and_left, exists_eq', and_true]
  rw [houtputs] at starts
  obtain ⟨first, hfirst, realizes⟩ := starts out rfl
  rw [acceptsReveal_iff, same, agree, fits]
  constructor
  · rintro ⟨⟨hsign, hone⟩, _, _, hfits, _⟩
    exact ⟨hsign, hone, hfits⟩
  · rintro ⟨hsign, hone, hfits⟩
    have agreed := agree.mpr ⟨hsign, hone⟩
    refine ⟨⟨hsign, hone⟩, List.mem_singleton.mpr rfl, s.committed, hfits, first,
      List.head?_eq_getElem? ▸ hfirst, ?_, ?_⟩
    · rw [realizes.script, htree, agreed, BetBox.demand_eq]
      rfl
    · rw [realizes.value, hvalue, agreed, BetBox.demand_eq]
      exact le_refl _

/-- No reveal of a bet is built: Fleet refuses the commit box as an input. -/
theorem buildRevealTx_ne_ok (validates : F.Validates H)
    (genuine : params.commitBox.Genuine H cfg (b.box.hexRegisters E)) (r : RevealResult) :
    buildRevealTx H F cfg node params ≠ .ok r := by
  intro built
  rw [buildRevealTx_eq] at built
  obtain ⟨⟨playerWins, header⟩, _, paid⟩ := bind_eq_ok_iff.mp built
  simp only [buildPayoutTx_eq] at paid
  obtain ⟨request, asked, paid⟩ := bind_eq_ok_iff.mp paid
  obtain ⟨made, selected, hmade, _, _, rfl⟩ := withSelection_eq_ok_iff.mp asked
  obtain ⟨recipient, _, hmade⟩ := bind_eq_ok_iff.mp hmade
  obtain ⟨tx, htx, _⟩ := bind_eq_ok_iff.mp paid
  have held : b.box.hexRegisters E .R9 = some (Value.hex E (.collByte b.bet.playerSecret)) := by
    rw [Box.hexRegisters, (readRegisters_eq_some_iff.mp b.reads).2.2.2.2.2, Option.map_some]
  exact build_ne_ok_of_commitInput validates genuine held hmade rfl selected _ _ tx htx

/-- A reveal that spends the bet is built, expects what the contract will find, and is accepted
when the house has signed it. -/
def RevealBuilt [DecidableEq Point] (H : Blake2b) (F : Fleet) (cfg : Config) (node : Node)
    (params : RevealParams) (b : BetBox E) (height : Int32) (parentId : Bytes) : Prop :=
  ∃ r, buildRevealTx H F cfg node params = .ok r ∧
    (∃ input ∈ r.unsignedTx.inputs, input.boxId = params.commitBox.boxId) ∧
    r.playerWins = b.bet.playerWins H parentId ∧
    ∀ inputs outputs : List (Box Point), StartsWith E outputs r.unsignedTx.outputs →
      acceptsReveal H E (revealContext inputs outputs height parentId b) [b.bet.housePk]

/-- A bet of one ERG whose commitment is `hash` in every byte. -/
def exampleBet (hash : Byte) (choice : Int32) : BetBox twoKeys where
  box :=
    { id := [1]
      value := Amount.ofNat 1_000_000_000
      propositionBytes := [9]
      tokens := []
      registers := fun
        | .R4 => some (.collByte (twoKeys.getEncoded true))
        | .R5 => some (.collByte (twoKeys.getEncoded false))
        | .R6 => some (.collByte (List.replicate 32 hash))
        | .R7 => some (.int choice)
        | .R8 => some (.int 200)
        | .R9 => some (.collByte [1, 2, 3, 4, 5, 6, 7, 8]) }
  bet := ⟨true, false, List.replicate 32 hash, choice, 200, [1, 2, 3, 4, 5, 6, 7, 8]⟩
  reads := by rfl

def exampleNode (b : BetBox twoKeys) (parentId : Bytes) : Node where
  blocksAt _ := .ok ⟨200, [Hex.encode parentId]⟩
  utxoByBoxId _ := .ok ⟨200, ⟨some (b.box.hexRegisters twoKeys)⟩⟩

/-- The description of the bet, with the id of its box. -/
def exampleCommitBox (H : Blake2b) (b : BetBox twoKeys) : CommitBox :=
  let commitBox : CommitBox :=
    ⟨[], 1_000_000_000, 95, Hex.encode (List.replicate 32 4), 0, none⟩
  { commitBox with
    boxId := (commitBox.utxo exampleConfig (b.box.hexRegisters twoKeys)).hashId H }

def exampleParams (H : Blake2b) (b : BetBox twoKeys) : RevealParams where
  commitBox := exampleCommitBox H b
  playerAddress := ['p']
  currentHeight := 100
  houseUtxos := [exampleUtxo H (Hex.encode (twoKeys.propBytes true))]
  houseChangeAddress := ['h']

theorem exampleSituation {H : Blake2b} {hash : Byte} {choice : Int32}
    (hchoice : choice = 0 ∨ choice = 1)
    (digest : computedHash H [1, 2, 3, 4, 5, 6, 7, 8] choice = List.replicate 32 hash)
    (parentId : Bytes) :
    RevealSituation H (exampleFleet H) exampleConfig
      (exampleNode (exampleBet hash choice) parentId) (exampleParams H (exampleBet hash choice))
      (exampleBet hash choice) 100 parentId where
  choice := hchoice
  committed := beq_iff_eq.mpr digest
  secret_le := (by decide : 8 ≤ 4096)
  player := rfl
  house := rfl
  currentHeight := rfl
  value := rfl
  box := rfl
  header := ⟨[], rfl⟩

theorem computedHash_constantHash (hash : Byte) (choice : Int32) :
    computedHash (constantHash hash) [1, 2, 3, 4, 5, 6, 7, 8] choice = List.replicate 32 hash :=
  Vector.toList_replicate

theorem computedHash_sizeHash (choice : Int32) :
    computedHash sizeHash [1, 2, 3, 4, 5, 6, 7, 8] choice = List.replicate 32 9 :=
  Vector.toList_replicate

theorem length_serialize_collByte {bytes : Bytes} (short : bytes.length < 128) :
    ((Value.collByte bytes).serialize E).length = bytes.length + 2 := by
  rw [Value.serialize, Vlq.encode_of_lt short, List.length_cons, List.length_append,
    List.length_singleton]
  omega

/-- The registers of the bet take 119 bytes. -/
theorem length_exampleRegisters {choice : Int32} (hchoice : choice = 0 ∨ choice = 1) :
    (((exampleCommitBox sizeHash (exampleBet 9 choice)).utxo exampleConfig
      ((exampleBet 9 choice).box.hexRegisters twoKeys)).registers.flatMap
        Utxo.bytesOf).length = 119 := by
  have key : ∀ p, (twoKeys.getEncoded p).length = 33 := by intro p; cases p <;> rfl
  have timeout : ((Value.int 200).serialize twoKeys).length = 3 := by
    rw [Value.serialize, Vlq.encode_of_ge (by decide), Vlq.encode_of_lt (by decide)]
    rfl
  have choices : ((Value.int choice).serialize twoKeys).length = 2 := by
    obtain rfl | rfl := hchoice <;> rw [Value.serialize, Vlq.encode_of_lt (by decide)] <;> rfl
  simp [Utxo.registers, CommitBox.utxo, Box.hexRegisters, exampleBet, Utxo.bytesOf, Value.hex,
    length_serialize_collByte, key, timeout, choices]

theorem exampleCommitBox_genuine {choice : Int32} (hchoice : choice = 0 ∨ choice = 1) :
    (exampleCommitBox sizeHash (exampleBet 9 choice)).Genuine sizeHash exampleConfig
      ((exampleBet 9 choice).box.hexRegisters twoKeys) where
  isValid := Utxo.isValid_iff.mpr rfl
  noCollision _ := by
    have more := length_exampleRegisters hchoice
    apply sizeHash_ne
    simp only [Utxo.serialize, List.length_append, List.length_cons, more]
    simp only [CommitBox.utxo, commitInput, Utxo.head, Utxo.registers, List.filterMap_none,
      List.flatMap_nil, List.length_nil]
    omega

/-- What is asked for when the player is expected to win. -/
theorem revealRequest_heads : ∃ request,
    revealRequest sizeHash (exampleFleet sizeHash) exampleConfig (exampleNode (exampleBet 9 0) [])
      (exampleParams sizeHash (exampleBet 9 0)) = .ok request ∧
    request.outputs = [⟨1_940_000_000, twoKeys.propBytes false, 100, [], fun _ => none⟩] := by
  have flip := (exampleSituation (.inl rfl) (computedHash_sizeHash 0) []).simulatedFlip_eq rfl rfl
  have wins : expectedWin sizeHash (exampleBet 9 0) [] = true := by decide
  rw [revealRequest, flip, wins]
  exact ⟨_, rfl, rfl⟩

end DuckPools.Frontend
