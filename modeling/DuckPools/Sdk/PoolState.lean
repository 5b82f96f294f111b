import DuckPools.Backend.PoolStateManager
import DuckPools.Sdk.LpBoxes

/-!
# The two readers of the pool box: `PoolManager.ts` and `pool_manager.py`

The SDK and the backend both read the state of the pool from the node's description of the
pool box. They are meant to find the same state. Each of them knows numbers by type codes of its
own: the code of an `Int` on the ledger is that of a `Long` to both, and only the backend reads
numbers with it from the parameters. The SDK takes every number there for zero.
-/

namespace DuckPools.Sdk.PoolManager

open ErgoScript (Reg)

section Source

/-- The pool box, as the node describes it. -/
structure PoolNodeBox where
  value : Option Nat
  assets : Option (List NodeAsset)
  additionalRegisters : Reg → Option Register

structure OnChainPoolState where
  bankroll : Nat
  totalSupply : Nat
  pendingBets : Nat
  pendingBetsValue : Nat
  totalValue : Nat
  pricePerShare : Nat
  houseEdgeBps : Int
  cooldownBlocks : Int
  poolNftId : Text
  lpTokenId : Text

/-- `POOL_CONFIG.HOUSE_EDGE_BPS` -/
def HOUSE_EDGE_BPS : Int := 300

variable (poolNftId lpTokenId : Text)

/-- The node's answer is `poolBoxes`, or nothing. -/
def getPoolState (poolBoxes : Option (List PoolNodeBox)) : Except String OnChainPoolState :=
  match poolBoxes with
  | none | some [] => throw "Bankroll pool box not found"
  | some (poolBox :: _) =>
      let bankroll := poolBox.value.getD 0
      let lpToken := poolBox.assets.bind fun assets => assets.find? fun a => a.tokenId == lpTokenId
      let totalSupply := (lpToken.map NodeAsset.amount).getD 0
      let pendingBetsValue := 0
      let totalValue := bankroll + pendingBetsValue
      return {
        bankroll, totalSupply, pendingBets := 0, pendingBetsValue, totalValue
        pricePerShare := Bankroll.calculatePricePerShare totalValue totalSupply
        houseEdgeBps := ((poolBox.additionalRegisters .R7).map deserializeInt).getD HOUSE_EDGE_BPS
        cooldownBlocks :=
          ((poolBox.additionalRegisters .R6).map deserializeInt).getD COOLDOWN_BLOCKS
        poolNftId, lpTokenId }

end Source

section Chain

/-- A number in a register of the pool box. -/
inductive NumberRegister where
  | int (n : Int32)
  | long (n : Int64)

def NumberRegister.value : NumberRegister → Int
  | int n => n.toInt
  | long n => n.toInt

/-- The type code on the ledger. -/
def NumberRegister.tag : NumberRegister → Byte
  | int _ => 0x04
  | long _ => 0x05

/-- As the node spells it. -/
def NumberRegister.serializedValue (r : NumberRegister) : Text :=
  Hex.encode (r.tag :: Vlq.encode (Vlq.zigzag r.value))

/-- The pool box. A token is in a box once. -/
structure PoolOnChain where
  value : Nat
  tokens : List (Text × Nat)
  cooldown : Option NumberRegister
  houseEdge : Option NumberRegister
  distinct : (tokens.map Prod.fst).Nodup

variable (box : PoolOnChain)

def PoolOnChain.register : Reg → Option NumberRegister
  | .R6 => box.cooldown
  | .R7 => box.houseEdge
  | _ => none

/-- The node's answer, as the SDK reads it. -/
def PoolOnChain.toSdk : PoolNodeBox where
  value := some box.value
  assets := some (box.tokens.map fun token => ⟨token.1, token.2⟩)
  additionalRegisters r := (box.register r).map fun number => ⟨some number.serializedValue, none⟩

/-- The same answer, as the backend reads it. -/
def PoolOnChain.toBackend : Backend.PoolStateManager.PoolBox where
  value := some box.value
  assets := box.tokens.map fun token => ⟨some token.1, some token.2⟩
  additionalRegisters r := (box.register r).map fun number => ⟨some number.serializedValue⟩

/-- The pool tokens in the box. -/
def PoolOnChain.supply (lpTokenId : Text) : Nat := (box.tokens.lookup lpTokenId).getD 0

end Chain

section Readers

variable {box : PoolOnChain} {lpTokenId : Text}

theorem find_token (tokens : List (Text × Nat)) :
    (((tokens.map fun token => (⟨token.1, token.2⟩ : NodeAsset)).find?
      fun a => a.tokenId == lpTokenId).map NodeAsset.amount) = tokens.lookup lpTokenId := by
  induction tokens with
  | nil => rfl
  | cons token tokens ih =>
      rw [List.map_cons, List.find?_cons, List.lookup_cons]
      by_cases same : token.1 = lpTokenId
      · simp [same]
      · have other : (token.1 == lpTokenId) = false := beq_false_of_ne same
        have other' : (lpTokenId == token.1) = false := beq_false_of_ne (Ne.symm same)
        simp only [other, other']
        exact ih

/-- The last token with the id is the only one. -/
theorem foldl_readAsset (configured : lpTokenId ≠ []) (count : Nat) {tokens : List (Text × Nat)}
    (distinct : (tokens.map Prod.fst).Nodup) (supply : Int) :
    (tokens.map fun token => (⟨some token.1, some (token.2 : Int)⟩ :
        Backend.LpPool.BoxAsset)).foldl (Backend.PoolStateManager.readAsset count)
        (supply, lpTokenId) =
      (((tokens.lookup lpTokenId).map fun amount : Nat => (amount : Int)).getD supply,
        lpTokenId) := by
  induction tokens generalizing supply with
  | nil => rfl
  | cons token tokens ih =>
      obtain ⟨absent, distinct⟩ := List.nodup_cons.mp distinct
      rw [List.map_cons, List.foldl_cons, List.lookup_cons]
      by_cases same : token.1 = lpTokenId
      · have gone : tokens.lookup lpTokenId = none := by
          rw [List.lookup_eq_none_iff]
          intro p hp
          apply bne_iff_ne.mpr
          intro found
          apply absent
          rw [same, found]
          exact List.mem_map_of_mem hp
        have taken : Backend.PoolStateManager.readAsset count (supply, lpTokenId)
            ⟨some token.1, some (token.2 : Int)⟩ = ((token.2 : Int), lpTokenId) := by
          simp [Backend.PoolStateManager.readAsset, same, configured]
        rw [taken, ih distinct, gone]
        simp [same]
      · have other : (lpTokenId == token.1) = false := beq_false_of_ne (Ne.symm same)
        have skipped : Backend.PoolStateManager.readAsset count (supply, lpTokenId)
            ⟨some token.1, some (token.2 : Int)⟩ = (supply, lpTokenId) := by
          simp [Backend.PoolStateManager.readAsset, same, configured]
        rw [skipped, ih distinct]
        simp only [other]

/-- What the backend makes of a number. -/
def NumberRegister.extracted : NumberRegister → Int
  | int n => n.toInt
  | long _ => 0

theorem extract_number (r : NumberRegister) :
    Backend.LpPool.extractIntFromSerialized r.serializedValue = .ok r.extracted := by
  cases r with
  | int n => exact Backend.LpPool.extract_encode (Or.inr rfl) n.toInt
  | long n =>
      have notInt : (0x05 : Byte) ≠ 0x02 := by decide
      have notLong : (0x05 : Byte) ≠ 0x04 := by decide
      exact Backend.LpPool.extract_encode_of_other notInt notLong n.toInt

/-- The SDK reads nothing. -/
theorem deserializeInt_number (r : NumberRegister) :
    deserializeInt ⟨some r.serializedValue, none⟩ = 0 := by
  have text : (⟨some r.serializedValue, none⟩ : Register).serialized = some r.serializedValue := by
    obtain ⟨c, rest, spelled⟩ : ∃ c rest, r.serializedValue = c :: rest := by
      rw [NumberRegister.serializedValue, Hex.encode_cons]
      exact ⟨_, _, rfl⟩
    rw [spelled]
    exact serialized_of_text (Or.inl rfl)
  have other : r.tag ≠ 0x02 := by
    cases r with
    | int n => exact (by decide : (0x04 : Byte) ≠ 0x02)
    | long n => exact (by decide : (0x05 : Byte) ≠ 0x02)
  simp only [deserializeInt, text]
  rw [NumberRegister.serializedValue, Js.bufferFromHex_encode]
  exact if_pos (by simpa using other)

end Readers

section Agreement

open Backend.PoolStateManager (readPool)

variable {box : PoolOnChain} {config : Backend.PoolStateManager.PoolConfig}

/-- The two states say the same of the pool. -/
structure Agree (sdk : OnChainPoolState) (backend : Backend.PoolStateManager.PoolState) : Prop where
  bankroll : backend.bankroll = sdk.bankroll
  totalSupply : backend.total_supply = sdk.totalSupply
  pendingBets : backend.pending_bets = sdk.pendingBets
  pendingBetsValue : backend.pending_bets_value = sdk.pendingBetsValue
  totalValue : backend.total_value = sdk.totalValue
  pricePerShare : backend.price_per_share = sdk.pricePerShare
  houseEdge : backend.house_edge_bps = sdk.houseEdgeBps
  cooldown : backend.cooldown_blocks = sdk.cooldownBlocks
  poolNftId : backend.pool_nft_id = sdk.poolNftId
  lpTokenId : backend.lp_token_id = sdk.lpTokenId

/-- The register is read alike: it holds a `Long`, or the `Int` zero, or it is missing and the
backend is configured with the default of the SDK. -/
def ReadAlike (register : Option NumberRegister) (configured standard : Int) : Prop :=
  match register with
  | none => configured = standard
  | some (.int n) => n.toInt = 0
  | some (.long _) => True

theorem readAlike_iff (register : Option NumberRegister) (configured standard : Int) :
    (register.map NumberRegister.extracted).getD configured =
        ((register.map fun number => (⟨some number.serializedValue, none⟩ : Register)).map
          deserializeInt).getD standard ↔
      ReadAlike register configured standard := by
  cases register with
  | none => exact Iff.rfl
  | some r =>
      simp only [Option.map_some, Option.getD_some, deserializeInt_number]
      cases r with
      | int n => exact Iff.rfl
      | long n => exact iff_of_true rfl trivial

theorem readRegister_eq (register : Option NumberRegister) (configured : Int) :
    Backend.PoolStateManager.readRegister
        (register.map fun number => ⟨some number.serializedValue⟩) configured =
      .ok ((register.map NumberRegister.extracted).getD configured) := by
  cases register with
  | none => rfl
  | some r => exact extract_number r

/-- What the backend reads from the box. -/
theorem readPool_toBackend {nft lpTokenId : Text} (hnft : config.pool_nft_id = some nft)
    (hlp : config.lp_token_id = some lpTokenId) (configured : lpTokenId ≠ []) (now : ℚ)
    (rest : List Backend.PoolStateManager.PoolBox) :
    readPool config now (.ok (box.toBackend :: rest)) = .ok {
      bankroll := box.value
      total_supply := box.supply lpTokenId
      pending_bets := 0
      pending_bets_value := 0
      total_value := box.value
      price_per_share :=
        Backend.PoolManager.calculatePricePerShare box.value (box.supply lpTokenId)
      house_edge_bps := (box.houseEdge.map NumberRegister.extracted).getD config.house_edge_bps
      cooldown_blocks := (box.cooldown.map NumberRegister.extracted).getD config.cooldown_blocks
      pool_nft_id := nft
      lp_token_id := lpTokenId
      last_updated := now } := by
  have supply : (((box.tokens.lookup lpTokenId).map fun amount : Nat => (amount : Int)).getD 0) =
      (box.supply lpTokenId : Int) := by
    rw [PoolOnChain.supply]
    cases box.tokens.lookup lpTokenId with
    | none => rfl
    | some amount => rfl
  have tokens := foldl_readAsset configured box.toBackend.assets.length box.distinct 0
  rw [supply] at tokens
  have edge : Backend.PoolStateManager.readRegister (box.toBackend.additionalRegisters .R7)
      config.house_edge_bps = _ := readRegister_eq box.houseEdge config.house_edge_bps
  have cooldown : Backend.PoolStateManager.readRegister (box.toBackend.additionalRegisters .R6)
      config.cooldown_blocks = _ := readRegister_eq box.cooldown config.cooldown_blocks
  simp only [readPool, bind, Except.bind, hnft, hlp, Option.getD_some, edge, cooldown]
  rw [show box.toBackend.assets.foldl _ _ = _ from tokens]
  simp only [PoolOnChain.toBackend, Option.getD_some, add_zero, pure, Except.pure]

/-- What the SDK reads from it. -/
theorem getPoolState_toSdk (nft lpTokenId : Text) (rest : List PoolNodeBox) :
    getPoolState nft lpTokenId (some (box.toSdk :: rest)) = .ok {
      bankroll := box.value
      totalSupply := box.supply lpTokenId
      pendingBets := 0
      pendingBetsValue := 0
      totalValue := box.value
      pricePerShare := Bankroll.calculatePricePerShare box.value (box.supply lpTokenId)
      houseEdgeBps := ((box.houseEdge.map fun number =>
        (⟨some number.serializedValue, none⟩ : Register)).map deserializeInt).getD HOUSE_EDGE_BPS
      cooldownBlocks := ((box.cooldown.map fun number =>
        (⟨some number.serializedValue, none⟩ : Register)).map deserializeInt).getD COOLDOWN_BLOCKS
      poolNftId := nft
      lpTokenId := lpTokenId } := by
  have supply := @find_token lpTokenId box.tokens
  simp only [getPoolState, PoolOnChain.toSdk, Option.bind_some, Option.getD_some, add_zero, supply,
    PoolOnChain.register]
  rfl

/-- A pool with its cooldown in a register, as the guard reads it, and its edge in a `Long`. -/
def intCooldownPool : PoolOnChain where
  value := 5_000_000_000
  tokens := [(['a'], 1), (['b'], 1000)]
  cooldown := some (.int 60)
  houseEdge := some (.long 300)
  distinct := by decide

end Agreement

end DuckPools.Sdk.PoolManager
