import DuckPools.Backend.PoolArithmetic
import DuckPools.Codec.Integers
import DuckPools.ErgoScript.Box
import DuckPools.Language.Exceptions
import DuckPools.Language.PythonText

/-!
# Withdrawals from the pool: `backend/lp_routes.py`, `backend/pool_manager.py`

A request for a withdrawal writes the script of the holder, the amount, the height and the
cooldown into the registers of a box. Its execution and its cancellation read them back from
the node's description of that box.

The numbers are decoded. The script is not: the serialized collection is used as the script
itself, so that its type, element type and length are the first bytes of what the output is
locked by.

The state of the pool and the node's answers are arguments; an answer of another shape, or
none, throws. The one use of floating point, in the texts for the user, is an argument too.
-/

namespace DuckPools.Backend.LpPool

open ErgoScript (Reg)
open Exceptions
open PoolManager (calculateWithdrawErg)

structure PoolConfig where
  min_pool_value : Int := 1_000_000_000
  withdraw_request_tree_hex : Option Text := none

structure PoolState where
  bankroll : Int
  total_supply : Int
  total_value : Int
  cooldown_blocks : Int
  lp_token_id : Text

section Serialization

def encodeVlq (value : Int) : Text :=
  if value = 0 then ['0', '0'] else Hex.encode (Integers.vlqGroups value)

def zigzagEncodeI32 (value : Int) : Int := Int.land (Integers.zigzagEncode 31 value) 0xFFFFFFFF

def zigzagEncodeI64 (value : Int) : Int :=
  Int.land (Integers.zigzagEncode 63 value) 0xFFFFFFFFFFFFFFFF

def serializeInt (value : Int) : Text := "02".toList ++ encodeVlq (zigzagEncodeI32 value)

def serializeLong (value : Int) : Text := "04".toList ++ encodeVlq (zigzagEncodeI64 value)

def serializeCollByte (data : Bytes) : Text :=
  "0e01".toList ++ encodeVlq data.length ++ Hex.encode data

/-- `_extract_int_from_serialized` -/
def extractIntFromSerialized (hexStr : Text) : Except String Int :=
  if hexStr.length < 4 then return 0
  else
    match Py.bytesFromhex hexStr with
    | none => throw "ValueError"
    | some [] => throw "IndexError"
    | some (type :: buf) =>
        if type ≠ 0x02 ∧ type ≠ 0x04 then return 0
        else return Integers.zigzagDecode (Integers.readVlq buf 0 0).1

end Serialization

section Node

/-- A register of a box, as the node describes it. -/
structure Register where
  serializedValue : Option Text

structure BoxAsset where
  tokenId : Option Text
  amount : Option Int

structure BoxAnswer where
  additionalRegisters : Reg → Option Register
  assets : List BoxAsset

structure Node where
  /-- `fullHeight` in `/info` -/
  info : Except String (Option Int)
  /-- `bytes` in `/script/addressToBytes/...` -/
  addressToBytes : Text → Except String (Option Text)
  /-- `/blockchain/box/byId/...` -/
  boxById : Text → Except String BoxAnswer

/-- `registers.get(r, {}).get("serializedValue", "")` -/
def BoxAnswer.serialized (box : BoxAnswer) (r : Reg) : Text :=
  ((box.additionalRegisters r).bind (·.serializedValue)).getD []

end Node

structure Asset where
  tokenId : Text
  amount : Text

structure Request where
  value : Text
  ergoTree : Text
  assets : List Asset := []
  additionalRegisters : Reg → Option Text := fun _ => none

structure TxJson where
  rawInputBoxes : List Text := []
  request : Request
  fee : Text

structure TxResponse where
  tx_json : TxJson
  message : Text

/-- An `HTTPException`, or another one that the framework answers with 500. -/
inductive LpError where
  | http (status : Nat) (detail : Text)
  | raised (what : String)

variable (nanoToErg : Int → Text) (config : PoolConfig) (state : PoolState) (node : Node)

/-- A call whose exceptions are not handled. -/
def unhandled {α : Type} (x : Except String α) : Except LpError α := x.mapError .raised

def maxWithdraw : Int := max 0 (state.bankroll - config.min_pool_value)

structure WithdrawRequestCreate where
  lp_amount : Int
  address : Text
  lp_amount_pos : 0 < lp_amount

/-- The amount that is requested. -/
def ergAmount (lpAmount : Int) : Int :=
  min (calculateWithdrawErg lpAmount state.total_value state.total_supply)
    (maxWithdraw config state)

/-- The registers of the request box. -/
def requestRegisters (holderTree : Bytes) (ergAmount currentHeight cooldownBlocks : Int) :
    Reg → Option Text
  | .R4 => some (serializeCollByte holderTree)
  | .R5 => some (serializeLong ergAmount)
  | .R6 => some (serializeInt currentHeight)
  | .R7 => some (serializeInt cooldownBlocks)
  | _ => none

/-- The script of the holder, as the node spells it. -/
def holderTree (address : Text) : Except LpError Bytes := do
  let addressBytes ← unhandled (node.addressToBytes address)
  match Py.bytesFromhex (addressBytes.getD []) with
  | none => throw (.raised "ValueError")
  | some bytes => return bytes

def requestWithdrawal (body : WithdrawRequestCreate) : Except LpError TxResponse := do
  if body.lp_amount > state.total_supply then
    throw (.http 400 "Withdrawal amount exceeds pool supply".toList)
  if state.lp_token_id.isEmpty then
    throw (.http 400 "LP token not deployed yet".toList)
  let ergAmount := ergAmount config state body.lp_amount
  let currentHeight := (← unhandled node.info).getD 0
  let ergoTreeBytes ← holderTree node body.address
  let some withdrawRequestTree := config.withdraw_request_tree_hex.filter (!·.isEmpty)
    | throw (.http 400 "Withdraw request contract not configured".toList)
  return {
    tx_json := {
      request := {
        ergoTree := withdrawRequestTree
        value := Py.str (max 1_000_000 (ergAmount / 10))
        assets := [{ tokenId := state.lp_token_id, amount := Py.str body.lp_amount }]
        additionalRegisters :=
          requestRegisters ergoTreeBytes ergAmount currentHeight state.cooldown_blocks }
      fee := Py.str 1_000_000 }
    message := "Withdrawal requested: ".toList ++ Py.str body.lp_amount ++ " LP shares for ".toList
      ++ nanoToErg ergAmount ++ " ERG (cooldown: ".toList ++ Py.str state.cooldown_blocks
      ++ " blocks)".toList }

/-- `R5` is only decoded if it is there. -/
def requestedErg (serialized : Text) : Except LpError Int :=
  if serialized.isEmpty then return 0 else unhandled (extractIntFromSerialized serialized)

def executeWithdrawal (boxId : Text) : Except LpError TxResponse := do
  let requestBox ← unhandled (node.boxById boxId)
  let requestHeight ← unhandled (extractIntFromSerialized (requestBox.serialized .R6))
  let cooldown ← unhandled (extractIntFromSerialized (requestBox.serialized .R7))
  let currentHeight := (← unhandled node.info).getD 0
  if currentHeight < requestHeight + cooldown then
    throw (.http 400 ("Withdrawal not yet mature. ".toList ++
      Py.str (requestHeight + cooldown - currentHeight) ++ " blocks remaining.".toList))
  let holderTreeHex := requestBox.serialized .R4
  let requestedErg ← requestedErg (requestBox.serialized .R5)
  let actualErg := min requestedErg (maxWithdraw config state)
  return {
    tx_json := {
      rawInputBoxes := [boxId]
      request := { value := Py.str actualErg, ergoTree := holderTreeHex }
      fee := Py.str 1_000_000 }
    message := "Withdrawal execution: ".toList ++ nanoToErg actualErg ++ " ERG to holder".toList }

/-- The first asset of the box. -/
def lockedLp (box : BoxAnswer) : Asset :=
  match box.assets with
  | [] => { tokenId := [], amount := Py.str 0 }
  | asset :: _ => { tokenId := asset.tokenId.getD [], amount := Py.str (asset.amount.getD 0) }

def cancelWithdrawal (boxId : Text) : Except LpError TxResponse := do
  let requestBox ← unhandled (node.boxById boxId)
  return {
    tx_json := {
      rawInputBoxes := [boxId]
      request := {
        ergoTree := requestBox.serialized .R4
        value := Py.str 1_000_000
        assets := [lockedLp requestBox] }
      fee := Py.str 1_000_000 }
    message := "Withdrawal cancellation: LP tokens returned to holder".toList }

section Codec

theorem encodeVlq_natCast (n : Nat) : encodeVlq n = Hex.encode (Vlq.encode n) := by
  cases n with
  | zero =>
      rw [Vlq.encode_of_lt (by decide)]
      rfl
  | succ n => rw [encodeVlq, if_neg (by omega), Integers.vlqGroups_natCast (Nat.succ_pos n)]

/-- A folded number of the width is not changed by the mask. -/
theorem land_mask {bits n : Nat} (h : n < 2 ^ bits) :
    Int.land (n : Int) ((2 ^ bits - 1 : Nat) : Int) = n :=
  congrArg Int.ofNat (Nat.and_two_pow_sub_one_of_lt_two_pow h)

theorem zigzag_lt {n : Int} {bound : Nat} (hlo : -(bound : Int) ≤ n) (hhi : n < bound) :
    Vlq.zigzag n < 2 * bound := by
  rw [Vlq.zigzag]
  split <;> omega

theorem serializeInt_eq {n : Int} (hlo : -2 ^ 31 ≤ n) (hhi : n < 2 ^ 31) :
    serializeInt n = Hex.encode (0x02 :: Vlq.encode (Vlq.zigzag n)) := by
  have masked : Int.land (Vlq.zigzag n) 0xFFFFFFFF = Vlq.zigzag n :=
    @land_mask 32 _ (@zigzag_lt n (2 ^ 31) hlo hhi)
  rw [serializeInt, zigzagEncodeI32, Integers.zigzagEncode_eq hlo hhi, masked, encodeVlq_natCast]
  rfl

theorem serializeLong_eq {n : Int} (hlo : -2 ^ 63 ≤ n) (hhi : n < 2 ^ 63) :
    serializeLong n = Hex.encode (0x04 :: Vlq.encode (Vlq.zigzag n)) := by
  have masked : Int.land (Vlq.zigzag n) 0xFFFFFFFFFFFFFFFF = Vlq.zigzag n :=
    @land_mask 64 _ (@zigzag_lt n (2 ^ 63) hlo hhi)
  rw [serializeLong, zigzagEncodeI64, Integers.zigzagEncode_eq hlo hhi, masked, encodeVlq_natCast]
  rfl

theorem serializeCollByte_eq (data : Bytes) :
    serializeCollByte data = Hex.encode (0x0e :: 0x01 :: (Vlq.encode data.length ++ data)) := by
  have split : Hex.encode (Vlq.encode data.length ++ data) =
      Hex.encode (Vlq.encode data.length) ++ Hex.encode data := List.flatMap_append
  rw [serializeCollByte, encodeVlq_natCast, List.append_assoc, ← split]
  rfl

/-- What the writers write under either tag is read back. -/
theorem extract_encode {tag : Byte} (htag : tag = 0x02 ∨ tag = 0x04) (n : Int) :
    extractIntFromSerialized (Hex.encode (tag :: Vlq.encode (Vlq.zigzag n))) = .ok n := by
  have long : ¬ (Hex.encode (tag :: Vlq.encode (Vlq.zigzag n))).length < 4 := by
    have groups := List.length_pos_of_ne_nil (Vlq.encode_ne_nil (Vlq.zigzag n))
    rw [Hex.length_of_decode (Hex.decode_encode _), List.length_cons]
    omega
  have accepted : ¬ (tag ≠ 0x02 ∧ tag ≠ 0x04) := by
    rintro ⟨notInt, notLong⟩
    exact htag.elim notInt notLong
  have read := Integers.readVlq_encode_zero (Vlq.zigzag n) []
  rw [List.append_nil] at read
  rw [extractIntFromSerialized, if_neg long, Py.bytesFromhex_of_decode (Hex.decode_encode _)]
  simp only [if_neg accepted, read, Integers.zigzagDecode_zigzag]
  rfl

/-- A number under any other tag is taken for zero. -/
theorem extract_encode_of_other {tag : Byte} (notInt : tag ≠ 0x02) (notLong : tag ≠ 0x04) (n : Int) :
    extractIntFromSerialized (Hex.encode (tag :: Vlq.encode (Vlq.zigzag n))) = .ok 0 := by
  rw [extractIntFromSerialized]
  split
  · rfl
  · rw [Py.bytesFromhex_of_decode (Hex.decode_encode _)]
    exact if_pos ⟨notInt, notLong⟩

end Codec

section RoundTrip

/-- The node knows the box, with the registers as they were written. -/
def Returns (node : Node) (boxId : Text) (registers : Reg → Option Text) : Prop :=
  ∃ box, node.boxById boxId = .ok box ∧
    ∀ r, box.additionalRegisters r = (registers r).map fun text => ⟨some text⟩

/-- The output is locked by these bytes. -/
def LockedBy (response : TxResponse) (tree : Bytes) : Prop :=
  Hex.decode response.tx_json.request.ergoTree = some tree

/-- A request written at `height` survives the round trip: it matures after the cooldown, and
is paid and given back to its holder. -/
structure RoundTrips (registers : Reg → Option Text) (holder : Bytes)
    (ergAmount height cooldown : Int) : Prop where
  matures : ∀ (later : PoolState) (node : Node) (boxId : Text) (now : Int),
    Returns node boxId registers → node.info = .ok (some now) →
      ((∃ e, executeWithdrawal nanoToErg config later node boxId = .error e) ↔
        now < height + cooldown)
  pays : ∀ (later : PoolState) (node : Node) (boxId : Text) (response : TxResponse),
    Returns node boxId registers →
      executeWithdrawal nanoToErg config later node boxId = .ok response →
      LockedBy response holder ∧
        response.tx_json.request.value = Py.str (min ergAmount (maxWithdraw config later))
  cancels : ∀ (node : Node) (boxId : Text) (response : TxResponse),
    Returns node boxId registers → cancelWithdrawal node boxId = .ok response →
      LockedBy response holder

variable {nanoToErg config state node}

/-- A script behind its type, element type and length is another script. -/
theorem not_lockedBy_serialized {response : TxResponse} {holder : Bytes}
    (h : response.tx_json.request.ergoTree = serializeCollByte holder) :
    ¬ LockedBy response holder := by
  rw [LockedBy, h, serializeCollByte_eq, Hex.decode_encode, Option.some.injEq]
  intro same
  have length := congrArg List.length same
  simp only [List.length_cons, List.length_append] at length
  omega

theorem serialized_of_returns {box : BoxAnswer} {registers : Reg → Option Text} {r : Reg}
    {text : Text} (h : box.additionalRegisters r = (registers r).map fun text => ⟨some text⟩)
    (hr : registers r = some text) : box.serialized r = text := by
  rw [BoxAnswer.serialized, h, hr]
  rfl

/-- What a request that is answered has written. -/
theorem registers_of_answered {body : WithdrawRequestCreate} {response : TxResponse}
    {height : Option Int} {holder : Bytes}
    (answered : requestWithdrawal nanoToErg config state node body = .ok response)
    (hheight : node.info = .ok height) (hholder : holderTree node body.address = .ok holder) :
    response.tx_json.request.additionalRegisters =
      requestRegisters holder (ergAmount config state body.lp_amount) (height.getD 0)
        state.cooldown_blocks := by
  simp only [requestWithdrawal, throw_bind, ite_throw_eq_ok_iff, bind_eq_ok_iff, unhandled,
    hheight, hholder, mapError_eq_ok_iff, Except.ok.injEq, exists_eq_left'] at answered
  obtain ⟨_, _, answered⟩ := answered
  split at answered
  · obtain rfl := pure_eq_ok_iff.mp answered
    rfl
  · exact absurd answered (throw_ne_ok _ _)

/-- The execution of a request whose numbers fit their types. -/
theorem executeWithdrawal_of_returns {boxId : Text} {holder : Bytes}
    {erg height cooldown now : Int}
    (returned : Returns node boxId (requestRegisters holder erg height cooldown))
    (hnow : node.info = .ok (some now)) (herg : -2 ^ 63 ≤ erg ∧ erg < 2 ^ 63)
    (hheight : -2 ^ 31 ≤ height ∧ height < 2 ^ 31)
    (hcooldown : -2 ^ 31 ≤ cooldown ∧ cooldown < 2 ^ 31) :
    executeWithdrawal nanoToErg config state node boxId =
      if now < height + cooldown then
        .error (.http 400 ("Withdrawal not yet mature. ".toList ++
          Py.str (height + cooldown - now) ++ " blocks remaining.".toList))
      else
        .ok {
          tx_json := {
            rawInputBoxes := [boxId]
            request := {
              value := Py.str (min erg (maxWithdraw config state))
              ergoTree := serializeCollByte holder }
            fee := Py.str 1_000_000 }
          message := "Withdrawal execution: ".toList ++
            nanoToErg (min erg (maxWithdraw config state)) ++ " ERG to holder".toList } := by
  obtain ⟨box, hbox, registers⟩ := returned
  have r4 := serialized_of_returns (registers .R4) rfl
  have r5 := serialized_of_returns (registers .R5) rfl
  have r6 := serialized_of_returns (registers .R6) rfl
  have r7 := serialized_of_returns (registers .R7) rfl
  rw [serializeLong_eq herg.1 herg.2] at r5
  rw [serializeInt_eq hheight.1 hheight.2] at r6
  rw [serializeInt_eq hcooldown.1 hcooldown.2] at r7
  have paid : requestedErg (Hex.encode (0x04 :: Vlq.encode (Vlq.zigzag erg))) = .ok erg := by
    rw [requestedErg, extract_encode (Or.inr rfl)]
    rfl
  rw [executeWithdrawal, hbox]
  dsimp only [unhandled, Except.mapError, ok_bind]
  rw [r4, r5, r6, r7, extract_encode (Or.inl rfl), extract_encode (Or.inl rfl), hnow, paid]
  dsimp only [Except.mapError, ok_bind, Option.getD_some]
  split <;> rfl

/-- Both endpoints use the register itself as the script. -/
theorem ergoTree_of_returns {boxId : Text} {holder : Bytes} {erg height cooldown : Int}
    {response : TxResponse}
    (returned : Returns node boxId (requestRegisters holder erg height cooldown))
    (answered : executeWithdrawal nanoToErg config state node boxId = .ok response ∨
      cancelWithdrawal node boxId = .ok response) :
    response.tx_json.request.ergoTree = serializeCollByte holder := by
  obtain ⟨box, hbox, registers⟩ := returned
  have r4 := serialized_of_returns (registers .R4) rfl
  rcases answered with executed | cancelled
  · simp only [executeWithdrawal, throw_bind, ite_throw_eq_ok_iff, bind_eq_ok_iff, unhandled, hbox,
      mapError_eq_ok_iff, pure_eq_ok_iff, Except.ok.injEq, exists_eq_left'] at executed
    obtain ⟨_, _, _, _, _, _, _, _, _, rfl⟩ := executed
    exact r4
  · simp only [cancelWithdrawal, bind_eq_ok_iff, unhandled, hbox, mapError_eq_ok_iff,
      pure_eq_ok_iff, Except.ok.injEq, exists_eq_left'] at cancelled
    obtain rfl := cancelled
    exact r4

/-- Any box with these registers may be cancelled. -/
theorem not_roundTrips_requestRegisters {holder : Bytes} {erg height cooldown : Int} :
    ¬ RoundTrips nanoToErg config (requestRegisters holder erg height cooldown) holder erg height
      cooldown := by
  intro h
  let box : BoxAnswer :=
    ⟨fun r => (requestRegisters holder erg height cooldown r).map fun text => ⟨some text⟩, []⟩
  let knows : Node := ⟨.ok none, fun _ => .ok none, fun _ => .ok box⟩
  have cancelled := h.cancels knows [] _ ⟨box, rfl, fun _ => rfl⟩ rfl
  exact not_lockedBy_serialized rfl cancelled

/-- No request that is answered survives the round trip: whatever is built from its box is
locked by another script. -/
theorem withdrawals_never_round_trip {body : WithdrawRequestCreate} {response : TxResponse}
    {height : Option Int} {holder : Bytes}
    (answered : requestWithdrawal nanoToErg config state node body = .ok response)
    (hheight : node.info = .ok height) (hholder : holderTree node body.address = .ok holder) :
    (∀ (later : PoolState) (node : Node) (boxId : Text) (built : TxResponse),
      Returns node boxId response.tx_json.request.additionalRegisters →
      (executeWithdrawal nanoToErg config later node boxId = .ok built ∨
        cancelWithdrawal node boxId = .ok built) → ¬ LockedBy built holder) ∧
    ¬ RoundTrips nanoToErg config response.tx_json.request.additionalRegisters holder
      (ergAmount config state body.lp_amount) (height.getD 0) state.cooldown_blocks := by
  rw [registers_of_answered answered hheight hholder]
  refine ⟨?_, not_roundTrips_requestRegisters⟩
  intro later node boxId built returned answered
  exact not_lockedBy_serialized (ergoTree_of_returns returned answered)

/-- A pay-to-public-key script. -/
def exampleHolder : Bytes := [0x00, 0x08, 0xcd, 0x02] ++ List.replicate 32 0x11

/-- A pool of ten ERG and a million shares. -/
def exampleState : PoolState := ⟨10_000_000_000, 1_000_000, 10_000_000_000, 60, ['a']⟩

def exampleConfig : PoolConfig := { withdraw_request_tree_hex := some "10".toList }

def exampleNode : Node :=
  ⟨.ok (some 1000), fun _ => .ok (some (Hex.encode exampleHolder)), fun _ => .error "404"⟩

def exampleBody : WithdrawRequestCreate := ⟨1000, [], by decide⟩

theorem exampleHolder_read : holderTree exampleNode exampleBody.address = .ok exampleHolder := by
  have spelled := Py.bytesFromhex_of_decode (Hex.decode_encode exampleHolder)
  rw [holderTree]
  dsimp only [exampleNode, unhandled, Except.mapError, ok_bind, Option.getD_some]
  rw [spelled]
  rfl

theorem exampleBody_answered : ∃ response,
    requestWithdrawal Py.str exampleConfig exampleState exampleNode exampleBody = .ok response := by
  rw [requestWithdrawal, exampleHolder_read]
  exact ⟨_, rfl⟩

theorem withdrawals_never_round_trip_example : ∃ response,
    requestWithdrawal Py.str exampleConfig exampleState exampleNode exampleBody = .ok response ∧
      ¬ RoundTrips Py.str exampleConfig response.tx_json.request.additionalRegisters exampleHolder
        (ergAmount exampleConfig exampleState 1000) 1000 60 := by
  obtain ⟨response, answered⟩ := exampleBody_answered
  exact ⟨response, answered,
    (withdrawals_never_round_trip answered rfl exampleHolder_read).2⟩

/-- The cancellation of the example request returns the shares to a script that starts with
the type of a collection. -/
theorem cancellation_misses_holder :
    ¬ ∀ (body : WithdrawRequestCreate) (response : TxResponse) (height : Int) (holder : Bytes),
      requestWithdrawal Py.str exampleConfig exampleState exampleNode body = .ok response →
      exampleNode.info = .ok (some height) → holderTree exampleNode body.address = .ok holder →
      RoundTrips Py.str exampleConfig response.tx_json.request.additionalRegisters holder
        (ergAmount exampleConfig exampleState body.lp_amount) height
        exampleState.cooldown_blocks := by
  intro h
  obtain ⟨response, answered⟩ := exampleBody_answered
  have roundTrips := h exampleBody response 1000 exampleHolder answered rfl exampleHolder_read
  rw [registers_of_answered answered rfl exampleHolder_read] at roundTrips
  exact not_roundTrips_requestRegisters roundTrips

end RoundTrip

end DuckPools.Backend.LpPool
