import DuckPools.ErgoScript.Box
import DuckPools.Sdk.PoolManager
import Mathlib.Algebra.BigOperators.Group.List.Basic
import Mathlib.Algebra.Order.BigOperators.Group.List

/-!
# Boxes that hold the pool token: `sdk/src/pool/PoolManager.ts`

The node lists all boxes with the token: the pool box, withdrawal requests and wallets. The
balance of an address is meant to count the boxes of the address, the withdrawal requests
to be the boxes of the request contract. The first test accepts every box that has a script,
the second every box that has a register R6, as the pool box does.
-/

namespace DuckPools.Sdk.PoolManager

open ErgoScript (Reg)

structure NodeAsset where
  tokenId : Text
  amount : Nat

/-- A box as the node describes it. -/
structure NodeBox where
  boxId : Text
  address : Option Text
  ergoTree : Option Text
  assets : Option (List NodeAsset)
  additionalRegisters : Reg → Option Register

structure WithdrawalRequest where
  boxId : Text
  holderAddress : Text
  lpAmount : Nat
  requestedErg : Int
  requestHeight : Int
  cooldownDelta : Int
  executableHeight : Int
  isMature : Bool

/-- `POOL_CONFIG.COOLDOWN_BLOCKS` -/
def COOLDOWN_BLOCKS : Int := 60

variable (lpTokenId : Text)

/-- `box.assets?.find((a) => a.tokenId === this.lpTokenId)` -/
def lpToken (box : NodeBox) : Option NodeAsset :=
  box.assets.bind fun assets => assets.find? fun a => a.tokenId == lpTokenId

/-- `lpToken ? BigInt(lpToken.amount) : 0n` -/
def lpAmount (box : NodeBox) : Nat := ((lpToken lpTokenId box).map NodeAsset.amount).getD 0

/-- `box.address === address || box.ergoTree` -/
def belongsTo (address : Text) (box : NodeBox) : Bool :=
  box.address == some address || box.ergoTree.any (!·.isEmpty)

/-- The node's answer is `boxes`, or nothing. -/
def getLpBalance (boxes : Option (List NodeBox)) (address : Text) : Nat :=
  match boxes with
  | none => 0
  | some boxes =>
      boxes.foldl
        (fun totalBalance box =>
          if belongsTo address box then
            match lpToken lpTokenId box with
            | some lpToken => totalBalance + lpToken.amount
            | none => totalBalance
          else totalBalance) 0

/-- The entry of a box with a register R6. -/
def withdrawalRequest (currentHeight : Int) (box : NodeBox) (r6 : Register) : WithdrawalRequest :=
  let requestHeight := deserializeInt r6
  let cooldownDelta := ((box.additionalRegisters .R7).map deserializeInt).getD COOLDOWN_BLOCKS
  { boxId := box.boxId
    holderAddress := []
    lpAmount := lpAmount lpTokenId box
    requestedErg := ((box.additionalRegisters .R5).map deserializeLong).getD 0
    requestHeight
    cooldownDelta
    executableHeight := requestHeight + cooldownDelta
    isMature := currentHeight ≥ requestHeight + cooldownDelta }

def getWithdrawalRequests (boxes : Option (List NodeBox)) (currentHeight : Int) :
    List WithdrawalRequest :=
  match boxes with
  | none => []
  | some boxes =>
      boxes.filterMap fun box =>
        (box.additionalRegisters .R6).map (withdrawalRequest lpTokenId currentHeight box)

def getMaturedWithdrawals (boxes : Option (List NodeBox)) (currentHeight : Int) :
    List WithdrawalRequest :=
  (getWithdrawalRequests lpTokenId boxes currentHeight).filter fun r => r.isMature

section Balances

/-- All pool tokens of a box. -/
def lpTotal (box : NodeBox) : Nat :=
  (((box.assets.getD []).filter fun a => a.tokenId == lpTokenId).map NodeAsset.amount).sum

/-- What the boxes of an address hold. -/
def held (boxes : List NodeBox) (address : Text) : Nat :=
  ((boxes.filter fun box => box.address == some address).map (lpTotal lpTokenId)).sum

/-- What is counted in boxes of somebody else: all of them that have a script. -/
def foreignCounted (boxes : List NodeBox) (address : Text) : Nat :=
  ((boxes.filter fun box => box.address != some address && box.ergoTree.any (!·.isEmpty)).map
    (lpAmount lpTokenId)).sum

/-- What is not counted in the boxes of the address: further entries of the token. -/
def ownMissed (boxes : List NodeBox) (address : Text) : Nat :=
  ((boxes.filter fun box => box.address == some address).map
    fun box => lpTotal lpTokenId box - lpAmount lpTokenId box).sum

variable {lpTokenId}

theorem lpAmount_le_lpTotal (box : NodeBox) : lpAmount lpTokenId box ≤ lpTotal lpTokenId box := by
  rw [lpAmount, lpToken, lpTotal]
  cases box.assets with
  | none => exact Nat.zero_le _
  | some assets =>
      rw [Option.bind_some, Option.getD_some]
      cases found : assets.find? fun a => a.tokenId == lpTokenId with
      | none => exact Nat.zero_le _
      | some asset =>
          have listed : asset ∈ assets.filter fun a => a.tokenId == lpTokenId :=
            List.mem_filter.mpr ⟨List.mem_of_find?_eq_some found,
              @List.find?_some _ (fun a : NodeAsset => a.tokenId == lpTokenId) _ _ found⟩
          exact List.single_le_sum (fun _ _ => Nat.zero_le _) _
            (List.mem_map_of_mem (f := NodeAsset.amount) listed)

theorem getLpBalance_eq_sum (boxes : List NodeBox) (address : Text) :
    getLpBalance lpTokenId (some boxes) address =
      ((boxes.filter (belongsTo address)).map (lpAmount lpTokenId)).sum := by
  have loop (start : Nat) : boxes.foldl
      (fun totalBalance box =>
        if belongsTo address box then
          match lpToken lpTokenId box with
          | some lpToken => totalBalance + lpToken.amount
          | none => totalBalance
        else totalBalance) start =
      start + ((boxes.filter (belongsTo address)).map (lpAmount lpTokenId)).sum := by
    induction boxes generalizing start with
    | nil => rfl
    | cons box boxes ih =>
        rw [List.foldl_cons, List.filter_cons, ih]
        by_cases belongs : belongsTo address box
        · rw [if_pos belongs, if_pos belongs, List.map_cons, List.sum_cons, ← Nat.add_assoc,
            lpAmount]
          cases lpToken lpTokenId box <;> rfl
        · rw [if_neg belongs, if_neg belongs]
  rw [getLpBalance, loop, Nat.zero_add]

/-- The balance is what the address holds, with what it misses there and finds elsewhere. -/
theorem getLpBalance_add_ownMissed (boxes : List NodeBox) (address : Text) :
    getLpBalance lpTokenId (some boxes) address + ownMissed lpTokenId boxes address =
      held lpTokenId boxes address + foreignCounted lpTokenId boxes address := by
  rw [getLpBalance_eq_sum]
  induction boxes with
  | nil => rfl
  | cons box boxes ih =>
      rw [ownMissed, held, foreignCounted] at ih ⊢
      simp only [List.filter_cons]
      by_cases own : box.address == some address
      · have belongs : belongsTo address box = true := by rw [belongsTo, own]; rfl
        have notForeign :
            (box.address != some address && box.ergoTree.any (!·.isEmpty)) = false := by
          rw [bne, own]
          rfl
        rw [if_pos belongs, if_pos own, notForeign, if_neg Bool.false_ne_true]
        simp only [List.map_cons, List.sum_cons]
        have le := @lpAmount_le_lpTotal lpTokenId box
        omega
      · have foreign : (box.address != some address && box.ergoTree.any (!·.isEmpty)) =
            belongsTo address box := by
          rw [belongsTo, bne, Bool.eq_false_of_not_eq_true own]
          rfl
        rw [if_neg own, foreign]
        split
        · simp only [List.map_cons, List.sum_cons]
          omega
        · exact ih

/-- An amount has one owner at most. -/
theorem sum_owned_le {addresses : List Text} (distinct : addresses.Nodup) (owner : Option Text)
    (amount : Nat) :
    (addresses.map fun address => if owner = some address then amount else 0).sum ≤ amount := by
  induction addresses with
  | nil => exact Nat.zero_le _
  | cons address addresses ih =>
      obtain ⟨fresh, rest⟩ := List.nodup_cons.mp distinct
      rw [List.map_cons, List.sum_cons]
      by_cases own : owner = some address
      · have others :
            (addresses.map fun other => if owner = some other then amount else 0).sum = 0 := by
          apply List.sum_eq_zero
          intro share member
          obtain ⟨other, inside, rfl⟩ := List.mem_map.mp member
          apply if_neg
          intro same
          rw [own, Option.some.injEq] at same
          exact fresh (same ▸ inside)
        rw [if_pos own, others, Nat.add_zero]
      · rw [if_neg own, Nat.zero_add]
        exact ih rest

/-- Several addresses never hold more than all boxes together. -/
theorem sum_held_le (boxes : List NodeBox) {addresses : List Text} (distinct : addresses.Nodup) :
    (addresses.map (held lpTokenId boxes)).sum ≤ (boxes.map (lpTotal lpTokenId)).sum := by
  induction boxes with
  | nil =>
      have zero : (addresses.map (held lpTokenId [])).sum = 0 := by
        apply List.sum_eq_zero
        intro amount member
        obtain ⟨_, _, rfl⟩ := List.mem_map.mp member
        rfl
      rw [zero]
      exact Nat.zero_le _
  | cons box boxes ih =>
      have split : addresses.map (held lpTokenId (box :: boxes)) =
          addresses.map fun address =>
            (if box.address = some address then lpTotal lpTokenId box else 0) +
              held lpTokenId boxes address := by
        apply List.map_congr_left
        intro address _
        rw [held, List.filter_cons, held]
        by_cases own : box.address = some address
        · rw [if_pos (beq_iff_eq.mpr own), if_pos own, List.map_cons, List.sum_cons]
        · rw [if_neg (fun same => own (beq_iff_eq.mp same)), if_neg own, Nat.zero_add]
      rw [split, List.sum_map_add, List.map_cons, List.sum_cons]
      exact Nat.add_le_add (sum_owned_le distinct _ _) ih

end Balances

section Kinds

/-- An `Int` in a register, in the SDK's own encoding. -/
def HoldsInt (register : Option Register) (value : Int32) : Prop :=
  ∃ r, register = some r ∧
    r.serialized = some (Hex.encode (0x02 :: Vlq.encode (Vlq.zigzag value.toInt)))

/-- A `Long` in a register. -/
def HoldsLong (register : Option Register) (value : Int64) : Prop :=
  ∃ r, register = some r ∧
    r.serialized = some (Hex.encode (0x04 :: Vlq.encode (Vlq.zigzag value.toInt)))

/-- The pool box: `BANKROLL_POOL_SCRIPT` documents the registers R4 to R7. What is in them
makes no difference. -/
structure BankrollBox extends NodeBox where
  r4 : (additionalRegisters .R4).isSome
  r5 : (additionalRegisters .R5).isSome
  r6 : (additionalRegisters .R6).isSome
  r7 : (additionalRegisters .R7).isSome

/-- A withdrawal request, with the registers `WITHDRAW_REQUEST_SCRIPT` documents. -/
structure WithdrawRequestBox extends NodeBox where
  requestedErg : Int64
  requestHeight : Int32
  cooldownDelta : Int32
  r4 : (additionalRegisters .R4).isSome
  r5 : HoldsLong (additionalRegisters .R5) requestedErg
  r6 : HoldsInt (additionalRegisters .R6) requestHeight
  r7 : HoldsInt (additionalRegisters .R7) cooldownDelta

/-- A wallet has any registers. -/
inductive LpBox
  | bankroll (box : BankrollBox)
  | withdrawRequest (box : WithdrawRequestBox)
  | wallet (box : NodeBox)

def LpBox.node : LpBox → NodeBox
  | bankroll box => box.toNodeBox
  | withdrawRequest box => box.toNodeBox
  | wallet box => box

def LpBox.request : LpBox → Option WithdrawRequestBox
  | withdrawRequest box => some box
  | _ => none

def LpBox.hasR6 (box : LpBox) : Bool := (box.node.additionalRegisters .R6).isSome

/-- The entry says of the request what its registers say. -/
structure Describes (currentHeight : Int) (entry : WithdrawalRequest) (box : WithdrawRequestBox) :
    Prop where
  boxId : entry.boxId = box.boxId
  lpAmount : entry.lpAmount = lpAmount lpTokenId box.toNodeBox
  requestedErg : entry.requestedErg = box.requestedErg.toInt
  executableHeight :
    entry.executableHeight = box.requestHeight.toInt + box.cooldownDelta.toInt
  isMature : entry.isMature =
    decide (currentHeight ≥ box.requestHeight.toInt + box.cooldownDelta.toInt)

/-- One entry for each request, in order, and none for another box. -/
def ListsRequests (boxes : List LpBox) (currentHeight : Int) : Prop :=
  List.Forall₂ (Describes lpTokenId currentHeight)
    (getWithdrawalRequests lpTokenId (some (boxes.map LpBox.node)) currentHeight)
    (boxes.filterMap LpBox.request)

theorem HoldsInt.exists_register {register : Option Register} {value : Int32}
    (h : HoldsInt register value) :
    ∃ r, register = some r ∧ deserializeInt r = value.toInt := by
  obtain ⟨r, here, text⟩ := h
  have low : -2 ^ 31 ≤ value.toInt := value.le_toInt
  have high : value.toInt < 2 ^ 31 := value.toInt_lt
  exact ⟨r, here, by rw [deserializeInt_of_serialized (Js.zigzag_lt low high) text,
    Vlq.unzigzag_zigzag]⟩

theorem HoldsLong.exists_register {register : Option Register} {value : Int64}
    (h : HoldsLong register value) :
    ∃ r, register = some r ∧ deserializeLong r = value.toInt := by
  obtain ⟨r, here, text⟩ := h
  exact ⟨r, here, by rw [deserializeLong_of_serialized text, Vlq.unzigzag_zigzag]⟩

variable {lpTokenId} {currentHeight : Int}

/-- The registers of a request are read as they were written. -/
theorem describes_withdrawalRequest (box : WithdrawRequestBox) : ∃ r6,
    box.additionalRegisters .R6 = some r6 ∧
      Describes lpTokenId currentHeight
        (withdrawalRequest lpTokenId currentHeight box.toNodeBox r6) box := by
  obtain ⟨r5, here5, erg⟩ := box.r5.exists_register
  obtain ⟨r6, here6, height⟩ := box.r6.exists_register
  obtain ⟨r7, here7, cooldown⟩ := box.r7.exists_register
  refine ⟨r6, here6, rfl, rfl, ?_, ?_, ?_⟩
  · rw [withdrawalRequest, here5]
    exact erg
  · rw [withdrawalRequest, here7]
    exact congrArg₂ (· + ·) height cooldown
  · rw [withdrawalRequest, here7, height]
    simp only [Option.map_some, Option.getD_some, cooldown]

theorem hasR6_of_request {box : LpBox} {request : WithdrawRequestBox}
    (h : box.request = some request) : box.hasR6 = true := by
  cases box with
  | bankroll box => cases h
  | withdrawRequest box =>
      obtain ⟨r6, here, -⟩ := @describes_withdrawalRequest [] 0 box
      exact Option.isSome_of_eq_some here
  | wallet box => cases h

theorem length_getWithdrawalRequests (boxes : List LpBox) :
    (getWithdrawalRequests lpTokenId (some (boxes.map LpBox.node)) currentHeight).length =
      boxes.countP LpBox.hasR6 := by
  rw [getWithdrawalRequests, List.length_filterMap_eq_countP, List.countP_map]
  apply List.countP_congr
  intro box _
  rw [Function.comp_apply, Option.isSome_map]
  exact Iff.rfl

/-- Where the weaker test passes no more often, it passes nowhere else. -/
theorem forall_of_countP_eq {α : Type} {p q : α → Bool} {xs : List α}
    (weaker : ∀ x ∈ xs, p x = true → q x = true) (same : xs.countP q = xs.countP p) :
    ∀ x ∈ xs, q x = true → p x = true := by
  induction xs with
  | nil => exact fun _ member => absurd member List.not_mem_nil
  | cons x xs ih =>
      have fewer : xs.countP p ≤ xs.countP q :=
        List.countP_mono_left fun y member => weaker y (List.mem_cons_of_mem x member)
      rw [List.countP_cons, List.countP_cons] at same
      have here : q x = true → p x = true := by
        intro hq
        by_contra hp
        rw [if_pos hq, if_neg hp] at same
        omega
      have step : (if q x = true then 1 else 0) = if p x = true then 1 else 0 := by
        by_cases hp : p x = true
        · rw [if_pos hp, if_pos (weaker x List.mem_cons_self hp)]
        · rw [if_neg hp, if_neg fun hq => hp (here hq)]
      intro y member
      cases List.mem_cons.mp member with
      | inl first =>
          rw [first]
          exact here
      | inr later =>
          exact ih (fun z inside => weaker z (List.mem_cons_of_mem x inside)) (by omega) y later

/-- A box without a register R6 is skipped, a request gives its entry. -/
theorem listsRequests_of_separated {boxes : List LpBox}
    (separated : ∀ box ∈ boxes, box.hasR6 = true → box.request.isSome = true) :
    ListsRequests lpTokenId boxes currentHeight := by
  induction boxes with
  | nil => exact List.Forall₂.nil
  | cons box boxes ih =>
      have rest := ih fun other member => separated other (List.mem_cons_of_mem _ member)
      have here := separated box List.mem_cons_self
      cases h : box.request with
      | some request =>
          cases box with
          | bankroll box => cases h
          | withdrawRequest own =>
              obtain ⟨r6, found, describes⟩ :=
                @describes_withdrawalRequest lpTokenId currentHeight own
              have entry : getWithdrawalRequests lpTokenId
                  (some ((LpBox.withdrawRequest own :: boxes).map LpBox.node)) currentHeight =
                  withdrawalRequest lpTokenId currentHeight own.toNodeBox r6 ::
                    getWithdrawalRequests lpTokenId (some (boxes.map LpBox.node))
                      currentHeight := by
                rw [getWithdrawalRequests, List.map_cons, List.filterMap_cons]
                simp only [LpBox.node, found]
                rfl
              rw [ListsRequests, entry]
              exact List.Forall₂.cons describes rest
          | wallet box => cases h
      | none =>
          have noR6 : box.node.additionalRegisters .R6 = none := by
            apply Option.not_isSome_iff_eq_none.mp
            intro r6
            have request := here r6
            rw [h] at request
            cases request
          have skipped : getWithdrawalRequests lpTokenId (some ((box :: boxes).map LpBox.node))
              currentHeight =
              getWithdrawalRequests lpTokenId (some (boxes.map LpBox.node)) currentHeight := by
            rw [getWithdrawalRequests, List.map_cons, List.filterMap_cons, noR6]
            rfl
          rw [ListsRequests, skipped, List.filterMap_cons_none h]
          exact rest

/-- The requests are listed exactly if no other box has a register R6. -/
theorem listsRequests_iff (boxes : List LpBox) :
    ListsRequests lpTokenId boxes currentHeight ↔
      ∀ box ∈ boxes, box.hasR6 = true → box.request.isSome = true := by
  constructor
  · intro lists
    have lengths := lists.length_eq
    rw [length_getWithdrawalRequests, List.length_filterMap_eq_countP] at lengths
    apply forall_of_countP_eq _ lengths
    intro box _ isRequest
    obtain ⟨request, h⟩ := Option.isSome_iff_exists.mp isRequest
    exact hasR6_of_request h
  · exact listsRequests_of_separated

end Kinds

/-- The pool box has a register R6: among the boxes that hold the token, it is always taken
for a request. -/
theorem withdrawal_requests_never_listed {boxes : List LpBox} {pool : BankrollBox}
    (listed : .bankroll pool ∈ boxes) (lpTokenId : Text) (currentHeight : Int) :
    ¬ ListsRequests lpTokenId boxes currentHeight := by
  intro lists
  have request := (listsRequests_iff boxes).mp lists (.bankroll pool) listed pool.r6
  cases request

/-- A pool with a cooldown of 60 blocks and a house edge of three percent. -/
def examplePool : BankrollBox where
  boxId := ['p']
  address := none
  ergoTree := some ['1', '0']
  assets := some [⟨['n'], 1⟩, ⟨['l'], 1000⟩]
  additionalRegisters
    | .R4 => some ⟨some "0e0102".toList, none⟩
    | .R5 => some ⟨some "04c801".toList, none⟩
    | .R6 => some ⟨some "0278".toList, none⟩
    | .R7 => some ⟨some "02d804".toList, none⟩
    | _ => none
  r4 := rfl
  r5 := rfl
  r6 := rfl
  r7 := rfl

theorem withdrawal_requests_never_listed_example :
    ¬ ListsRequests ['l'] [.bankroll examplePool] 0 :=
  withdrawal_requests_never_listed List.mem_cons_self ['l'] 0

/-- The whole supply of the pool appears as a withdrawal that is due. -/
theorem pool_box_listed_as_request :
    ¬ ∀ (lpTokenId : Text) (boxes : List LpBox) (currentHeight : Int),
      ListsRequests lpTokenId boxes currentHeight := by
  intro h
  have lengths := (h ['l'] [.bankroll examplePool] 1000).length_eq
  rw [length_getWithdrawalRequests] at lengths
  cases lengths

end DuckPools.Sdk.PoolManager
