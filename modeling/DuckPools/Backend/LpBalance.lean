import DuckPools.Backend.BetStore
import DuckPools.Backend.LpWithdrawals
import DuckPools.Language.Doubles
import DuckPools.Sdk.LpBoxes

/-!
# The balance of a holder: `get_lp_balance` of `backend/lp_routes.py`

The endpoint checks the address, asks the node for all boxes with the pool token and adds up
what they hold. The address is not used again, so every holder is shown what all of them hold.
-/

namespace DuckPools.Backend.LpPool

open Sdk.PoolManager (NodeBox NodeAsset held foreignCounted ownMissed lpTotal)
open Exceptions
open PoolManager (calculateWithdrawErg)

structure LPBalanceResponse where
  address : Text
  lp_balance : Text
  erg_value : Text
  share_percent : ℚ

/-- `for asset in box.get("assets", [])` -/
def addAssets (lpTokenId : Text) (total : Nat) (box : NodeBox) : Nat :=
  (box.assets.getD []).foldl
    (fun total asset => if asset.tokenId == lpTokenId then total + asset.amount else total) total

/-- The node answers with the unspent boxes of a token. -/
def getLpBalance (nanoToErg : Int → Text) (state : PoolState)
    (unspentByTokenId : Text → Except String (List NodeBox)) (address : Text) :
    Except LpError LPBalanceResponse := do
  let address ← (validateErgoAddress address).mapError (LpError.http 400)
  if state.lp_token_id.isEmpty then
    throw (.http 404 "LP token ID not available".toList)
  let boxes ← unhandled (unspentByTokenId state.lp_token_id)
  let totalBalance := boxes.foldl (addAssets state.lp_token_id) 0
  let ergValue :=
    if state.total_supply > 0 then
      calculateWithdrawErg totalBalance state.total_value state.total_supply
    else totalBalance
  let sharePct :=
    if state.total_supply > 0 then Doubles.div (totalBalance * 10000) state.total_supply else 0
  return {
    address
    lp_balance := Py.str totalBalance
    erg_value := nanoToErg ergValue
    share_percent := Doubles.roundDigits (Doubles.toDouble (sharePct / 100)) 4 }

section Totals

variable {lpTokenId : Text}

theorem addAssets_eq (total : Nat) (box : NodeBox) :
    addAssets lpTokenId total box = total + lpTotal lpTokenId box := by
  rw [addAssets, lpTotal]
  generalize box.assets.getD [] = assets
  induction assets generalizing total with
  | nil => rfl
  | cons asset assets ih =>
      rw [List.foldl_cons, ih, List.filter_cons]
      split
      · rw [List.map_cons, List.sum_cons, Nat.add_assoc]
      · rfl

theorem foldl_addAssets (boxes : List NodeBox) :
    boxes.foldl (addAssets lpTokenId) 0 = (boxes.map (lpTotal lpTokenId)).sum := by
  have loop (total : Nat) : boxes.foldl (addAssets lpTokenId) total =
      total + (boxes.map (lpTotal lpTokenId)).sum := by
    induction boxes generalizing total with
    | nil => rfl
    | cons box boxes ih =>
        rw [List.foldl_cons, ih, addAssets_eq, List.map_cons, List.sum_cons, Nat.add_assoc]
  rw [loop, Nat.zero_add]

/-- All tokens are held by the address exactly if no other box has any. -/
theorem sum_eq_held_iff (boxes : List NodeBox) (address : Text) :
    (boxes.map (lpTotal lpTokenId)).sum = held lpTokenId boxes address ↔
      ∀ box ∈ boxes, box.address ≠ some address → lpTotal lpTokenId box = 0 := by
  induction boxes with
  | nil => exact ⟨fun _ _ member => absurd member List.not_mem_nil, fun _ => rfl⟩
  | cons box boxes ih =>
      have bound : held lpTokenId boxes address ≤ (boxes.map (lpTotal lpTokenId)).sum :=
        (List.filter_sublist.map (lpTotal lpTokenId)).sum_le_sum fun _ _ => Nat.zero_le _
      rw [List.forall_mem_cons, held, List.filter_cons, List.map_cons, List.sum_cons]
      by_cases own : box.address = some address
      · rw [if_pos (beq_iff_eq.mpr own), List.map_cons, List.sum_cons, Nat.add_left_cancel_iff]
        exact ⟨fun h => ⟨fun other => absurd own other, ih.mp h⟩, fun h => ih.mpr h.2⟩
      · rw [if_neg fun same => own (beq_iff_eq.mp same), ← held]
        constructor
        · intro h
          exact ⟨fun _ => by omega, ih.mp (by omega)⟩
        · rintro ⟨zero, rest⟩
          rw [zero own, Nat.zero_add, ih.mpr rest]

end Totals

variable {nanoToErg : Int → Text} {state : PoolState}
  {unspentByTokenId : Text → Except String (List NodeBox)} {address : Text} {boxes : List NodeBox}

theorem getLpBalance_eq_ok (valid : validateErgoAddress address = .ok address)
    (token : state.lp_token_id ≠ [])
    (answered : unspentByTokenId state.lp_token_id = .ok boxes) :
    ∃ response, getLpBalance nanoToErg state unspentByTokenId address = .ok response ∧
      response.lp_balance = Py.str ((boxes.map (lpTotal state.lp_token_id)).sum : Nat) := by
  have deployed : state.lp_token_id.isEmpty = false := by
    rw [List.isEmpty_eq_false_iff]
    exact token
  rw [getLpBalance, valid, answered, ← foldl_addAssets]
  simp only [deployed]
  exact ⟨_, rfl, rfl⟩

/-- When the SDK and the backend show a holder what the holder's boxes hold. -/
theorem lp_balance_is_held_iff (valid : validateErgoAddress address = .ok address)
    (token : state.lp_token_id ≠ [])
    (answered : unspentByTokenId state.lp_token_id = .ok boxes) :
    (Sdk.PoolManager.getLpBalance state.lp_token_id (some boxes) address =
        held state.lp_token_id boxes address ↔
      foreignCounted state.lp_token_id boxes address =
        ownMissed state.lp_token_id boxes address) ∧
    (∃ response, getLpBalance nanoToErg state unspentByTokenId address = .ok response ∧
      (response.lp_balance = Py.str (held state.lp_token_id boxes address : Nat) ↔
        ∀ box ∈ boxes, box.address ≠ some address → lpTotal state.lp_token_id box = 0)) ∧
    ∀ holders : List Text, holders.Nodup →
      (∀ holder ∈ holders, Sdk.PoolManager.getLpBalance state.lp_token_id (some boxes) holder =
        held state.lp_token_id boxes holder) →
      (holders.map (Sdk.PoolManager.getLpBalance state.lp_token_id (some boxes))).sum ≤
        (boxes.map (lpTotal state.lp_token_id)).sum := by
  refine ⟨?_, ?_, ?_⟩
  · have total := @Sdk.PoolManager.getLpBalance_add_ownMissed state.lp_token_id boxes address
    omega
  · obtain ⟨response, ok, balance⟩ :=
      @getLpBalance_eq_ok nanoToErg _ _ _ _ valid token answered
    refine ⟨response, ok, ?_⟩
    rw [balance, ← sum_eq_held_iff]
    constructor
    · intro same
      have read := congrArg (Py.int 10) same
      rw [Py.int_str, Py.int_str, Option.some.injEq, Int.natCast_inj] at read
      exact read
    · intro same
      rw [same]
  · intro holders distinct shown
    rw [List.map_congr_left shown]
    exact Sdk.PoolManager.sum_held_le boxes distinct

/-- The box of a holder, and one of somebody else. -/
def twoHolders : List NodeBox :=
  [⟨['1'], some sampleRequest.address, some ['1', '0'], some [⟨['a'], 5⟩], fun _ => none⟩,
    ⟨['2'], some ['9'], some ['1', '0'], some [⟨['a'], 7⟩], fun _ => none⟩]

theorem lp_balance_is_held_iff_example :
    (Sdk.PoolManager.getLpBalance ['a'] (some twoHolders) sampleRequest.address =
        held ['a'] twoHolders sampleRequest.address ↔
      foreignCounted ['a'] twoHolders sampleRequest.address =
        ownMissed ['a'] twoHolders sampleRequest.address) ∧
    (∃ response, getLpBalance (fun _ => []) exampleState (fun _ => .ok twoHolders)
        sampleRequest.address = .ok response ∧
      (response.lp_balance = Py.str (held ['a'] twoHolders sampleRequest.address : Nat) ↔
        ∀ box ∈ twoHolders, box.address ≠ some sampleRequest.address →
          lpTotal ['a'] box = 0)) ∧
    ∀ holders : List Text, holders.Nodup →
      (∀ holder ∈ holders, Sdk.PoolManager.getLpBalance ['a'] (some twoHolders) holder =
        held ['a'] twoHolders holder) →
      (holders.map (Sdk.PoolManager.getLpBalance ['a'] (some twoHolders))).sum ≤
        (twoHolders.map (lpTotal ['a'])).sum :=
  @lp_balance_is_held_iff (fun _ => []) exampleState (fun _ => .ok twoHolders)
    sampleRequest.address twoHolders
    (PlaceBetRequest.validate_eq_ok sampleRequest_validate).1 (by decide) rfl

/-- A holder of 5 tokens is shown 12. -/
theorem other_holders_counted :
    ¬ ∀ (lpTokenId : Text) (boxes : List NodeBox) (address : Text),
      Sdk.PoolManager.getLpBalance lpTokenId (some boxes) address =
        held lpTokenId boxes address := by
  intro h
  exact absurd (h ['a'] twoHolders sampleRequest.address) (by decide)

end DuckPools.Backend.LpPool
