import DuckPools.Backend.LpWithdrawals
import DuckPools.ErgoScript.Constant
import DuckPools.Pool.RequestRuns

/-!
# Withdraw requests of the backend in runs of the ledger

The backend writes the requested ERG under the type code of an `Int`, where the guard reads a
`Long`. A box with this register is no request to the guard: its LP tokens stay in it, after the
cooldown as before.
-/

namespace DuckPools.WithdrawRequest

open ErgoScript Exceptions
open Backend.LpPool hiding Request

variable {Point : Type} {E : Curve Point} {nanoToErg : Int → Text} {config : PoolConfig}
  {state : PoolState} {node : Node} {body : WithdrawRequestCreate} {response : TxResponse}

/-- The box has the script of the built output, and its register for the requested ERG. -/
structure Carries (E : Curve Point) (response : TxResponse) (b : Box Point) : Prop where
  script : Hex.decode response.tx_json.request.ergoTree = some b.propositionBytes
  requestedErg : b.hexRegisters E .R5 = response.tx_json.request.additionalRegisters .R5

/-- What is built has the configured script, and registers as they are always written. -/
theorem request_of_answered
    (answered : requestWithdrawal nanoToErg config state node body = .ok response) :
    config.withdraw_request_tree_hex = some response.tx_json.request.ergoTree ∧
      response.tx_json.request.additionalRegisters .R5 =
        some (serializeLong (ergAmount config state body.lp_amount)) := by
  simp only [requestWithdrawal, throw_bind, ite_throw_eq_ok_iff, bind_eq_ok_iff] at answered
  obtain ⟨_, _, _, _, _, _, answered⟩ := answered
  split at answered
  · next configured =>
    obtain rfl := pure_eq_ok_iff.mp answered
    exact ⟨(Option.filter_eq_some_iff.mp configured).1, rfl⟩
  · exact absurd answered (throw_ne_ok _ _)

/-- Under this type code the ledger knows numbers of 32 bits. -/
theorem int_of_hex_serializeLong {v : Value Point} {n : Int} (h : v.hex E = serializeLong n) :
    ∃ m, v = .int m := by
  have code : Hex.encode ((v.serialize E).take 1) = "04".toList := by
    rw [← Hex.take_encode]
    exact congrArg (List.take 2) h
  cases v with
  | int m => exact ⟨m, rfl⟩
  | collByte bytes => exact absurd (show Hex.encode [0x0e] = "04".toList from code) (by decide)
  | long m => exact absurd (show Hex.encode [0x05] = "04".toList from code) (by decide)
  | groupElement p => exact absurd (show Hex.encode [0x07] = "04".toList from code) (by decide)

theorem readVals_of_carries {b : Box Point}
    (answered : requestWithdrawal nanoToErg config state node body = .ok response)
    (carries : Carries E response b) : readVals b = none := by
  have written := carries.requestedErg.trans (request_of_answered answered).2
  obtain ⟨v, held, text⟩ := Option.map_eq_some_iff.mp written
  obtain ⟨m, rfl⟩ := int_of_hex_serializeLong text
  have long : b.long .R5 = none := by simp only [Box.long, held]
  simp only [readVals, long, Option.bind_eq_bind, Option.bind_none, Option.bind_fun_none]

/-- The box of the example request, for a ten millionth of the pool. -/
def exampleBox : Box Bool where
  id := [1]
  value := Amount.ofNat 1_000_000
  propositionBytes := [0x10]
  tokens := [⟨[8], Amount.ofNat 1000⟩]
  registers
    | .R5 => some (.int 10_000_000)
    | _ => none

/-- A ledger with this box and nothing else. -/
def exampleChain : Chain Bool := ⟨⟨[exampleBox], [exampleBox.id]⟩, 1100, []⟩

theorem accepted_exampleChain : exampleChain.AcceptedUnder (guarded [0x10] fun _ _ _ => False)
    [.block [7]] :=
  ⟨show (1100 : Int32) < Int32.maxValue by decide, trivial⟩

end DuckPools.WithdrawRequest
