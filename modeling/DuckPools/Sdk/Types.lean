import DuckPools.ErgoScript.Box

/-!
# `sdk/src/types`

The values that the SDK writes into registers, the boxes it reads from a node, the
transactions it builds, and what it throws. Amounts are `bigint`s and may be negative;
nothing checks them but the code that does so explicitly. A field that may be absent is
an `Option`.
-/

namespace DuckPools.Sdk

open ErgoScript (Reg)

/-- `SValue`, with the two values of `Option` as constructors of their own. -/
inductive SValue where
  | int (value : Int)
  | long (value : Int)
  | collByte (value : Text)
  | collSByte (value : Text)
  | sigmaProp (value : Text)
  | boolean (value : Bool)
  | none
  | some (value : SValue)
  | pair (left right : SValue)
  deriving DecidableEq

/-- `svalue.type` -/
def SValue.type : SValue → String
  | int _ => "Int"
  | long _ => "Long"
  | collByte _ => "Coll[Byte]"
  | collSByte _ => "Coll[SByte]"
  | sigmaProp _ => "SigmaProp"
  | boolean _ => "Boolean"
  | none | some _ => "Option"
  | pair _ _ => "Pair"

/-- The second argument of `SerializationError`. -/
inductive ErrorDetails where
  | prefixText (hex : Text)
  | lengths (expectedLength actualLength : Nat)
  | typeTag (typeTag : Option Byte)
  deriving DecidableEq

/-- A request to the node that did not succeed. -/
inductive NodeFailure where
  | nodeError (message : String) (statusCode : Nat)
  | transport (message : String)
  deriving DecidableEq

/-- What is thrown: the errors of the SDK, plain ones, and those of the runtime. -/
inductive SdkError where
  | betError (message : String)
  | serializationError (message : String) (details : ErrorDetails)
  | node (failure : NodeFailure)
  | error (message : String)
  | typeError (message : String)
  deriving DecidableEq

structure ErgoBoxRegister where
  value : Text
  serializedValue : Text

/-- `PendingBetBox`, as the node answers it: any register may be missing. -/
structure PendingBetBox where
  value : Int
  creationHeight : Nat
  additionalRegisters : Reg → Option ErgoBoxRegister

structure Asset where
  tokenId : Text
  amount : Int

structure TransactionOutput where
  address : Option Text
  value : Int
  ergoTree : Option Text := none
  assets : Option (List Asset) := none
  additionalRegisters : Option (List (Reg × SValue)) := none
  creationHeight : Option Int := none

structure TransactionInput where
  boxId : Text
  value : Int

structure ErgoTransaction where
  inputs : List TransactionInput
  outputs : List TransactionOutput
  fee : Int

inductive BetResult where
  | win
  | lose
  deriving DecidableEq

/-- `choice` is declared as `0 | 1`, and checked all the same. -/
structure PlaceBetOptions where
  amount : Int
  choice : Int
  secret : Option Text
  timeoutDelta : Option Int

structure PlaceBetResult where
  betId : Text
  boxId : Text
  transactionId : Text
  commitment : Text
  secret : Text
  timeoutHeight : Int

structure RevealBetOptions where
  boxId : Text
  secret : Text
  choice : Int

structure RevealBetResult where
  transactionId : Text
  betId : Text
  result : BetResult
  payout : Int
  blockHash : Text
  rngHeight : Nat
  rngHash : Text

structure RefundBetOptions where
  boxId : Text
  refundAddress : Text

structure RefundBetResult where
  transactionId : Text
  betId : Text
  refundAmount : Int

end DuckPools.Sdk
