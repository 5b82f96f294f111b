import DuckPools.Codec.Blake2b
import DuckPools.ErgoScript.Constant

/-!
# Unsigned transactions and the Fleet SDK

The frontend hands its transactions to Fleet and gets EIP-12 objects back. Fleet is a
parameter here: `Fleet` lists the calls the sources make, each of which may throw, and
`Fleet.Lawful` what they rely on. An output comes back with the value, script and
registers it was given, and the requested outputs come first in the transaction, in
order, before the fee and the change.

What the sources do not reckon with is `Fleet.Validates`: an input that is selected has to
be the box that its id says. The id of a box is the hash of all that is in it, registers
included, so a box that is described without its registers is not an input of anything.

`Realizes` relates the outputs of an unsigned transaction to the boxes it creates once
it is included.
-/

namespace DuckPools.Frontend

open ErgoScript

structure Asset where
  tokenId : Text
  amount : Nat
  deriving DecidableEq

/-- `Box<Amount>`, as wallets and nodes describe unspent boxes. -/
structure Utxo where
  boxId : Text
  value : Nat
  ergoTree : Option Text
  creationHeight : Int
  assets : List Asset
  additionalRegisters : Reg → Option Text
  transactionId : Text
  index : Nat

namespace Utxo

/-- Text that is no hexadecimal is left out. -/
def bytesOf (hex : Text) : Bytes := (Hex.decode hex).getD []

/-- The part of a box before its registers. -/
def head (u : Utxo) : Bytes :=
  Vlq.encode u.value ++ bytesOf (u.ergoTree.getD []) ++ Vlq.encode u.creationHeight.toNat ++
    BitVec.ofNat 8 u.assets.length ::
      u.assets.flatMap fun a => bytesOf a.tokenId ++ Vlq.encode a.amount

/-- The registers that are there, in order. -/
def registers (u : Utxo) : List Text :=
  [Reg.R4, .R5, .R6, .R7, .R8, .R9].filterMap u.additionalRegisters

/-- What the id of a box is the hash of. -/
def serialize (u : Utxo) : Bytes :=
  u.head ++ BitVec.ofNat 8 u.registers.length ::
    (u.registers.flatMap bytesOf ++ (bytesOf u.transactionId ++ Vlq.encode u.index))

def hashId (H : Blake2b) (u : Utxo) : Text := Hex.encode (H.blake2b256 u.serialize).toList

/-- The id of the box is that of its content. -/
def isValid (H : Blake2b) (u : Utxo) : Bool := u.boxId == u.hashId H

theorem isValid_iff {H : Blake2b} {u : Utxo} : u.isValid H = true ↔ u.boxId = u.hashId H :=
  beq_iff_eq

/-- Registers that are left out show in the content. -/
theorem serialize_ne_of_registers {u v : Utxo} (same : u.head = v.head) (some : u.registers ≠ [])
    (none : v.registers = []) : u.serialize ≠ v.serialize := by
  intro h
  rw [serialize, serialize, same, none] at h
  have count : BitVec.ofNat 8 u.registers.length = BitVec.ofNat 8 0 :=
    (List.cons.inj (List.append_cancel_left h)).1
  have many : u.registers.length ≤ 6 := List.length_filterMap_le _ _
  have few := congrArg BitVec.toNat count
  simp only [BitVec.toNat_ofNat] at few
  exact some (List.length_eq_zero_iff.mp (by omega))

end Utxo

/-- What the sources tell an `OutputBuilder`, and what an EIP-12 output states. -/
structure Output where
  value : Nat
  ergoTree : Bytes
  creationHeight : Int
  assets : List Asset
  additionalRegisters : Reg → Option Text

/-- What the sources tell a `TransactionBuilder`. -/
structure TxRequest where
  creationHeight : Int
  inputs : List Utxo
  outputs : List Output
  changeAddress : Text

structure UnsignedTx where
  inputs : List Utxo
  outputs : List Output

structure Fleet where
  /-- `ErgoAddress.fromBase58(address)`, as its tree. -/
  fromBase58 : Text → Except String Bytes
  /-- `SColl(SByte, hex)` -/
  SColl : Text → Text
  SInt : Int → Text
  OutputBuilder : Output → Except String Output
  /-- `new BoxSelector(utxos).select({ nanoErgs })` -/
  select : List Utxo → Nat → Except String (List Utxo)
  /-- `.from(inputs).to(outputs).sendChangeTo(address).payMinFee().build()` -/
  build : TxRequest → Except String UnsignedTx

/-- The documented behaviour the sources rely on. -/
structure Fleet.Lawful (F : Fleet) : Prop where
  output_kept : ∀ {asked made}, F.OutputBuilder asked = .ok made →
    made.value = asked.value ∧ made.ergoTree = asked.ergoTree ∧
      made.additionalRegisters = asked.additionalRegisters
  outputs_first : ∀ {request tx}, F.build request = .ok tx → request.outputs <+: tx.outputs

/-- Fleet writes the constants that a ledger reads. -/
structure Fleet.Encodes (F : Fleet) : Prop where
  SColl_encode : ∀ {Point : Type} (E : Curve Point) (bytes : Bytes),
    F.SColl (Hex.encode bytes) = Value.hex E (.collByte bytes)
  SInt_toInt : ∀ {Point : Type} (E : Curve Point) (n : Int32),
    F.SInt n.toInt = Value.hex E (.int n)

/-- How much of a token is in these assets. -/
def amountOf (tokenId : Text) (assets : List Asset) : Nat :=
  ((assets.filter fun a => a.tokenId = tokenId).map Asset.amount).sum

/-- `build` selects boxes in the given order until they hold what the outputs and the fee need,
and looks at each selected box again. So the first box is selected if no other is needed for
tokens, and nothing is built with a box that does not have the id of its content. -/
structure Fleet.Validates (F : Fleet) (H : Blake2b) : Prop where
  assets_kept : ∀ {asked made}, F.OutputBuilder asked = .ok made →
    ∀ tokenId, amountOf tokenId made.assets = amountOf tokenId asked.assets
  first_selected : ∀ {request tx first rest}, F.build request = .ok tx →
    request.inputs = first :: rest →
    (∀ tokenId, amountOf tokenId (request.outputs.flatMap Output.assets) ≤
      amountOf tokenId first.assets) →
    first ∈ tx.inputs
  valid_inputs : ∀ {request tx}, F.build request = .ok tx →
    ∀ input ∈ tx.inputs, input.isValid H = true

/-- `box` is the ledger's form of `out`. -/
structure Realizes {Point : Type} (E : Curve Point) (box : Box Point) (out : Output) : Prop where
  value : (box.value : Nat) = out.value
  script : box.propositionBytes = out.ergoTree
  registers : ∀ r, box.hexRegisters E r = out.additionalRegisters r

/-- The ledger's outputs start with the first of these. -/
def StartsWith {Point : Type} (E : Curve Point) (boxes : List (Box Point)) (outputs : List Output) :
    Prop :=
  ∀ out ∈ outputs.head?, ∃ first ∈ boxes.head?, Realizes E first out

/-- The value in a list of unspent boxes. -/
def funds (utxos : List Utxo) : Nat := (utxos.map Utxo.value).sum

section Example

def constantHash (hash : Byte) : Blake2b := ⟨fun n _ => Vector.replicate n hash⟩

/-- A hash that tells messages apart by their length. -/
def sizeHash : Blake2b := ⟨fun n message => Vector.replicate n (BitVec.ofNat 8 message.length)⟩

theorem sizeHash_ne {m m' : Bytes} (h : m.length % 256 ≠ m'.length % 256) :
    sizeHash.blake2b256 m ≠ sizeHash.blake2b256 m' := by
  intro same
  have first : BitVec.ofNat 8 m.length = BitVec.ofNat 8 m'.length :=
    congrArg (fun digest : Vector Byte 32 => firstByte digest) same
  have bytes := congrArg BitVec.toNat first
  simp only [BitVec.toNat_ofNat] at bytes
  exact h bytes

/-- A box with the id of its content. -/
def walletBox (H : Blake2b) (tree : Text) (value : Nat) : Utxo :=
  let u : Utxo :=
    { boxId := []
      value
      ergoTree := some tree
      creationHeight := 90
      assets := []
      additionalRegisters := fun _ => none
      transactionId := Hex.encode (List.replicate 32 3)
      index := 0 }
  { u with boxId := u.hashId H }

theorem walletBox_isValid (H : Blake2b) (tree : Text) (value : Nat) :
    (walletBox H tree value).isValid H = true :=
  Utxo.isValid_iff.mpr rfl

def exampleUtxo (H : Blake2b) (tree : Text) : Utxo := walletBox H tree 5_000_000_000

/-- Boxes in the given order, until they hold the target. -/
def accumulate : Nat → List Utxo → List Utxo
  | _, [] => []
  | target, u :: rest => if target = 0 then [] else u :: accumulate (target - u.value) rest

/-- The addresses of a contract, and of the player and the house of `twoKeys`. -/
def exampleAddress (contract : Bytes) : Text → Except String Bytes
  | ['c'] => .ok contract
  | ['p'] => .ok (twoKeys.propBytes false)
  | ['h'] => .ok (twoKeys.propBytes true)
  | _ => .error "Invalid address"

/-- Fleet on outputs without tokens, with the minimum fee. -/
def exampleBuild (H : Blake2b) (contract : Bytes) (request : TxRequest) :
    Except String UnsignedTx := do
  let changeTree ← exampleAddress contract request.changeAddress
  let paid := (request.outputs.map Output.value).sum + 1_100_000
  let selected := accumulate paid request.inputs
  if !(request.outputs.flatMap Output.assets).isEmpty || funds selected < paid then
    throw "Insufficient inputs"
  if !selected.all (Utxo.isValid H) then
    throw "Invalid input"
  let fee : Output := ⟨1_100_000, [8], request.creationHeight, [], fun _ => none⟩
  let change : Output :=
    ⟨funds selected - paid, changeTree, request.creationHeight, [], fun _ => none⟩
  let outputs := request.outputs ++ fee :: if funds selected = paid then [] else [change]
  return { inputs := selected, outputs }

/-- Fleet, with this script at the address of the contract. -/
def fleetAt (H : Blake2b) (contract : Bytes) : Fleet where
  fromBase58 := exampleAddress contract
  SColl hex := ((Hex.decode hex).map fun bytes => Value.hex twoKeys (.collByte bytes)).getD []
  SInt n := Value.hex twoKeys (.int (Int32.ofInt n))
  OutputBuilder out :=
    if out.value = 0 then .error "An UTxO cannot be created without a minimum required amount."
    else .ok out
  select utxos target :=
    if funds utxos < target then .error "Insufficient inputs" else .ok (accumulate target utxos)
  build := exampleBuild H contract

def exampleFleet (H : Blake2b) : Fleet := fleetAt H [9]

variable {H : Blake2b} {contract : Bytes}

theorem exampleBuild_spec {request : TxRequest} {tx : UnsignedTx}
    (h : exampleBuild H contract request = .ok tx) :
    tx.inputs = accumulate ((request.outputs.map Output.value).sum + 1_100_000) request.inputs ∧
      tx.inputs.all (Utxo.isValid H) = true ∧ request.outputs <+: tx.outputs := by
  simp only [exampleBuild, bind, Except.bind] at h
  split at h
  · cases h
  · split at h
    · cases h
    · split at h
      · cases h
      · next valid =>
        cases h
        exact ⟨rfl, by simpa using valid, List.prefix_append _ _⟩

theorem fleetAt_output {asked made : Output}
    (h : (fleetAt H contract).OutputBuilder asked = .ok made) : made = asked := by
  simp only [fleetAt] at h
  split at h
  · cases h
  · cases h
    rfl

theorem fleetAt_lawful (H : Blake2b) (contract : Bytes) : (fleetAt H contract).Lawful where
  output_kept h := by
    obtain rfl := fleetAt_output h
    exact ⟨rfl, rfl, rfl⟩
  outputs_first h := (exampleBuild_spec h).2.2

theorem fleetAt_encodes (H : Blake2b) (contract : Bytes) : (fleetAt H contract).Encodes where
  SColl_encode E bytes := by
    simp only [fleetAt, Hex.decode_encode, Option.map_some, Option.getD_some]
    rfl
  SInt_toInt E n := by
    simp only [fleetAt, Int32.ofInt_toInt]
    rfl

theorem fleetAt_validates (H : Blake2b) (contract : Bytes) : (fleetAt H contract).Validates H where
  assets_kept h _ := by rw [fleetAt_output h]
  first_selected {request tx first rest} h inputs _ := by
    rw [(exampleBuild_spec h).1, inputs, accumulate, if_neg (by omega)]
    exact List.mem_cons_self
  valid_inputs h := List.all_eq_true.mp (exampleBuild_spec h).2.1

/-- One box of the wallet pays for an output without tokens. -/
theorem exists_exampleBuild {out : Output} {creationHeight : Int} {address tree : Text}
    {changeTree : Bytes} {value : Nat} (change : exampleAddress contract address = .ok changeTree)
    (assets : out.assets = []) (enough : out.value + 1_100_000 ≤ value) :
    ∃ tx, exampleBuild H contract ⟨creationHeight, [walletBox H tree value], [out], address⟩ =
      .ok tx := by
  have selected : accumulate (out.value + 1_100_000) [walletBox H tree value] =
      [walletBox H tree value] := by
    rw [accumulate, if_neg (by omega), accumulate]
  have held : funds [walletBox H tree value] = value := Nat.add_zero _
  have covered : ¬ value < out.value + 1_100_000 := by omega
  simp [exampleBuild, change, assets, selected, held, covered, walletBox_isValid, bind,
    Except.bind, pure, Except.pure]

end Example

end DuckPools.Frontend
