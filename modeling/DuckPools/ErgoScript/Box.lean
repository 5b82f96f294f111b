import DuckPools.Codec.Hex
import DuckPools.ErgoScript.Eval
import DuckPools.Ledger.Settlement

/-!
# Boxes, propositions and the spending context

The part of the ledger that guard scripts can see. A `Box` carries its value, its
script, its tokens and the additional registers R4-R9. Amounts are positive and fit
a signed 64-bit integer by construction, so no later proof has to exclude empty or
overflowing boxes.

Registers are typed. Reading a register at a type it does not have raises, reading
an absent one gives no value: the two cases are different results of `Eval`.

A script reduces to a `SigmaProp`. The transaction is accepted when the keys of its
signers satisfy that proposition; the signature protocol itself is not modelled.
-/

namespace DuckPools.ErgoScript

/-- A quantity of nanoERG or of a token held by a box. -/
abbrev Amount := {n : Nat // 0 < n ∧ n < 2 ^ 63}

/-- The amount `n`, brought into range when it is not. -/
def Amount.ofNat (n : Nat) : Amount := ⟨max 1 (min n (2 ^ 63 - 1)), by omega⟩

theorem Amount.val_ofNat {n : Nat} (pos : 0 < n) (small : n < 2 ^ 63) :
    (Amount.ofNat n : Nat) = n := by
  show max 1 (min n (2 ^ 63 - 1)) = n
  omega

/-- The additional registers. -/
inductive Reg where
  | R4 | R5 | R6 | R7 | R8 | R9
  deriving DecidableEq, Repr

/-- Typed register contents, over the group elements of the signature scheme. -/
inductive Value (Point : Type) where
  | collByte (bytes : Bytes)
  | int (n : Int32)
  | long (n : Int64)
  | groupElement (p : Point)
  deriving DecidableEq

structure Token where
  id : Bytes
  amount : Amount
  deriving DecidableEq

/-- A box as scripts see it; two boxes are equal to a script when their ids are. -/
structure Box (Point : Type) where
  id : Bytes
  value : Amount
  propositionBytes : Bytes
  tokens : List Token
  registers : Reg → Option (Value Point)

namespace Box

variable {Point : Type} (b : Box Point) (r : Reg)

/-- `b.R[Coll[Byte]].get` -/
def collByte : Eval Bytes :=
  match b.registers r with
  | some (.collByte bytes) => some bytes
  | _ => none

/-- `b.R[Int].get` -/
def int : Eval Int32 :=
  match b.registers r with
  | some (.int n) => some n
  | _ => none

/-- `b.R[Long].get` -/
def long : Eval Int64 :=
  match b.registers r with
  | some (.long n) => some n
  | _ => none

/-- `b.R[GroupElement].get` -/
def groupElement : Eval Point :=
  match b.registers r with
  | some (.groupElement p) => some p
  | _ => none

/-- `b.R[Int].isDefined`: an absent register is undefined, another type raises. -/
def intDefined : Eval Bool :=
  match b.registers r with
  | none => some false
  | some (.int _) => some true
  | some _ => none

variable {b r}

theorem collByte_eq_some_iff {bytes : Bytes} :
    b.collByte r = some bytes ↔ b.registers r = some (.collByte bytes) := by
  rw [collByte]
  split
  · next h => simp [h]
  · next h => simpa using fun he => h bytes he

theorem int_eq_some_iff {n : Int32} : b.int r = some n ↔ b.registers r = some (.int n) := by
  rw [int]
  split
  · next h => simp [h]
  · next h => simpa using fun he => h n he

theorem groupElement_eq_some_iff {p : Point} :
    b.groupElement r = some p ↔ b.registers r = some (.groupElement p) := by
  rw [groupElement]
  split
  · next h => simp [h]
  · next h => simpa using fun he => h p he

end Box

/-- Total quantity of token `id` in a list of tokens. -/
def Token.quantity (id : Bytes) : List Token → Nat
  | [] => 0
  | t :: ts => (if t.id = id then (t.amount : Nat) else 0) + quantity id ts

theorem Token.amount_le_quantity {ts : List Token} {t : Token} (h : t ∈ ts) :
    (t.amount : Nat) ≤ quantity t.id ts := by
  induction ts with
  | nil => cases h
  | cons u ts ih =>
      rw [quantity]
      obtain rfl | h := List.mem_cons.mp h
      · rw [if_pos rfl]
        exact Nat.le_add_right _ _
      · exact Nat.le_trans (ih h) (Nat.le_add_left _ _)

/-- Total quantity of token `id` in a box. -/
def Box.tokenAmount {Point : Type} (b : Box Point) (id : Bytes) : Nat := Token.quantity id b.tokens

theorem Box.amount_le_tokenAmount {Point : Type} (b : Box Point) {t : Token} {id : Bytes}
    (h : t ∈ b.tokens) (hid : t.id = id) : (t.amount : Nat) ≤ b.tokenAmount id := by
  rw [← hid]
  exact Token.amount_le_quantity h

/-- The compressed encoding of group elements. Decoding may reject a byte string;
what it accepts of an encoding is the encoded element. -/
structure Curve (Point : Type) where
  decodePoint : Bytes → Eval Point
  getEncoded : Point → Bytes
  decodePoint_getEncoded : ∀ p, decodePoint (getEncoded p) = some p
  length_getEncoded : ∀ p, (getEncoded p).length = 33

/-- Propositions a script can reduce to. -/
inductive SigmaProp (Point : Type) where
  | bool (b : Bool)
  | proveDlog (p : Point)
  | and (left right : SigmaProp Point)
  | or (left right : SigmaProp Point)

/-- The signers hold the secrets of exactly the listed keys. -/
def SigmaProp.provedBy {Point : Type} [DecidableEq Point] (signers : List Point) :
    SigmaProp Point → Bool
  | .bool b => b
  | .proveDlog p => decide (p ∈ signers)
  | .and left right => left.provedBy signers && right.provedBy signers
  | .or left right => left.provedBy signers || right.provedBy signers

/-- `proveDlog(p).propBytes`: the pay-to-public-key script of `p`. -/
def Curve.propBytes {Point : Type} (E : Curve Point) (p : Point) : Bytes :=
  [0x00, 0x08, 0xcd] ++ E.getEncoded p

theorem Curve.propBytes_injective {Point : Type} (E : Curve Point) :
    Function.Injective E.propBytes := by
  intro p q h
  have he : E.getEncoded p = E.getEncoded q := List.append_cancel_left h
  have hd := congrArg E.decodePoint he
  simpa only [E.decodePoint_getEncoded, Option.some.injEq] using hd

/-- Two keys with distinct encodings, enough to run scripts on concrete boxes. -/
def twoKeys : Curve Bool where
  decodePoint bytes :=
    if bytes = 2 :: List.replicate 32 0 then some false
    else if bytes = 3 :: List.replicate 32 0 then some true
    else none
  getEncoded p := (if p then 3 else 2) :: List.replicate 32 0
  decodePoint_getEncoded := by decide
  length_getEncoded := by decide

/-- What a guard script can read while its box is being spent. -/
structure Context (Point : Type) where
  self : Box Point
  inputs : List (Box Point)
  outputs : List (Box Point)
  height : Int32
  /-- `CONTEXT.preHeader.parentId` -/
  parentId : Bytes

/-- A box as a payment of its value to its script. -/
def Box.payment {Point : Type} (b : Box Point) : Payment Bytes := ⟨b.propositionBytes, b.value⟩

/-- A box as a payment of its quantity of token `id`. -/
def Box.tokenPayment {Point : Type} (id : Bytes) (b : Box Point) : Payment Bytes :=
  ⟨b.propositionBytes, b.tokenAmount id⟩

@[simp] theorem Box.payment_amount {Point : Type} (b : Box Point) : b.payment.amount = b.value :=
  rfl

@[simp] theorem Box.tokenPayment_amount {Point : Type} (id : Bytes) (b : Box Point) :
    (b.tokenPayment id).amount = b.tokenAmount id := rfl

/-- What the ledger asks of a transaction besides its scripts: ERG is neither created nor
destroyed, and no token leaves in a larger quantity than it came in, unless it is the one
that may be minted, whose identifier is that of the first input. -/
structure Conserves {Point : Type} (inputs outputs : List (Box Point)) : Prop where
  erg : Payment.total (outputs.map Box.payment) = Payment.total (inputs.map Box.payment)
  tokens : ∀ out ∈ outputs, ∀ t ∈ out.tokens, inputs.head?.map Box.id = some t.id ∨
    Payment.total (outputs.map (Box.tokenPayment t.id)) ≤
      Payment.total (inputs.map (Box.tokenPayment t.id))

/-- The value of `b`, sent to another script without tokens or registers. -/
def Box.emptied {Point : Type} (tree : Bytes) (b : Box Point) : Box Point where
  id := []
  value := b.value
  propositionBytes := tree
  tokens := []
  registers _ := none

theorem total_payment_emptied {Point : Type} (tree : Bytes) (bs : List (Box Point)) :
    Payment.total ((bs.map (Box.emptied tree)).map Box.payment) =
      Payment.total (bs.map Box.payment) := by
  induction bs with
  | nil => rfl
  | cons b bs ih =>
      simp only [List.map_cons, Payment.total_cons, ih]
      rfl

theorem total_tokenPayment_emptied {Point : Type} (tree id : Bytes) (bs : List (Box Point)) :
    Payment.total ((bs.map (Box.emptied tree)).map (Box.tokenPayment id)) = 0 := by
  induction bs with
  | nil => rfl
  | cons b bs ih =>
      simp only [List.map_cons, Payment.total_cons, ih]
      rfl

end DuckPools.ErgoScript
