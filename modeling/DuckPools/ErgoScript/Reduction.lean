import DuckPools.Codec.Blake2b
import DuckPools.ErgoScript.ErgoTree

/-!
# What a script reduces to

The ledger evaluates the tree of a script where its box is being spent. Operands are evaluated
from left to right, and an exception in one of them is one of the whole; only the branches of
a conditional and the right operand of `&&` wait until they are needed. The connectives of
propositions are no exception to this: all of their operands are reduced.

Values carry their type, so an operation on values of another type raises. `Byte` numbers
occur as elements of byte strings and are converted before they are calculated with.
-/

namespace DuckPools.ErgoScript

variable {Point : Type}

/-- What an expression evaluates to. -/
inductive Val (Point : Type) where
  | bool (b : Bool)
  | byte (b : Byte)
  | value (v : Value Point)
  | sigmaProp (s : SigmaProp Point)
  | box (b : Box Point)
  | boxes (bs : List (Box Point))
  /-- The contents of a register, if it has any. -/
  | option (v : Option (Value Point))
  | context
  | preHeader

/-- The result of an `Int` operation that raises on overflow. -/
def exactInt (n : Int) : Eval Int32 :=
  if -2 ^ 31 ≤ n ∧ n < 2 ^ 31 then some (Int32.ofInt n) else none

def exactLong (n : Int) : Eval Int64 :=
  if -2 ^ 63 ≤ n ∧ n < 2 ^ 63 then some (Int64.ofInt n) else none

def Const.val : Const Point → Val Point
  | .value v => .value v
  | .byte b => .byte b
  | .sigmaProp s => .sigmaProp s

def Value.type : Value Point → SType
  | .collByte _ => .collByte
  | .int _ => .int
  | .long _ => .long
  | .groupElement _ => .groupElement

/-- All of the propositions. -/
def SigmaProp.allOf : List (SigmaProp Point) → SigmaProp Point
  | [] => .bool true
  | s :: ss => ss.foldl .and s

/-- One of the propositions. -/
def SigmaProp.anyOf : List (SigmaProp Point) → SigmaProp Point
  | [] => .bool false
  | s :: ss => ss.foldl .or s

/-- The bytes of the script that is this proposition. -/
def SigmaProp.propBytes (E : Curve Point) (s : SigmaProp Point) : Bytes :=
  [0x00, 0x08] ++ s.serialize E

variable (H : Blake2b) (E : Curve Point) (constants : List (Const Point)) (ctx : Context Point)

def Leaf.eval : Leaf → Val Point
  | .self => .box ctx.self
  | .outputs => .boxes ctx.outputs
  | .height => .value (.int ctx.height)
  | .context => .context

def Unary.eval : Unary → Val Point → Eval (Val Point)
  | .optionGet, .option (some v) => some (.value v)
  | .decodePoint, .value (.collByte bytes) =>
      (E.decodePoint bytes).map fun p => .value (.groupElement p)
  | .createProveDlog, .value (.groupElement p) => some (.sigmaProp (.proveDlog p))
  | .extractAmount, .box b => some (.value (.long (Int64.ofNat b.value)))
  | .extractScriptBytes, .box b => some (.value (.collByte b.propositionBytes))
  | .sigmaPropBytes, .sigmaProp s => some (.value (.collByte (s.propBytes E)))
  | .calcBlake2b256, .value (.collByte bytes) =>
      some (.value (.collByte (H.blake2b256 bytes).toList))
  | .boolToSigmaProp, .bool b => some (.sigmaProp (.bool b))
  | _, _ => none

def Binary.eval : Binary → Val Point → Val Point → Eval (Val Point)
  | .append, .value (.collByte a), .value (.collByte b) => some (.value (.collByte (a ++ b)))
  | .eq, .bool a, .bool b => some (.bool (a == b))
  | .eq, .byte a, .byte b => some (.bool (a == b))
  | .eq, .value (.collByte a), .value (.collByte b) => some (.bool (a == b))
  | .eq, .value (.int a), .value (.int b) => some (.bool (a == b))
  | .eq, .value (.long a), .value (.long b) => some (.bool (a == b))
  | .eq, .value (.groupElement a), .value (.groupElement b) =>
      some (.bool (E.getEncoded a == E.getEncoded b))
  | .ge, .value (.int a), .value (.int b) => some (.bool (decide (b ≤ a)))
  | .ge, .value (.long a), .value (.long b) => some (.bool (decide (b ≤ a)))
  | .minus, .value (.int a), .value (.int b) =>
      (exactInt (a.toInt - b.toInt)).map fun n => .value (.int n)
  | .minus, .value (.long a), .value (.long b) =>
      (exactLong (a.toInt - b.toInt)).map fun n => .value (.long n)
  | .multiply, .value (.int a), .value (.int b) =>
      (exactInt (a.toInt * b.toInt)).map fun n => .value (.int n)
  | .multiply, .value (.long a), .value (.long b) =>
      (exactLong (a.toInt * b.toInt)).map fun n => .value (.long n)
  | .division, .value (.int a), .value (.int b) =>
      if b = 0 then none else some (.value (.int (a / b)))
  | .division, .value (.long a), .value (.long b) =>
      if b = 0 then none else some (.value (.long (a / b)))
  | .modulo, .value (.int a), .value (.int b) =>
      if b = 0 then none else some (.value (.int (a % b)))
  | .modulo, .value (.long a), .value (.long b) =>
      if b = 0 then none else some (.value (.long (a % b)))
  | _, _, _ => none

section Operations

variable {E} (a b : Bytes) (m n : Int32)

@[simp] theorem Unary.eval_decodePoint : Unary.decodePoint.eval H E (.value (.collByte a)) =
    (E.decodePoint a).map fun p => .value (.groupElement p) := rfl

@[simp] theorem Unary.eval_createProveDlog (p : Point) :
    Unary.createProveDlog.eval H E (.value (.groupElement p)) =
      some (.sigmaProp (.proveDlog p)) := rfl

@[simp] theorem Unary.eval_extractAmount (out : Box Point) :
    Unary.extractAmount.eval H E (.box out) = some (.value (.long (Int64.ofNat out.value))) := rfl

@[simp] theorem Unary.eval_extractScriptBytes (out : Box Point) :
    Unary.extractScriptBytes.eval H E (.box out) =
      some (.value (.collByte out.propositionBytes)) := rfl

@[simp] theorem Unary.eval_sigmaPropBytes (s : SigmaProp Point) :
    Unary.sigmaPropBytes.eval H E (.sigmaProp s) = some (.value (.collByte (s.propBytes E))) := rfl

@[simp] theorem Unary.eval_calcBlake2b256 :
    Unary.calcBlake2b256.eval H E (.value (.collByte a)) =
      some (.value (.collByte (H.blake2b256 a).toList)) := rfl

@[simp] theorem Unary.eval_boolToSigmaProp (x : Bool) :
    Unary.boolToSigmaProp.eval H E (.bool x) = some (.sigmaProp (.bool x)) := rfl

@[simp] theorem Binary.eval_append :
    Binary.append.eval E (.value (.collByte a)) (.value (.collByte b)) =
      some (.value (.collByte (a ++ b))) := rfl

@[simp] theorem Binary.eval_eq_collByte :
    Binary.eq.eval E (.value (.collByte a)) (.value (.collByte b)) = some (.bool (a == b)) := rfl

@[simp] theorem Binary.eval_eq_int :
    Binary.eq.eval E (.value (.int m)) (.value (.int n)) = some (.bool (m == n)) := rfl

@[simp] theorem Binary.eval_ge_int :
    Binary.ge.eval E (.value (.int m)) (.value (.int n)) = some (.bool (decide (n ≤ m))) := rfl

@[simp] theorem Binary.eval_modulo_int :
    Binary.modulo.eval E (.value (.int m)) (.value (.int n)) =
      if n = 0 then none else some (.value (.int (m % n))) := rfl

end Operations

section Amounts

variable {E} {a b : Nat}

theorem exactLong_natCast (n : Nat) :
    exactLong n = if n < 2 ^ 63 then some (Int64.ofNat n) else none := by
  rw [exactLong, Int64.ofInt_eq_ofNat]
  by_cases h : n < 2 ^ 63
  · rw [if_pos h, if_pos (by omega)]
  · rw [if_neg h, if_neg (by omega)]

theorem exactLong_mul_ofNat (ha : a < 2 ^ 63) (hb : b < 2 ^ 63) :
    exactLong ((Int64.ofNat a).toInt * (Int64.ofNat b).toInt) =
      (mulLong a b).map Int64.ofNat := by
  rw [Int64.toInt_ofNat_of_lt ha, Int64.toInt_ofNat_of_lt hb, ← Int.natCast_mul,
    exactLong_natCast, mulLong]
  split <;> rfl

theorem exactLong_sub_ofNat (ha : a < 2 ^ 63) (hb : b ≤ a) :
    exactLong ((Int64.ofNat a).toInt - (Int64.ofNat b).toInt) = some (Int64.ofNat (a - b)) := by
  rw [Int64.toInt_ofNat_of_lt ha, Int64.toInt_ofNat_of_lt (by omega), ← Int.ofNat_sub hb,
    exactLong_natCast, if_pos (by omega)]

theorem Binary.eval_multiply_ofNat (ha : a < 2 ^ 63) (hb : b < 2 ^ 63) :
    Binary.multiply.eval E (.value (.long (.ofNat a))) (.value (.long (.ofNat b))) =
      (mulLong a b).map fun n => .value (.long (.ofNat n)) := by
  have product := exactLong_mul_ofNat ha hb
  simp only [Binary.eval, product, Option.map_map]
  rfl

theorem Binary.eval_division_ofNat (ha : a < 2 ^ 63) (hb : b < 2 ^ 63) (pos : 0 < b) :
    Binary.division.eval E (.value (.long (.ofNat a))) (.value (.long (.ofNat b))) =
      some (.value (.long (.ofNat (a / b)))) := by
  have nonzero : Int64.ofNat b ≠ 0 := by
    intro h
    have zero := congrArg Int64.toInt h
    rw [Int64.toInt_ofNat_of_lt hb, Int64.toInt_zero] at zero
    omega
  rw [Int64.ofNat_div ha hb]
  exact if_neg nonzero

theorem Binary.eval_minus_ofNat (ha : a < 2 ^ 63) (hb : b ≤ a) :
    Binary.minus.eval E (.value (.long (.ofNat a))) (.value (.long (.ofNat b))) =
      some (.value (.long (.ofNat (a - b)))) := by
  have difference := exactLong_sub_ofNat ha hb
  simp only [Binary.eval, difference, Option.map_some]

theorem Binary.eval_ge_ofNat (ha : a < 2 ^ 63) (hb : b < 2 ^ 63) :
    Binary.ge.eval E (.value (.long (.ofNat a))) (.value (.long (.ofNat b))) =
      some (.bool (decide (b ≤ a))) := by
  have order : Int64.ofNat b ≤ Int64.ofNat a ↔ b ≤ a := by
    rw [Int64.le_iff_toInt_le, Int64.toInt_ofNat_of_lt ha, Int64.toInt_ofNat_of_lt hb, Int.ofNat_le]
  simp only [Binary.eval, order]

end Amounts


def Property.eval : Property → Val Point → Eval (Val Point)
  | .preHeader, .context => some .preHeader
  | .parentId, .preHeader => some (.value (.collByte ctx.parentId))
  | _, _ => none

@[simp] theorem Property.eval_preHeader :
    Property.preHeader.eval ctx .context = some .preHeader := rfl

@[simp] theorem Property.eval_parentId :
    Property.parentId.eval ctx .preHeader = some (.value (.collByte ctx.parentId)) := rfl

/-- `coll(index)` -/
def Val.byIndex : Val Point → Val Point → Eval (Val Point)
  | .value (.collByte bytes), .value (.int i) =>
      if 0 ≤ i then (bytes[i.toNatClampNeg]?).map .byte else none
  | .boxes bs, .value (.int i) =>
      if 0 ≤ i then (bs[i.toNatClampNeg]?).map .box else none
  | _, _ => none

/-- `box.R[T]`: an absent register has no contents, contents of another type raise. -/
def Val.extractRegisterAs (r : Reg) (t : SType) : Val Point → Eval (Val Point)
  | .box b =>
      match b.registers r with
      | none => some (.option none)
      | some v => if v.type = t then some (.option (some v)) else none
  | _ => none

/-- The same number at a larger type. -/
def Val.upcast : Val Point → SType → Eval (Val Point)
  | .byte b, .int => some (.value (.int (Int32.ofInt b.toInt)))
  | .byte b, .long => some (.value (.long (Int64.ofInt b.toInt)))
  | .value (.int n), .int => some (.value (.int n))
  | .value (.int n), .long => some (.value (.long n.toInt64))
  | .value (.long n), .long => some (.value (.long n))
  | _, _ => none

def Val.toBool : Val Point → Eval Bool
  | .bool b => some b
  | _ => none

def Val.toByte : Val Point → Eval Byte
  | .byte b => some b
  | _ => none

def Val.toSigmaProp : Val Point → Eval (SigmaProp Point)
  | .sigmaProp s => some s
  | _ => none

@[simp] theorem Val.byIndex_collByte_zero (bytes : Bytes) :
    Val.byIndex (.value (.collByte bytes)) (.value (.int 0) : Val Point) =
      (bytes[0]?).map .byte := rfl

@[simp] theorem Val.byIndex_boxes_zero (bs : List (Box Point)) :
    Val.byIndex (.boxes bs) (.value (.int 0)) = (bs[0]?).map .box := rfl

@[simp] theorem Val.upcast_byte_int (b : Byte) :
    Val.upcast (.byte b : Val Point) .int = some (.value (.int (Int32.ofInt b.toInt))) := rfl

@[simp] theorem Val.toBool_bool (b : Bool) : (Val.bool b : Val Point).toBool = some b := rfl

@[simp] theorem Val.toByte_byte (b : Byte) : (Val.byte b : Val Point).toByte = some b := rfl

@[simp] theorem Val.toSigmaProp_sigmaProp (s : SigmaProp Point) :
    (Val.sigmaProp s).toSigmaProp = some s := rfl

/-- The values bound so far, innermost first. -/
abbrev Env (Point : Type) := List (Nat × Val Point)

namespace Expr

mutual

@[simp] def eval : Expr Point → Env Point → Eval (Val Point)
  | .constant c, _ => some c.val
  | .constantPlaceholder index, _ => (constants[index]?).map Const.val
  | .valUse id, env => env.lookup id
  -- A definition is bound by its block and has no value of its own.
  | .valDef _ _, _ => none
  | .blockValue items result, env => do
      let inner ← bindAll items env
      eval result inner
  | .leaf op, _ => some (op.eval ctx)
  | .unary op a, env => do
      let v ← eval a env
      op.eval H E v
  | .binary op a b, env => do
      let v ← eval a env
      let w ← eval b env
      op.eval E v w
  | .binAnd a b, env => do
      let v ← eval a env
      let x ← v.toBool
      if x then eval b env else return .bool false
  | .ite condition yes no, env => do
      let v ← eval condition env
      let x ← v.toBool
      if x then eval yes env else eval no env
  | .byIndex coll index, env => do
      let c ← eval coll env
      let i ← eval index env
      c.byIndex i
  | .extractRegisterAs box r t, env => do
      let b ← eval box env
      b.extractRegisterAs r t
  | .upcast a t, env => do
      let v ← eval a env
      v.upcast t
  | .propertyCall p obj, env => do
      let v ← eval obj env
      p.eval ctx v
  | .concreteCollection items, env => do
      let vs ← evalAll items env
      let bytes ← vs.mapM Val.toByte
      return .value (.collByte bytes)
  | .sigmaAnd items, env => do
      let vs ← evalAll items env
      let ss ← vs.mapM Val.toSigmaProp
      return .sigmaProp (.allOf ss)
  | .sigmaOr items, env => do
      let vs ← evalAll items env
      let ss ← vs.mapM Val.toSigmaProp
      return .sigmaProp (.anyOf ss)

/-- The definitions of a block, in their order. -/
def bindAll : List (Expr Point) → Env Point → Eval (Env Point)
  | [], env => some env
  | .valDef id rhs :: items, env => do
      let v ← eval rhs env
      bindAll items ((id, v) :: env)
  | _ :: _, _ => none

@[simp] def evalAll : List (Expr Point) → Env Point → Eval (List (Val Point))
  | [], _ => some []
  | e :: es, env => do
      let v ← eval e env
      let vs ← evalAll es env
      return v :: vs

end

end Expr

section Propositions

variable {H E constants ctx} {env : Env Point} {a b : Expr Point}

namespace Expr

theorem eval_boolToSigmaProp {x : Eval Bool}
    (ha : a.eval H E constants ctx env = x.map .bool) :
    (unary .boolToSigmaProp a).eval H E constants ctx env =
      (x.map SigmaProp.bool).map .sigmaProp := by
  rw [eval, ha]
  cases x <;> rfl

/-- A connective of propositions reduces both of its operands. -/
theorem eval_sigmaAnd_pair {s t : Eval (SigmaProp Point)}
    (ha : a.eval H E constants ctx env = s.map .sigmaProp)
    (hb : b.eval H E constants ctx env = t.map .sigmaProp) :
    (sigmaAnd [a, b]).eval H E constants ctx env =
      (s.bind fun left => t.map fun right => left.and right).map .sigmaProp := by
  rw [eval, evalAll, evalAll, evalAll, ha, hb]
  cases s with
  | none => rfl
  | some left => cases t <;> rfl

theorem eval_sigmaOr_pair {s t : Eval (SigmaProp Point)}
    (ha : a.eval H E constants ctx env = s.map .sigmaProp)
    (hb : b.eval H E constants ctx env = t.map .sigmaProp) :
    (sigmaOr [a, b]).eval H E constants ctx env =
      (s.bind fun left => t.map fun right => left.or right).map .sigmaProp := by
  rw [eval, evalAll, evalAll, evalAll, ha, hb]
  cases s with
  | none => rfl
  | some left => cases t <;> rfl

end Expr

end Propositions

/-- The proposition of a script. -/
def ErgoTree.reduce (t : ErgoTree Point) : Eval (SigmaProp Point) := do
  let v ← t.root.eval H E (t.constants.getD []) ctx []
  v.toSigmaProp

/-- The proposition that guards the box being spent. -/
def Context.reduce : Eval (SigmaProp Point) := do
  let t ← ErgoTree.parse E ctx.self.propositionBytes
  t.reduce H E ctx

end DuckPools.ErgoScript
