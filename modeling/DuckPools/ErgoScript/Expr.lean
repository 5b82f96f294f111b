import DuckPools.Codec.Reader
import DuckPools.ErgoScript.Constant

/-!
# Serialized expression trees

A script is stored in a box as the bytes of an expression tree: an operation code, followed by
what the operation carries and by its operands.

`Opcode` separates the two levels of the format. Which operation a byte stands for is a table;
what follows the byte is determined by the operation, with the operands left to a reader of
their own. The reader of a whole tree ties the knot, and a limit on the depth of the tree makes
it total. It is that of the ledger, so a deeper tree is no script.

The operations are those of the contracts and of pay-to-public-key scripts.
-/

namespace DuckPools.ErgoScript

variable {Point : Type} (E : Curve Point)

/-- Types of constants, of registers and of conversions. -/
inductive SType where
  | byte | int | long | groupElement | sigmaProp | collByte
  deriving DecidableEq, Repr

namespace SType

def code : SType → Byte
  | byte => 0x02
  | int => 0x04
  | long => 0x05
  | groupElement => 0x07
  | sigmaProp => 0x08
  | collByte => 0x0e

def all : List SType := [byte, int, long, groupElement, sigmaProp, collByte]

def ofCode (b : Byte) : Option SType := all.find? fun t => t.code == b

@[simp] theorem ofCode_code (t : SType) : ofCode t.code = some t := by cases t <;> rfl

def reader : Reader Byte SType := do
  let b ← Reader.next
  Reader.ofOption (ofCode b)

theorem reads (t : SType) : Reads reader [t.code] t :=
  (Reads.next t.code).bind_pure (Reads.ofOption (ofCode_code t))

end SType

/-- A number of the format. -/
def vlq : Reader Byte Nat := Vlq.decode

theorem reads_vlq (n : Nat) : Reads vlq (Vlq.encode n) n := Vlq.decode_encode_append n

/-- A group element, in its compressed encoding. -/
def point : Reader Byte Point := do
  let bytes ← Reader.take 33
  Reader.ofOption (E.decodePoint bytes)

theorem reads_point (p : Point) : Reads (point E) (E.getEncoded p) p := by
  have bytes := Reads.take (E.getEncoded p)
  rw [E.length_getEncoded] at bytes
  exact bytes.bind_pure (Reads.ofOption (E.decodePoint_getEncoded p))

theorem point_eq_some {E : Curve Point} {word rest : Bytes} {p : Point}
    (h : point E word = some (p, rest)) :
    33 ≤ word.length ∧ rest = word.drop 33 := by
  obtain ⟨⟨bytes, left⟩, taken, decoded⟩ := Option.bind_eq_some_iff.mp
    (show (Reader.take 33 word).bind (fun r => Reader.ofOption (E.decodePoint r.1) r.2) =
      some (p, rest) from h)
  rw [Reader.take, Option.ite_none_right_eq_some] at taken
  obtain ⟨long, same⟩ := taken
  obtain ⟨rfl, rfl⟩ := Prod.mk.inj (Option.some.inj same)
  refine ⟨long, ?_⟩
  cases point : E.decodePoint (word.take 33) with
  | none =>
      rw [point] at decoded
      cases decoded
  | some q =>
      rw [point] at decoded
      exact (Prod.mk.inj (Option.some.inj decoded)).2.symm

namespace SigmaProp

/-- A proposition as data. The connectives count their operands. -/
def serialize : SigmaProp Point → Bytes
  | .bool false => [0xd2]
  | .bool true => [0xd3]
  | .proveDlog p => 0xcd :: E.getEncoded p
  | .and left right => 0x96 :: 0x02 :: (left.serialize ++ right.serialize)
  | .or left right => 0x97 :: 0x02 :: (left.serialize ++ right.serialize)

def depth : SigmaProp Point → Nat
  | .bool _ => 1
  | .proveDlog _ => 1
  | .and left right => max left.depth right.depth + 1
  | .or left right => max left.depth right.depth + 1

/-- The two operands of a connective, behind their number. -/
def operands (sub : Reader Byte (SigmaProp Point)) (build : SigmaProp Point → SigmaProp Point →
    SigmaProp Point) : Reader Byte (SigmaProp Point) := do
  let count ← Reader.next
  if count = 0x02 then
    let left ← sub
    let right ← sub
    return build left right
  else Reader.fail

def reader : Nat → Reader Byte (SigmaProp Point)
  | 0 => Reader.fail
  | d + 1 => do
      let b ← Reader.next
      if b = 0xd2 then return .bool false
      else if b = 0xd3 then return .bool true
      else if b = 0xcd then
        let p ← point E
        return .proveDlog p
      else if b = 0x96 then operands (reader d) .and
      else if b = 0x97 then operands (reader d) .or
      else Reader.fail

variable {E}

theorem reads_operands {sub : Reader Byte (SigmaProp Point)} {left right : SigmaProp Point}
    (build : SigmaProp Point → SigmaProp Point → SigmaProp Point)
    (first : Reads sub (left.serialize E) left) (second : Reads sub (right.serialize E) right) :
    Reads (operands sub build) (0x02 :: (left.serialize E ++ right.serialize E))
      (build left right) :=
  Reads.cons (first.bind (second.bind_pure (Reads.pure (build left right))))

theorem reads (s : SigmaProp Point) {d : Nat} (h : s.depth ≤ d) :
    Reads (reader E d) (s.serialize E) s := by
  induction s generalizing d with
  | bool b =>
      obtain ⟨d, rfl⟩ : ∃ k, d = k + 1 := ⟨d - 1, by simp only [depth] at h; omega⟩
      cases b <;> exact Reads.cons (Reads.pure _)
  | proveDlog p =>
      obtain ⟨d, rfl⟩ : ∃ k, d = k + 1 := ⟨d - 1, by simp only [depth] at h; omega⟩
      exact Reads.cons ((reads_point E p).bind_pure (Reads.pure _))
  | and left right ihl ihr =>
      obtain ⟨d, rfl⟩ : ∃ k, d = k + 1 := ⟨d - 1, by simp only [depth] at h; omega⟩
      simp only [depth, Nat.add_le_add_iff_right, Nat.max_le] at h
      exact Reads.cons (reads_operands .and (ihl h.1) (ihr h.2))
  | or left right ihl ihr =>
      obtain ⟨d, rfl⟩ : ∃ k, d = k + 1 := ⟨d - 1, by simp only [depth] at h; omega⟩
      simp only [depth, Nat.add_le_add_iff_right, Nat.max_le] at h
      exact Reads.cons (reads_operands .or (ihl h.1) (ihr h.2))

end SigmaProp

/-- Constants of a script. -/
inductive Const (Point : Type) where
  | value (v : Value Point)
  | byte (b : Byte)
  | sigmaProp (s : SigmaProp Point)

namespace Const

def type : Const Point → SType
  | value (.collByte _) => .collByte
  | value (.int _) => .int
  | value (.long _) => .long
  | value (.groupElement _) => .groupElement
  | byte _ => .byte
  | sigmaProp _ => .sigmaProp

/-- What follows the type code. -/
def data : Const Point → Bytes
  | value (.collByte bytes) => Vlq.encode bytes.length ++ bytes
  | value (.int n) => Vlq.encode (Vlq.zigzag n.toInt)
  | value (.long n) => Vlq.encode (Vlq.zigzag n.toInt)
  | value (.groupElement p) => E.getEncoded p
  | byte b => [b]
  | sigmaProp s => s.serialize E

def serialize (c : Const Point) : Bytes := c.type.code :: c.data E

def depth : Const Point → Nat
  | sigmaProp s => s.depth
  | _ => 1

/-- The data of a constant of the given type. -/
def reader (d : Nat) : SType → Reader Byte (Const Point)
  | .byte => do
      let b ← Reader.next
      return byte b
  | .int => do
      let n ← vlq
      return value (.int (Int32.ofInt (Vlq.unzigzag n)))
  | .long => do
      let n ← vlq
      return value (.long (Int64.ofInt (Vlq.unzigzag n)))
  | .groupElement => do
      let p ← point E
      return value (.groupElement p)
  | .sigmaProp => do
      let s ← SigmaProp.reader E d
      return sigmaProp s
  | .collByte => do
      let n ← vlq
      let bytes ← Reader.take n
      return value (.collByte bytes)

theorem reads (c : Const Point) {d : Nat} (h : c.depth ≤ d) :
    Reads (reader E d c.type) (c.data E) c := by
  match c with
  | value (.collByte bytes) =>
      exact (reads_vlq _).bind ((Reads.take bytes).bind_pure (Reads.pure _))
  | value (.int n) =>
      have same : value (.int (Int32.ofInt (Vlq.unzigzag (Vlq.zigzag n.toInt)))) =
          (value (.int n) : Const Point) := by simp
      exact (reads_vlq _).bind_pure (same ▸ Reads.pure _)
  | value (.long n) =>
      have same : value (.long (Int64.ofInt (Vlq.unzigzag (Vlq.zigzag n.toInt)))) =
          (value (.long n) : Const Point) := by simp
      exact (reads_vlq _).bind_pure (same ▸ Reads.pure _)
  | value (.groupElement p) => exact (reads_point E p).bind_pure (Reads.pure _)
  | byte b => exact (Reads.next b).bind_pure (Reads.pure _)
  | sigmaProp s => exact (SigmaProp.reads s h).bind_pure (Reads.pure _)

/-- A constant behind its type code. -/
def typed (d : Nat) : Reader Byte (Const Point) := do
  let t ← SType.reader
  reader E d t

theorem reads_typed (c : Const Point) {d : Nat} (h : c.depth ≤ d) :
    Reads (typed E d) (c.serialize E) c :=
  (SType.reads c.type).bind (reads E c h)

end Const

/-- Operations without operands. -/
inductive Leaf where
  | self | outputs | height | context
  deriving DecidableEq, Repr

/-- Operations on one operand. -/
inductive Unary where
  | optionGet | decodePoint | createProveDlog | extractAmount | extractScriptBytes
  | sigmaPropBytes | calcBlake2b256 | boolToSigmaProp
  deriving DecidableEq, Repr

/-- Operations on two operands, both of which they evaluate. -/
inductive Binary where
  | append | eq | ge | minus | multiply | division | modulo
  deriving DecidableEq, Repr

/-- Properties of the context, by type and position in it. -/
inductive Property where
  | preHeader | parentId
  deriving DecidableEq, Repr

/-- Expression trees. -/
inductive Expr (Point : Type) where
  | constant (c : Const Point)
  | constantPlaceholder (index : Nat)
  | valUse (id : Nat)
  | valDef (id : Nat) (rhs : Expr Point)
  | blockValue (items : List (Expr Point)) (result : Expr Point)
  | leaf (op : Leaf)
  | unary (op : Unary) (a : Expr Point)
  | binary (op : Binary) (a b : Expr Point)
  | binAnd (a b : Expr Point)
  | ite (condition yes no : Expr Point)
  | byIndex (coll index : Expr Point)
  | extractRegisterAs (box : Expr Point) (r : Reg) (t : SType)
  | upcast (a : Expr Point) (t : SType)
  | propertyCall (p : Property) (obj : Expr Point)
  | concreteCollection (items : List (Expr Point))
  | sigmaAnd (items : List (Expr Point))
  | sigmaOr (items : List (Expr Point))

/-- What the first byte of an expression says about it. -/
inductive Opcode where
  | constant (t : SType)
  | constantPlaceholder
  | valUse
  | valDef
  | blockValue
  | leaf (op : Leaf)
  | unary (op : Unary)
  | binary (op : Binary)
  | binAnd
  | ite
  | byIndex
  | extractRegisterAs
  | upcast
  | propertyCall
  | concreteCollection
  | sigmaAnd
  | sigmaOr
  deriving DecidableEq, Repr

namespace Opcode

def code : Opcode → Byte
  | constant t => t.code
  | valUse => 0x72
  | constantPlaceholder => 0x73
  | upcast => 0x7e
  | concreteCollection => 0x83
  | binary .ge => 0x92
  | binary .eq => 0x93
  | ite => 0x95
  | binary .minus => 0x99
  | binary .multiply => 0x9c
  | binary .division => 0x9d
  | binary .modulo => 0x9e
  | leaf .height => 0xa3
  | leaf .outputs => 0xa5
  | leaf .self => 0xa7
  | byIndex => 0xb2
  | binary .append => 0xb3
  | unary .extractAmount => 0xc1
  | unary .extractScriptBytes => 0xc2
  | extractRegisterAs => 0xc6
  | unary .calcBlake2b256 => 0xcb
  | unary .createProveDlog => 0xcd
  | unary .sigmaPropBytes => 0xd0
  | unary .boolToSigmaProp => 0xd1
  | valDef => 0xd6
  | blockValue => 0xd8
  | propertyCall => 0xdb
  | unary .optionGet => 0xe4
  | sigmaAnd => 0xea
  | sigmaOr => 0xeb
  | binAnd => 0xed
  | unary .decodePoint => 0xee
  | leaf .context => 0xfe

def all : List Opcode :=
  SType.all.map constant ++
    [valUse, constantPlaceholder, upcast, concreteCollection, ite, byIndex, extractRegisterAs,
      valDef, blockValue, propertyCall, sigmaAnd, sigmaOr, binAnd] ++
    [.self, .outputs, .height, .context].map leaf ++
    [.optionGet, .decodePoint, .createProveDlog, .extractAmount, .extractScriptBytes,
      .sigmaPropBytes, .calcBlake2b256, .boolToSigmaProp].map unary ++
    [.append, .eq, .ge, .minus, .multiply, .division, .modulo].map binary

def ofCode (b : Byte) : Option Opcode := all.find? fun op => op.code == b

@[simp] theorem ofCode_code (op : Opcode) : ofCode op.code = some op := by
  cases op with
  | constant t => cases t <;> rfl
  | leaf op => cases op <;> rfl
  | unary op => cases op <;> rfl
  | binary op => cases op <;> rfl
  | _ => rfl

def reader : Reader Byte Opcode := do
  let b ← Reader.next
  Reader.ofOption (ofCode b)

theorem reads (op : Opcode) : Reads reader [op.code] op :=
  (Reads.next op.code).bind_pure (Reads.ofOption (ofCode_code op))

end Opcode

/-- The number of a register. -/
def Reg.id : Reg → Byte
  | .R4 => 4
  | .R5 => 5
  | .R6 => 6
  | .R7 => 7
  | .R8 => 8
  | .R9 => 9

def Reg.ofId (b : Byte) : Option Reg :=
  [Reg.R4, .R5, .R6, .R7, .R8, .R9].find? fun r => r.id == b

@[simp] theorem Reg.ofId_id (r : Reg) : Reg.ofId r.id = some r := by cases r <;> rfl

/-- The type that has the property, and the position of the property in it. -/
def Property.id : Property → Byte × Byte
  | .preHeader => (0x65, 0x03)
  | .parentId => (0x69, 0x02)

def Property.ofId (id : Byte × Byte) : Option Property :=
  [Property.preHeader, .parentId].find? fun p => p.id == id

@[simp] theorem Property.ofId_id (p : Property) : Property.ofId p.id = some p := by
  cases p <;> rfl

namespace Expr

/-- A statement about all trees, from one about each operation. -/
@[elab_as_elim] theorem induct {motive : Expr Point → Prop}
    (constant : ∀ c, motive (.constant c))
    (constantPlaceholder : ∀ index, motive (.constantPlaceholder index))
    (valUse : ∀ id, motive (.valUse id))
    (valDef : ∀ id rhs, motive rhs → motive (.valDef id rhs))
    (blockValue : ∀ items result, (∀ e ∈ items, motive e) → motive result →
      motive (.blockValue items result))
    (leaf : ∀ op, motive (.leaf op))
    (unary : ∀ op a, motive a → motive (.unary op a))
    (binary : ∀ op a b, motive a → motive b → motive (.binary op a b))
    (binAnd : ∀ a b, motive a → motive b → motive (.binAnd a b))
    (ite : ∀ condition yes no, motive condition → motive yes → motive no →
      motive (.ite condition yes no))
    (byIndex : ∀ coll index, motive coll → motive index → motive (.byIndex coll index))
    (extractRegisterAs : ∀ box r t, motive box → motive (.extractRegisterAs box r t))
    (upcast : ∀ a t, motive a → motive (.upcast a t))
    (propertyCall : ∀ p obj, motive obj → motive (.propertyCall p obj))
    (concreteCollection : ∀ items, (∀ e ∈ items, motive e) → motive (.concreteCollection items))
    (sigmaAnd : ∀ items, (∀ e ∈ items, motive e) → motive (.sigmaAnd items))
    (sigmaOr : ∀ items, (∀ e ∈ items, motive e) → motive (.sigmaOr items))
    (e : Expr Point) : motive e :=
  Expr.rec (motive_1 := motive) (motive_2 := fun es => ∀ e ∈ es, motive e)
    constant constantPlaceholder valUse valDef blockValue leaf unary binary binAnd ite byIndex
    extractRegisterAs upcast propertyCall concreteCollection sigmaAnd sigmaOr
    (fun _ h => absurd h List.not_mem_nil)
    (fun _ _ first rest => List.forall_mem_cons.mpr ⟨first, rest⟩) e

mutual

def serialize : Expr Point → Bytes
  | constant c => (Opcode.constant c.type).code :: c.data E
  | constantPlaceholder index => Opcode.constantPlaceholder.code :: Vlq.encode index
  | valUse id => Opcode.valUse.code :: Vlq.encode id
  | valDef id rhs => Opcode.valDef.code :: (Vlq.encode id ++ serialize rhs)
  | blockValue items result =>
      Opcode.blockValue.code ::
        (Vlq.encode items.length ++ (serializeAll items ++ serialize result))
  | leaf op => [(Opcode.leaf op).code]
  | unary op a => (Opcode.unary op).code :: serialize a
  | binary op a b => (Opcode.binary op).code :: (serialize a ++ serialize b)
  | binAnd a b => Opcode.binAnd.code :: (serialize a ++ serialize b)
  | ite condition yes no =>
      Opcode.ite.code :: (serialize condition ++ (serialize yes ++ serialize no))
  -- The zero says that there is no default value.
  | byIndex coll index => Opcode.byIndex.code :: (serialize coll ++ (serialize index ++ [0x00]))
  | extractRegisterAs box r t =>
      Opcode.extractRegisterAs.code :: (serialize box ++ ([r.id] ++ [t.code]))
  | upcast a t => Opcode.upcast.code :: (serialize a ++ [t.code])
  | propertyCall p obj => Opcode.propertyCall.code :: ([p.id.1] ++ ([p.id.2] ++ serialize obj))
  -- The only collections that are built are byte strings.
  | concreteCollection items =>
      Opcode.concreteCollection.code ::
        (Vlq.encode items.length ++ ([SType.byte.code] ++ serializeAll items))
  | sigmaAnd items => Opcode.sigmaAnd.code :: (Vlq.encode items.length ++ serializeAll items)
  | sigmaOr items => Opcode.sigmaOr.code :: (Vlq.encode items.length ++ serializeAll items)

def serializeAll : List (Expr Point) → Bytes
  | [] => []
  | e :: es => serialize e ++ serializeAll es

end

theorem serializeAll_eq (es : List (Expr Point)) :
    serializeAll E es = es.flatMap (serialize E) := by
  induction es with
  | nil => rfl
  | cons e es ih => rw [serializeAll, ih, List.flatMap_cons]

mutual

/-- How deeply the operands of a tree are nested. -/
def depth : Expr Point → Nat
  | constant c => c.depth + 1
  | constantPlaceholder _ => 1
  | valUse _ => 1
  | valDef _ rhs => depth rhs + 1
  | blockValue items result => max (depthAll items) (depth result) + 1
  | leaf _ => 1
  | unary _ a => depth a + 1
  | binary _ a b => max (depth a) (depth b) + 1
  | binAnd a b => max (depth a) (depth b) + 1
  | ite condition yes no => max (depth condition) (max (depth yes) (depth no)) + 1
  | byIndex coll index => max (depth coll) (depth index) + 1
  | extractRegisterAs box _ _ => depth box + 1
  | upcast a _ => depth a + 1
  | propertyCall _ obj => depth obj + 1
  | concreteCollection items => depthAll items + 1
  | sigmaAnd items => depthAll items + 1
  | sigmaOr items => depthAll items + 1

def depthAll : List (Expr Point) → Nat
  | [] => 0
  | e :: es => max (depth e) (depthAll es)

end

theorem depthAll_le_iff {es : List (Expr Point)} {d : Nat} :
    depthAll es ≤ d ↔ ∀ e ∈ es, e.depth ≤ d := by
  induction es with
  | nil => simp [depthAll]
  | cons e es ih => simp [depthAll, ih]

/-- What follows an operation code, with a reader for the operands. -/
def body (d : Nat) (operand : Reader Byte (Expr Point)) : Opcode → Reader Byte (Expr Point)
  | .constant t => do
      let c ← Const.reader E d t
      return constant c
  | .constantPlaceholder => do
      let index ← vlq
      return constantPlaceholder index
  | .valUse => do
      let id ← vlq
      return valUse id
  | .valDef => do
      let id ← vlq
      let rhs ← operand
      return valDef id rhs
  | .blockValue => do
      let n ← vlq
      let items ← operand.times n
      let result ← operand
      return blockValue items result
  | .leaf op => return leaf op
  | .unary op => do
      let a ← operand
      return unary op a
  | .binary op => do
      let a ← operand
      let b ← operand
      return binary op a b
  | .binAnd => do
      let a ← operand
      let b ← operand
      return binAnd a b
  | .ite => do
      let condition ← operand
      let yes ← operand
      let no ← operand
      return ite condition yes no
  | .byIndex => do
      let coll ← operand
      let index ← operand
      let default ← Reader.next
      if default = 0x00 then return byIndex coll index else Reader.fail
  | .extractRegisterAs => do
      let box ← operand
      let b ← Reader.next
      let r ← Reader.ofOption (Reg.ofId b)
      let t ← SType.reader
      return extractRegisterAs box r t
  | .upcast => do
      let a ← operand
      let t ← SType.reader
      return upcast a t
  | .propertyCall => do
      let type ← Reader.next
      let position ← Reader.next
      let p ← Reader.ofOption (Property.ofId (type, position))
      let obj ← operand
      return propertyCall p obj
  | .concreteCollection => do
      let n ← vlq
      let t ← SType.reader
      if t = .byte then
        let items ← operand.times n
        return concreteCollection items
      else Reader.fail
  | .sigmaAnd => do
      let n ← vlq
      let items ← operand.times n
      return sigmaAnd items
  | .sigmaOr => do
      let n ← vlq
      let items ← operand.times n
      return sigmaOr items

/-- A tree that is at most so deep. -/
def reader : Nat → Reader Byte (Expr Point)
  | 0 => Reader.fail
  | d + 1 => do
      let op ← Opcode.reader
      body E d (reader d) op

variable {E}

theorem reads_all {operand : Reader Byte (Expr Point)} {items : List (Expr Point)}
    (each : ∀ e ∈ items, Reads operand (e.serialize E) e) :
    Reads (operand.times items.length) (serializeAll E items) items := by
  rw [serializeAll_eq]
  exact Reads.times each

/-- An operation is read if its operands are. -/
theorem reads_of_body {e : Expr Point} {op : Opcode} {payload : Bytes} {d : Nat}
    (code : e.serialize E = op.code :: payload) (h : e.depth ≤ d)
    (inner : ∀ k, d = k + 1 → Reads (body E k (reader E k) op) payload e) :
    Reads (reader E d) (e.serialize E) e := by
  obtain ⟨k, rfl⟩ : ∃ k, d = k + 1 := by
    cases d with
    | zero => cases e <;> simp [depth] at h
    | succ k => exact ⟨k, rfl⟩
  rw [code]
  exact (Opcode.reads op).bind (inner k rfl)

/-- A tree reads back, whatever follows it. -/
theorem reads (e : Expr Point) {d : Nat} (h : e.depth ≤ d) :
    Reads (reader E d) (e.serialize E) e := by
  induction e using Expr.induct generalizing d with
  | constant c =>
      apply @reads_of_body _ E _ (.constant c.type) (c.data E) _ rfl h
      rintro k rfl
      simp only [depth, Nat.add_le_add_iff_right] at h
      exact (Const.reads E c h).bind_pure (Reads.pure _)
  | constantPlaceholder index =>
      apply @reads_of_body _ E _ .constantPlaceholder (Vlq.encode index) _ rfl h
      rintro k rfl
      exact (reads_vlq index).bind_pure (Reads.pure _)
  | valUse id =>
      apply @reads_of_body _ E _ .valUse (Vlq.encode id) _ rfl h
      rintro k rfl
      exact (reads_vlq id).bind_pure (Reads.pure _)
  | valDef id rhs ih =>
      apply @reads_of_body _ E _ .valDef _ _ rfl h
      rintro k rfl
      simp only [depth, Nat.add_le_add_iff_right] at h
      exact (reads_vlq id).bind ((ih h).bind_pure (Reads.pure _))
  | blockValue items result ihs ih =>
      apply @reads_of_body _ E _ .blockValue _ _ rfl h
      rintro k rfl
      simp only [depth, Nat.add_le_add_iff_right, Nat.max_le, depthAll_le_iff] at h
      have all := reads_all fun e he => ihs e he (h.1 e he)
      exact (reads_vlq _).bind (all.bind ((ih h.2).bind_pure (Reads.pure _)))
  | leaf op =>
      apply @reads_of_body _ E _ (.leaf op) [] _ rfl h
      rintro k rfl
      exact Reads.pure _
  | unary op a ih =>
      apply @reads_of_body _ E _ (.unary op) _ _ rfl h
      rintro k rfl
      simp only [depth, Nat.add_le_add_iff_right] at h
      exact (ih h).bind_pure (Reads.pure _)
  | binary op a b iha ihb =>
      apply @reads_of_body _ E _ (.binary op) _ _ rfl h
      rintro k rfl
      simp only [depth, Nat.add_le_add_iff_right, Nat.max_le] at h
      exact (iha h.1).bind ((ihb h.2).bind_pure (Reads.pure _))
  | binAnd a b iha ihb =>
      apply @reads_of_body _ E _ .binAnd _ _ rfl h
      rintro k rfl
      simp only [depth, Nat.add_le_add_iff_right, Nat.max_le] at h
      exact (iha h.1).bind ((ihb h.2).bind_pure (Reads.pure _))
  | ite condition yes no ihc ihy ihn =>
      apply @reads_of_body _ E _ .ite _ _ rfl h
      rintro k rfl
      simp only [depth, Nat.add_le_add_iff_right, Nat.max_le] at h
      exact (ihc h.1).bind ((ihy h.2.1).bind ((ihn h.2.2).bind_pure (Reads.pure _)))
  | byIndex coll index ihc ihi =>
      apply @reads_of_body _ E _ .byIndex _ _ rfl h
      rintro k rfl
      simp only [depth, Nat.add_le_add_iff_right, Nat.max_le] at h
      exact (ihc h.1).bind ((ihi h.2).bind (Reads.cons (Reads.pure _)))
  | extractRegisterAs box r t ih =>
      apply @reads_of_body _ E _ .extractRegisterAs _ _ rfl h
      rintro k rfl
      simp only [depth, Nat.add_le_add_iff_right] at h
      refine (ih h).bind ((Reads.next r.id).bind ?_)
      exact (Reads.ofOption (Reg.ofId_id r)).bind ((SType.reads t).bind_pure (Reads.pure _))
  | upcast a t ih =>
      apply @reads_of_body _ E _ .upcast _ _ rfl h
      rintro k rfl
      simp only [depth, Nat.add_le_add_iff_right] at h
      exact (ih h).bind ((SType.reads t).bind_pure (Reads.pure _))
  | propertyCall p obj ih =>
      apply @reads_of_body _ E _ .propertyCall _ _ rfl h
      rintro k rfl
      simp only [depth, Nat.add_le_add_iff_right] at h
      refine (Reads.next p.id.1).bind ((Reads.next p.id.2).bind ?_)
      exact (Reads.ofOption (Property.ofId_id p)).bind ((ih h).bind_pure (Reads.pure _))
  | concreteCollection items ihs =>
      apply @reads_of_body _ E _ .concreteCollection _ _ rfl h
      rintro k rfl
      simp only [depth, Nat.add_le_add_iff_right, depthAll_le_iff] at h
      have all := reads_all fun e he => ihs e he (h e he)
      exact (reads_vlq _).bind ((SType.reads .byte).bind (all.bind_pure (Reads.pure _)))
  | sigmaAnd items ihs =>
      apply @reads_of_body _ E _ .sigmaAnd _ _ rfl h
      rintro k rfl
      simp only [depth, Nat.add_le_add_iff_right, depthAll_le_iff] at h
      have all := reads_all fun e he => ihs e he (h e he)
      exact (reads_vlq _).bind (all.bind_pure (Reads.pure _))
  | sigmaOr items ihs =>
      apply @reads_of_body _ E _ .sigmaOr _ _ rfl h
      rintro k rfl
      simp only [depth, Nat.add_le_add_iff_right, depthAll_le_iff] at h
      have all := reads_all fun e he => ihs e he (h e he)
      exact (reads_vlq _).bind (all.bind_pure (Reads.pure _))

end Expr

end DuckPools.ErgoScript
