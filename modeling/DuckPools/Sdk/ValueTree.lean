import DuckPools.Codec.OptionTree
import DuckPools.Sdk.Serialization

/-!
# Register values as trees

`SValue` takes any number and any text. Up to the spelling of hexadecimal digits and the
two names of byte collections, the well-formed values are the trees over `Leaf`, whose
leaves are in range by construction. The format is prefix notation on these trees, one
code a token, so what a reader can know of a value is what its tokens determine.
-/

namespace DuckPools.Sdk

open OptionTree (Token)

/-- The values without components. -/
inductive Leaf where
  | int (n : Int32)
  | long (n : Int64)
  | coll (bytes : Bytes)
  | sigmaProp (key : {bytes : Bytes // bytes.length = 33})
  | boolean (value : Bool)
  deriving DecidableEq

namespace SValue

/-- Hexadecimal text in lower case, and `Coll[SByte]` under its other name. -/
def normal : SValue → SValue
  | int value => int value
  | long value => long value
  | collByte value => collByte (Js.toLowerCase value)
  | collSByte value => collByte (Js.toLowerCase value)
  | sigmaProp value => sigmaProp (Js.toLowerCase value)
  | boolean value => boolean value
  | none => none
  | some value => some value.normal
  | pair left right => pair left.normal right.normal

/-- Numbers in the range of their type, hexadecimal text, keys of 33 bytes. -/
def WellFormed : SValue → Prop
  | int value => -2 ^ 31 ≤ value ∧ value < 2 ^ 31
  | long value => -2 ^ 63 ≤ value ∧ value < 2 ^ 63
  | collByte value => ∃ bytes, Hex.decode value = Option.some bytes
  | collSByte value => ∃ bytes, Hex.decode value = Option.some bytes
  | sigmaProp value => ∃ bytes, Hex.decode value = Option.some bytes ∧ bytes.length = 33
  | boolean _ => True
  | none => True
  | some value => value.WellFormed
  | pair left right => left.WellFormed ∧ right.WellFormed

def ofLeaf : Leaf → SValue
  | .int n => int n.toInt
  | .long n => long n.toInt
  | .coll bytes => collByte (Hex.encode bytes)
  | .sigmaProp key => sigmaProp (Hex.encode key.val)
  | .boolean value => boolean value

def ofTree : OptionTree Leaf → SValue
  | .leaf a => ofLeaf a
  | .none => none
  | .some t => some (ofTree t)
  | .pair l r => pair (ofTree l) (ofTree r)

end SValue

/-- The code of a leaf: its tag and its data. -/
def Leaf.bytes : Leaf → Bytes
  | int n => 0x02 :: Vlq.encode (Vlq.zigzag n.toInt)
  | long n => 0x04 :: Vlq.encode (Vlq.zigzag n.toInt)
  | coll bytes => 0x0e :: 0x01 :: (Vlq.encode bytes.length ++ bytes)
  | sigmaProp key => 0x08 :: 0xcd :: key.val
  | boolean value => [if value then 0x07 else 0x06]

def tokenBytes : Token Leaf → Bytes
  | .leaf a => a.bytes
  | .option => [0x0b]
  | .pair => [0x0d]

def treeBytes (t : OptionTree Leaf) : Bytes := t.tokens.flatMap tokenBytes

@[simp] theorem treeBytes_leaf (a : Leaf) : treeBytes (.leaf a) = a.bytes := by
  simp [treeBytes, OptionTree.tokens, tokenBytes]

@[simp] theorem treeBytes_none : treeBytes .none = [0x0b] := rfl

@[simp] theorem treeBytes_some (t : OptionTree Leaf) :
    treeBytes (.some t) = 0x0b :: treeBytes t := rfl

@[simp] theorem treeBytes_pair (l r : OptionTree Leaf) :
    treeBytes (.pair l r) = 0x0d :: (treeBytes l ++ treeBytes r) := by
  simp [treeBytes, OptionTree.tokens, tokenBytes]

section Tokens

/-- The token at the front of `bytes`. -/
def readToken : Bytes → Option (Token Leaf × Bytes)
  | [] => none
  | tag :: data =>
      if tag = 0x02 then
        (Vlq.decode data).map fun (n, rest) => (.leaf (.int (Int32.ofInt (Vlq.unzigzag n))), rest)
      else if tag = 0x04 then
        (Vlq.decode data).map fun (n, rest) => (.leaf (.long (Int64.ofInt (Vlq.unzigzag n))), rest)
      else if tag = 0x0e then
        (Vlq.decode (data.drop 1)).map fun (n, rest) => (.leaf (.coll (rest.take n)), rest.drop n)
      else if tag = 0x08 then
        if h : ((data.drop 1).take 33).length = 33 then
          some (.leaf (.sigmaProp ⟨(data.drop 1).take 33, h⟩), (data.drop 1).drop 33)
        else none
      else if tag = 0x07 then some (.leaf (.boolean true), data)
      else if tag = 0x06 then some (.leaf (.boolean false), data)
      else if tag = 0x0b then some (.option, data)
      else if tag = 0x0d then some (.pair, data)
      else none

theorem readToken_append (token : Token Leaf) (rest : Bytes) :
    readToken (tokenBytes token ++ rest) = some (token, rest) := by
  cases token with
  | leaf a =>
      cases a with
      | int n => simp [tokenBytes, Leaf.bytes, readToken]
      | long n => simp [tokenBytes, Leaf.bytes, readToken]
      | coll bytes => simp [tokenBytes, Leaf.bytes, readToken]
      | sigmaProp key =>
          have htake : (key.val ++ rest).take 33 = key.val := List.take_left' key.property
          have hdrop : (key.val ++ rest).drop 33 = rest := List.drop_left' key.property
          simp [tokenBytes, Leaf.bytes, readToken, htake, hdrop, key.property]
      | boolean value => cases value <;> simp [tokenBytes, Leaf.bytes, readToken]
  | option => simp [tokenBytes, readToken]
  | pair => simp [tokenBytes, readToken]

theorem tokenBytes_ne_nil (token : Token Leaf) : tokenBytes token ≠ [] := by
  cases token with
  | leaf a => cases a <;> simp [tokenBytes, Leaf.bytes]
  | option => simp [tokenBytes]
  | pair => simp [tokenBytes]

/-- Bytes determine the tokens that they are the code of. -/
theorem tokens_of_bytes {xs ys : List (Token Leaf)}
    (h : xs.flatMap tokenBytes = ys.flatMap tokenBytes) : xs = ys := by
  induction xs generalizing ys with
  | nil =>
      cases ys with
      | nil => rfl
      | cons y ys => simp [tokenBytes_ne_nil y] at h
  | cons x xs ih =>
      cases ys with
      | nil => simp [tokenBytes_ne_nil x] at h
      | cons y ys =>
          rw [List.flatMap_cons, List.flatMap_cons] at h
          have hread := readToken_append x (xs.flatMap tokenBytes)
          rw [h, readToken_append y] at hread
          obtain ⟨rfl, htail⟩ := Prod.mk.inj (Option.some.inj hread)
          rw [ih htail.symm]

theorem treeBytes_eq_iff {s t : OptionTree Leaf} :
    treeBytes s = treeBytes t ↔ s.tokens = t.tokens := by
  constructor
  · intro h
    exact tokens_of_bytes h
  · intro h
    rw [treeBytes, treeBytes, h]

end Tokens

namespace SValue

theorem wellFormed_ofTree (t : OptionTree Leaf) : (ofTree t).WellFormed := by
  induction t with
  | leaf a =>
      cases a with
      | int n => exact ⟨n.le_toInt, n.toInt_lt⟩
      | long n => exact ⟨n.le_toInt, n.toInt_lt⟩
      | coll bytes => exact ⟨bytes, Hex.decode_encode bytes⟩
      | sigmaProp key => exact ⟨key.val, Hex.decode_encode key.val, key.property⟩
      | boolean value => trivial
  | none => trivial
  | some t ih => exact ih
  | pair l r ihl ihr => exact ⟨ihl, ihr⟩

@[simp] theorem normal_ofTree (t : OptionTree Leaf) : (ofTree t).normal = ofTree t := by
  induction t with
  | leaf a =>
      cases a with
      | int n => rfl
      | long n => rfl
      | coll bytes => simp only [ofTree, ofLeaf, normal, Js.toLowerCase, Hex.map_toLower_encode]
      | sigmaProp key => simp only [ofTree, ofLeaf, normal, Js.toLowerCase, Hex.map_toLower_encode]
      | boolean value => rfl
  | none => rfl
  | some t ih => rw [ofTree, normal, ih]
  | pair l r ihl ihr => rw [ofTree, normal, ihl, ihr]

theorem ofLeaf_injective : Function.Injective ofLeaf := by
  intro a b h
  cases a <;> cases b <;> simp only [ofLeaf, int.injEq, long.injEq, collByte.injEq,
    sigmaProp.injEq, boolean.injEq, reduceCtorEq] at h
  · rw [Int32.toInt_inj.mp h]
  · rw [Int64.toInt_inj.mp h]
  · rw [Hex.encode_injective h]
  · rw [Subtype.ext (Hex.encode_injective h)]
  · rw [h]

theorem ofTree_injective : Function.Injective ofTree := by
  intro s t h
  induction s generalizing t with
  | leaf a =>
      cases t with
      | leaf b => rw [ofLeaf_injective h]
      | none => cases a <;> simp [ofTree, ofLeaf] at h
      | some t => cases a <;> simp [ofTree, ofLeaf] at h
      | pair l r => cases a <;> simp [ofTree, ofLeaf] at h
  | none =>
      cases t with
      | leaf b => cases b <;> simp [ofTree, ofLeaf] at h
      | none => rfl
      | some t => simp [ofTree] at h
      | pair l r => simp [ofTree] at h
  | some s ih =>
      cases t with
      | leaf b => cases b <;> simp [ofTree, ofLeaf] at h
      | none => simp [ofTree] at h
      | some t => rw [ih (some.inj h)]
      | pair l r => simp [ofTree] at h
  | pair l r ihl ihr =>
      cases t with
      | leaf b => cases b <;> simp [ofTree, ofLeaf] at h
      | none => simp [ofTree] at h
      | some t => simp [ofTree] at h
      | pair l' r' =>
          obtain ⟨hl, hr⟩ := pair.inj h
          rw [ihl hl, ihr hr]

/-- A well-formed value is a tree, and its text is the code of the tree. -/
theorem exists_tree {v : SValue} (h : v.WellFormed) :
    ∃ t, v.normal = ofTree t ∧ serializeSValue v = .ok (Hex.encode (treeBytes t)) := by
  induction v with
  | int value =>
      obtain ⟨hlo, hhi⟩ := h
      have read : (Int32.ofInt value).toInt = value := Int32.toInt_ofInt_of_le hlo hhi
      refine ⟨.leaf (.int (Int32.ofInt value)), ?_, ?_⟩
      · rw [normal, ofTree, ofLeaf, read]
      · rw [serializeSValue, serializeInt_eq hlo hhi, treeBytes_leaf, Leaf.bytes, read]
        rfl
  | long value =>
      obtain ⟨hlo, hhi⟩ := h
      have read : (Int64.ofInt value).toInt = value := Int64.toInt_ofInt_of_le hlo hhi
      refine ⟨.leaf (.long (Int64.ofInt value)), ?_, ?_⟩
      · rw [normal, ofTree, ofLeaf, read]
      · rw [serializeSValue, serializeLong_eq hlo hhi, treeBytes_leaf, Leaf.bytes, read]
        rfl
  | collByte value =>
      obtain ⟨bytes, hbytes⟩ := h
      refine ⟨.leaf (.coll bytes), ?_, ?_⟩
      · rw [normal, ofTree, ofLeaf, Js.toLowerCase, Hex.map_toLower_of_decode hbytes]
      · rw [serializeSValue, serializeCollByte_eq, Js.bufferFromHex_of_decode hbytes,
          treeBytes_leaf]
        rfl
  | collSByte value =>
      obtain ⟨bytes, hbytes⟩ := h
      refine ⟨.leaf (.coll bytes), ?_, ?_⟩
      · rw [normal, ofTree, ofLeaf, Js.toLowerCase, Hex.map_toLower_of_decode hbytes]
      · rw [serializeSValue, serializeCollByte_eq, Js.bufferFromHex_of_decode hbytes,
          treeBytes_leaf]
        rfl
  | sigmaProp value =>
      obtain ⟨bytes, hbytes, hlen⟩ := h
      refine ⟨.leaf (.sigmaProp ⟨bytes, hlen⟩), ?_, ?_⟩
      · rw [normal, ofTree, ofLeaf, Js.toLowerCase, Hex.map_toLower_of_decode hbytes]
      · simp only [serializeSValue, serializeSigmaProp, Js.bufferFromHex_of_decode hbytes, hlen,
          ne_eq, not_true_eq_false, if_false, Js.bytesToHex, treeBytes_leaf, Leaf.bytes]
        rfl
  | boolean value =>
      refine ⟨.leaf (.boolean value), rfl, ?_⟩
      rw [serializeSValue, treeBytes_leaf]
      rfl
  | none => exact ⟨.none, rfl, rfl⟩
  | some value ih =>
      obtain ⟨t, hnormal, htext⟩ := ih h
      refine ⟨.some t, ?_, ?_⟩
      · rw [normal, ofTree, hnormal]
      · rw [serializeSValue, htext, Exceptions.ok_bind,
          Js.bufferFromHex_encode, treeBytes_some]
        rfl
  | pair left right ihl ihr =>
      obtain ⟨l, hl, hltext⟩ := ihl h.1
      obtain ⟨r, hr, hrtext⟩ := ihr h.2
      refine ⟨.pair l r, ?_, ?_⟩
      · rw [normal, ofTree, hl, hr]
      · rw [serializeSValue, hltext, hrtext, Exceptions.ok_bind, Exceptions.ok_bind,
          Js.bufferFromHex_encode,
          Js.bufferFromHex_encode, treeBytes_pair]
        rfl

end SValue
end DuckPools.Sdk
