import DuckPools.Codec.Integers
import DuckPools.Language.Exceptions
import DuckPools.Language.JavaScript
import DuckPools.Language.Numbers
import DuckPools.Sdk.Types

/-!
# `sdk/src/serialization`

The constants that the SDK writes into registers, and its decoders. Text goes through
`Buffer.from(hex, 'hex')` on every call, which never throws; what is thrown is a wrong
type tag, or, on an empty buffer, the attempt to print the tag that is not there.

The readers of `Option` and `Pair` find the end of a value with
`getSerializedValueLength`, and everything after the value is part of what they read.
A length past `2 ^ 53` would be rounded; no buffer is that long, so it is exact here.
-/

namespace DuckPools.Sdk

def encodeVLQ (value : Int) : Bytes := if value = 0 then [0x00] else Integers.vlqGroups value

def zigZagEncode (value : Int) : Int := Integers.zigzagEncode 63 value

def zigZagEncodeInt (value : Int) : Int := (Js.zigzagEncode32 value).toInt

def serializeInt (value : Int) : Text :=
  let zigzag := zigZagEncodeInt value
  let vlq := encodeVLQ (if zigzag < 0 then zigzag + 0x100000000 else zigzag)
  Js.bytesToHex (0x02 :: vlq)

def serializeLong (value : Int) : Text :=
  let zigzag := zigZagEncode value
  let vlq := encodeVLQ zigzag
  Js.bytesToHex (0x04 :: vlq)

def serializeCollByte (data : Text) : Text :=
  let buffer := Js.bufferFromHex data
  let length := encodeVLQ buffer.length
  Js.bytesToHex (0x0e :: 0x01 :: (length ++ buffer))

def serializeSigmaProp (publicKey : Text) : Except SdkError Text :=
  let pkBuffer := Js.bufferFromHex publicKey
  if pkBuffer.length ≠ 33 then
    throw (.serializationError "Public key must be 33 bytes" (.lengths 33 pkBuffer.length))
  else return Js.bytesToHex (0x08 :: 0xcd :: pkBuffer)

def serializeBoolean (value : Bool) : Text := Js.bytesToHex [if value then 0x07 else 0x06]

/-- `serializeOption` and `serializePair` are its last three cases. -/
def serializeSValue : SValue → Except SdkError Text
  | .int value => return serializeInt value
  | .long value => return serializeLong value
  | .collByte value | .collSByte value => return serializeCollByte value
  | .sigmaProp value => serializeSigmaProp value
  | .boolean value => return serializeBoolean value
  | .none => return Js.bytesToHex [0x0b]
  | .some value => do
      let inner ← serializeSValue value
      return Js.bytesToHex (0x0b :: Js.bufferFromHex inner)
  | .pair left right => do
      let leftSerialized ← serializeSValue left
      let rightSerialized ← serializeSValue right
      return Js.bytesToHex
        (0x0d :: (Js.bufferFromHex leftSerialized ++ Js.bufferFromHex rightSerialized))

structure VlqResult where
  value : Int
  offset : Nat

def decodeVLQ (buffer : Bytes) (offset : Nat) : VlqResult :=
  let (value, rest) := Integers.readVlq (buffer.drop offset) 0 0
  { value, offset := max offset (buffer.length - rest.length) }

/-- The `throw` of a decoder whose tag is not there. -/
def wrongTag (message : String) (buffer : Bytes) : SdkError :=
  match buffer.head? with
  | none => .typeError "Cannot read properties of undefined (reading 'toString')"
  | some tag => .serializationError message (.prefixText (Js.byteToString16 tag))

def deserializeInt (hex : Text) : Except SdkError Int :=
  let buffer := Js.bufferFromHex hex
  if buffer.head? ≠ some 0x02 then throw (wrongTag "Not an IntConstant" buffer)
  else return Js.zigzagDecode32 (Js.numberOfBigInt (decodeVLQ buffer 1).value)

def deserializeLong (hex : Text) : Except SdkError Int :=
  let buffer := Js.bufferFromHex hex
  if buffer.head? ≠ some 0x04 then throw (wrongTag "Not a LongConstant" buffer)
  else return Integers.zigzagDecode (decodeVLQ buffer 1).value

/-- Where the length of a `Coll[Byte]` starts: behind an element type, if there is one. -/
def collOffset (buffer : Bytes) : Nat := if buffer[1]? = some 0x01 then 2 else 1

def deserializeCollByte (hex : Text) : Except SdkError Bytes :=
  let buffer := Js.bufferFromHex hex
  if buffer.head? ≠ some 0x0e then throw (wrongTag "Not a Coll[Byte]" buffer)
  else
    let length := decodeVLQ buffer (collOffset buffer)
    return Js.slice buffer length.offset (length.offset + length.value)

def deserializeBoolean (hex : Text) : Except SdkError Bool :=
  let buffer := Js.bufferFromHex hex
  if buffer.head? ≠ some 0x06 ∧ buffer.head? ≠ some 0x07 then
    throw (wrongTag "Not a Boolean" buffer)
  else return buffer.head? = some 0x07

def getSerializedValueLength (typeTag : Option Byte) (buffer : Bytes) : Nat :=
  if typeTag = some 0x06 ∨ typeTag = some 0x07 then 1
  else if typeTag = some 0x0b then 1
  else if typeTag = some 0x02 then (decodeVLQ buffer 1).offset
  else if typeTag = some 0x04 then (decodeVLQ buffer 1).offset
  else if typeTag = some 0x0e then
    let length := decodeVLQ buffer (collOffset buffer)
    length.offset + length.value.toNat
  else buffer.length

/-- A buffer with a first byte comes from at least two characters. -/
theorem length_of_head {hex : Text} {b : Byte} (h : (Js.bufferFromHex hex).head? = some b) :
    2 ≤ hex.length := by
  match hex with
  | [] => simp [Js.bufferFromHex] at h
  | [_] => simp [Js.bufferFromHex] at h
  | _ :: _ :: rest => simp only [List.length_cons]; omega

/-! Every call of the readers goes to what is left behind a tag or a value. -/

mutual

def deserializeSValue (hex : Text) : Except SdkError SValue :=
  let typeTag := (Js.bufferFromHex hex).head?
  if typeTag = some 0x02 then (deserializeInt hex).map .int
  else if typeTag = some 0x04 then (deserializeLong hex).map .long
  else if typeTag = some 0x0e then
    (deserializeCollByte hex).map fun bytes => .collByte (Js.bytesToHex bytes)
  else if typeTag = some 0x08 then return .sigmaProp (hex.drop 2)
  else if typeTag = some 0x06 ∨ typeTag = some 0x07 then (deserializeBoolean hex).map .boolean
  else if typeTag = some 0x0b then deserializeOption hex
  else if typeTag = some 0x0d then deserializePair hex
  else throw (.serializationError "Unknown SValue type tag" (.typeTag typeTag))
termination_by (hex.length, 1)

/-- The value comes back as an `Option`, `null` as its empty case. -/
def deserializeOption (hex : Text) : Except SdkError SValue :=
  let buffer := Js.bufferFromHex hex
  if _h : buffer.head? = some 0x0b then
    if buffer.length = 1 then return .none
    else (deserializeSValue (hex.drop 2)).map .some
  else throw (wrongTag "Not an Option" buffer)
termination_by (hex.length, 0)
decreasing_by
  have hlen := length_of_head ‹_›
  simp only [List.length_drop]
  exact Prod.Lex.left _ _ (by omega)

def deserializePair (hex : Text) : Except SdkError SValue :=
  let buffer := Js.bufferFromHex hex
  if _h : buffer.head? = some 0x0d then do
    let leftHex := hex.drop 2
    let left ← deserializeSValue leftHex
    let leftBuffer := Js.bufferFromHex leftHex
    let offset := 1 + getSerializedValueLength leftBuffer.head? leftBuffer
    let right ← deserializeSValue (hex.drop (offset * 2))
    return .pair left right
  else throw (wrongTag "Not a Pair" buffer)
termination_by (hex.length, 0)
decreasing_by
  all_goals
    have hlen := length_of_head ‹_›
    simp only [List.length_drop]
    exact Prod.Lex.left _ _ (by omega)

end

theorem encodeVLQ_natCast (n : Nat) : encodeVLQ n = Vlq.encode n := by
  cases n with
  | zero => rw [Vlq.encode_of_lt (by decide)]; rfl
  | succ n => rw [encodeVLQ, if_neg (by omega), Integers.vlqGroups_natCast (Nat.succ_pos n)]

theorem serializeInt_eq {n : Int} (hlo : -2 ^ 31 ≤ n) (hhi : n < 2 ^ 31) :
    serializeInt n = Hex.encode (0x02 :: Vlq.encode (Vlq.zigzag n)) := by
  have word := Js.toNat_zigzagEncode32 hlo hhi
  have unsigned : (if zigZagEncodeInt n < 0 then zigZagEncodeInt n + 0x100000000
      else zigZagEncodeInt n) = Vlq.zigzag n := by
    have hlt := (Js.zigzagEncode32 n).isLt
    rw [← word, zigZagEncodeInt, BitVec.toInt_eq_toNat_cond]
    split <;> split <;> omega
  simp only [serializeInt, unsigned, encodeVLQ_natCast, Js.bytesToHex]

theorem serializeLong_eq {n : Int} (hlo : -2 ^ 63 ≤ n) (hhi : n < 2 ^ 63) :
    serializeLong n = Hex.encode (0x04 :: Vlq.encode (Vlq.zigzag n)) := by
  simp only [serializeLong, zigZagEncode, Integers.zigzagEncode_eq hlo hhi, encodeVLQ_natCast,
    Js.bytesToHex]

theorem decodeVLQ_encode (front : Bytes) (n : Nat) (rest : Bytes) :
    decodeVLQ (front ++ (Vlq.encode n ++ rest)) front.length =
      { value := n, offset := front.length + (Vlq.encode n).length } := by
  simp only [decodeVLQ, List.drop_left, Integers.readVlq_encode_zero, VlqResult.mk.injEq, true_and,
    List.length_append]
  omega

theorem decodeVLQ_tag (tag : Byte) (n : Nat) (rest : Bytes) :
    decodeVLQ (tag :: (Vlq.encode n ++ rest)) 1 =
      { value := n, offset := (tag :: Vlq.encode n).length } := by
  have read := decodeVLQ_encode [tag] n rest
  rw [List.singleton_append, List.length_singleton] at read
  rw [read, List.length_cons, Nat.add_comm]

theorem decodeVLQ_element (tag element : Byte) (n : Nat) (rest : Bytes) :
    decodeVLQ (tag :: element :: (Vlq.encode n ++ rest)) 2 =
      { value := n, offset := (tag :: element :: Vlq.encode n).length } := by
  have read := decodeVLQ_encode [tag, element] n rest
  rw [List.cons_append, List.singleton_append] at read
  rw [show 2 = [tag, element].length from rfl, read]
  simp only [List.length_cons, List.length_nil, VlqResult.mk.injEq, true_and]
  omega

theorem serializeCollByte_eq (data : Text) :
    serializeCollByte data = Hex.encode (0x0e :: 0x01 ::
      (Vlq.encode (Js.bufferFromHex data).length ++ Js.bufferFromHex data)) := by
  simp only [serializeCollByte, encodeVLQ_natCast, Js.bytesToHex]

/-- A number is read back, whatever follows it. -/
theorem deserializeInt_encode {n : Int} (hlo : -2 ^ 31 ≤ n) (hhi : n < 2 ^ 31) (rest : Bytes) :
    deserializeInt (Hex.encode (0x02 :: (Vlq.encode (Vlq.zigzag n) ++ rest))) = .ok n := by
  have hlt : Vlq.zigzag n < 2 ^ 53 := Nat.lt_trans (Js.zigzag_lt hlo hhi) (by decide)
  simp only [deserializeInt, Js.bufferFromHex_encode, List.head?_cons, ne_eq, not_true_eq_false,
    if_false, decodeVLQ_tag, Js.numberOfBigInt_natCast hlt, Js.zigzagDecode32_zigzag hlo hhi]
  rfl

theorem deserializeLong_encode (n : Int) (rest : Bytes) :
    deserializeLong (Hex.encode (0x04 :: (Vlq.encode (Vlq.zigzag n) ++ rest))) = .ok n := by
  simp only [deserializeLong, Js.bufferFromHex_encode, List.head?_cons, ne_eq, not_true_eq_false,
    if_false, decodeVLQ_tag, Integers.zigzagDecode_zigzag]
  rfl

theorem deserializeCollByte_encode (bytes rest : Bytes) :
    deserializeCollByte (Hex.encode (0x0e :: 0x01 ::
      (Vlq.encode bytes.length ++ (bytes ++ rest)))) = .ok bytes := by
  have slice := Js.slice_between (0x0e :: 0x01 :: Vlq.encode bytes.length) bytes rest
  rw [List.cons_append, List.cons_append, Nat.cast_add] at slice
  simp only [deserializeCollByte, Js.bufferFromHex_encode, List.head?_cons, ne_eq,
    not_true_eq_false, if_false, collOffset, List.getElem?_cons_succ, List.getElem?_cons_zero,
    if_true, decodeVLQ_element, slice]
  rfl

/-- The SDK reads back the bytes of a collection that it has written. -/
theorem deserializeCollByte_serialize (data : Text) :
    deserializeCollByte (serializeCollByte data) = .ok (Js.bufferFromHex data) := by
  have read := deserializeCollByte_encode (Js.bufferFromHex data) []
  rw [List.append_nil] at read
  rw [serializeCollByte_eq, read]

end DuckPools.Sdk
