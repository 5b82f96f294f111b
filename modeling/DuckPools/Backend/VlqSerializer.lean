import DuckPools.Codec.Integers
import DuckPools.Language.Exceptions
import DuckPools.Language.PythonText

/-!
# `backend/vlq_serializer.py`

The signed types of `VLQSerializer`: a type tag and the groups of the folded number, as
text. Python integers are unbounded, so the range of each type is an explicit check, and
a reader accepts folded numbers of any length. What is raised is the message of a
`VLQError`.

A byte collection has its length in groups, and an element type in front of it in one of
its two formats. The reader takes a leading `01` for the element type, so it reads a
collection of one byte in the format without one as something else.
-/

namespace DuckPools.Backend

inductive ErgoType where
  | INT
  | LONG
  | COLL_BYTE
  | SIGMA_PROP
  deriving DecidableEq

structure SerializedValue where
  value : Text
  type : ErgoType
  raw_value : Int
  deriving DecidableEq

/-- A `SerializedValue` whose raw value is a byte string. -/
structure SerializedBytes where
  value : Text
  type : ErgoType
  raw_value : Bytes
  deriving DecidableEq

/-- What `deserialize_value` returns. -/
inductive RawValue where
  | number (value : Int)
  | bytes (value : Bytes)
  deriving DecidableEq

namespace VLQSerializer

def INT_TAG : Text := ['0', '2']
def LONG_TAG : Text := ['0', '4']

def encode_vlq (value : Int) : Text :=
  if value = 0 then ['0', '0'] else Hex.encode (Integers.vlqGroups value)

def decode_vlq (hex_str : Text) : Except String Int :=
  match Py.bytesFromhex hex_str with
  | none => throw s!"Invalid hex string: {String.ofList hex_str}"
  | some bytes_data => return (Integers.readVlq bytes_data 0 0).1

/-- A signed number between `lowest` and `highest`, whose sign bit is at `sign`. -/
def serialize (name : String) (bits sign : Nat) (lowest highest : Int) (tag : Text)
    (type : ErgoType) (value : Int) : Except String SerializedValue := do
  if value < lowest ∨ value > highest then
    throw s!"{name} value out of {bits}-bit range: {value}"
  let zigzag := Integers.zigzagEncode sign value
  let vlq_hex := encode_vlq zigzag
  return { value := tag ++ vlq_hex, type, raw_value := value }

def deserialize (name : String) (tag hex_str : Text) : Except String Int := do
  if !tag.isPrefixOf hex_str then
    throw s!"Invalid {name} type tag: {String.ofList hex_str}"
  let vlq_hex := hex_str.drop 2
  let zigzag ← decode_vlq vlq_hex
  return Integers.zigzagDecode zigzag

def COLL_BYTE_TAG : Text := ['0', 'e']
def SIGMA_PROP_TAG : Text := ['0', '8', 'c', 'd']
def COLL_BYTE_ELEM_TAG : Text := ['0', '1']

def serialize_int (value : Int) : Except String SerializedValue :=
  serialize "Int" 32 31 (-2147483648) 2147483647 INT_TAG .INT value

def serialize_long (value : Int) : Except String SerializedValue :=
  serialize "Long" 64 63 (-9223372036854775808) 9223372036854775807 LONG_TAG .LONG value

def deserialize_int (hex_str : Text) : Except String Int := deserialize "Int" INT_TAG hex_str

def deserialize_long (hex_str : Text) : Except String Int := deserialize "Long" LONG_TAG hex_str

def serialize_coll_byte (data : Bytes) (sbyte_included : Bool := false) : SerializedBytes :=
  let hex_data := Hex.encode data
  let serialized :=
    if sbyte_included then COLL_BYTE_TAG ++ (encode_vlq data.length ++ hex_data)
    else COLL_BYTE_TAG ++ (COLL_BYTE_ELEM_TAG ++ (encode_vlq data.length ++ hex_data))
  { value := serialized, type := .COLL_BYTE, raw_value := data }

/-- The text of the length: byte pairs up to the first one without the top bit. A pair that
is not a number is a `ValueError`. -/
def length_hex : Text → Option Text
  | hi :: lo :: rest => do
      let byte ← Py.int 16 [hi, lo]
      if Int.land byte 0x80 = 0 then return [hi, lo]
      else
        let more ← length_hex rest
        return hi :: lo :: more
  | _ => some []

/-- Length and data, after the tags. -/
def read_coll_byte (remaining : Text) : Except String Bytes :=
  match length_hex remaining with
  | none => throw "invalid literal for int() with base 16"
  | some length_hex => do
      let length ← decode_vlq length_hex
      let data_hex := remaining.drop length_hex.length
      if ((data_hex.length / 2 : Nat) : Int) ≠ length then
        throw s!"Coll[Byte] length mismatch: expected {length}, got {data_hex.length / 2}"
      match Py.bytesFromhex data_hex with
      | none => throw "non-hexadecimal number found in fromhex() arg"
      | some data => return data

def deserialize_coll_byte (hex_str : Text) : Except String Bytes :=
  if !COLL_BYTE_TAG.isPrefixOf hex_str then
    throw s!"Invalid Coll[Byte] type tag: {String.ofList hex_str}"
  else
    let remaining := hex_str.drop 2
    let remaining :=
      if COLL_BYTE_ELEM_TAG.isPrefixOf remaining then remaining.drop 2 else remaining
    (read_coll_byte remaining).mapError fun e => s!"Failed to deserialize Coll[Byte]: {e}"

def serialize_sigma_prop (public_key : Bytes) : Except String SerializedBytes :=
  if public_key.length ≠ 33 then
    throw s!"SigmaProp requires 33-byte public key, got {public_key.length} bytes"
  else
    return { value := SIGMA_PROP_TAG ++ Hex.encode public_key, type := .SIGMA_PROP,
             raw_value := public_key }

def deserialize_sigma_prop (hex_str : Text) : Except String Bytes :=
  if !SIGMA_PROP_TAG.isPrefixOf hex_str then
    throw s!"Invalid SigmaProp type tag: {String.ofList hex_str}"
  else
    let pk_hex := hex_str.drop 4
    if pk_hex.length ≠ 66 then
      throw s!"SigmaProp requires 66 hex chars (33 bytes), got {pk_hex.length}"
    else
      match Py.bytesFromhex pk_hex with
      | none => throw s!"Invalid SigmaProp hex: {String.ofList pk_hex}"
      | some public_key => return public_key

/-- The type is the one `detect_type` detects. -/
def deserialize_value (hex_str : Text) : Except String RawValue :=
  let read : Except String RawValue :=
    if INT_TAG.isPrefixOf hex_str then (deserialize_int hex_str).map .number
    else if LONG_TAG.isPrefixOf hex_str then (deserialize_long hex_str).map .number
    else if COLL_BYTE_TAG.isPrefixOf hex_str then (deserialize_coll_byte hex_str).map .bytes
    else if SIGMA_PROP_TAG.isPrefixOf hex_str then (deserialize_sigma_prop hex_str).map .bytes
    else throw s!"Unknown Ergo value type: {String.ofList (hex_str.take 4)}..."
  read.mapError fun e => s!"Failed to deserialize value: {e}"

def detect_type (hex_str : Text) : Option ErgoType :=
  if INT_TAG.isPrefixOf hex_str then some .INT
  else if LONG_TAG.isPrefixOf hex_str then some .LONG
  else if COLL_BYTE_TAG.isPrefixOf hex_str then some .COLL_BYTE
  else if SIGMA_PROP_TAG.isPrefixOf hex_str then some .SIGMA_PROP
  else none

theorem encode_vlq_natCast (n : Nat) : encode_vlq n = Hex.encode (Vlq.encode n) := by
  cases n with
  | zero => rw [Vlq.encode_of_lt (by decide)]; rfl
  | succ n =>
      rw [encode_vlq, if_neg (by omega), Integers.vlqGroups_natCast (Nat.succ_pos n)]

theorem decode_vlq_encode (n : Nat) : decode_vlq (Hex.encode (Vlq.encode n)) = .ok (n : Int) := by
  have read := Integers.readVlq_encode_zero n []
  rw [List.append_nil] at read
  rw [decode_vlq, Py.bytesFromhex_of_decode (Hex.decode_encode _)]
  simp only [read]
  rfl

/-- Serialization succeeds exactly on the range, with the code of the folded number. -/
theorem serialize_eq_ok {sign : Nat} {lowest highest value : Int} (name : String) (bits : Nat)
    (tag : Text) (type : ErgoType) (hlowest : lowest = -2 ^ sign)
    (hhighest : highest = 2 ^ sign - 1)
    (hlo : lowest ≤ value) (hhi : value ≤ highest) :
    serialize name bits sign lowest highest tag type value =
      .ok
        { value := tag ++ Hex.encode (Vlq.encode (Vlq.zigzag value))
          type
          raw_value := value } := by
  have folded : Integers.zigzagEncode sign value = Vlq.zigzag value := by
    apply Integers.zigzagEncode_eq
    · rw [← hlowest]
      exact hlo
    · omega
  have inRange : ¬ (value < lowest ∨ value > highest) := by omega
  simp only [serialize, if_neg inRange, folded, encode_vlq_natCast]
  rfl

theorem deserialize_eq_ok {tag : Text} (name : String) (n : Int) (htag : tag.length = 2) :
    deserialize name tag (tag ++ Hex.encode (Vlq.encode (Vlq.zigzag n))) = .ok n := by
  have accepted : tag.isPrefixOf (tag ++ Hex.encode (Vlq.encode (Vlq.zigzag n))) = true := by
    rw [List.isPrefixOf_iff_prefix]
    exact List.prefix_append _ _
  have rest : (tag ++ Hex.encode (Vlq.encode (Vlq.zigzag n))).drop 2 =
      Hex.encode (Vlq.encode (Vlq.zigzag n)) := by
    rw [← htag, List.drop_left]
  simp only [deserialize, accepted, Bool.not_true, Bool.false_eq_true, if_false, rest,
    decode_vlq_encode]
  show Except.ok _ = _
  rw [Integers.zigzagDecode_zigzag]

/-- Text that starts with a tag does not start with another one of its length. -/
theorem isPrefixOf_append_eq_false {tag other rest : Text} (hlength : tag.length = other.length)
    (hne : tag ≠ other) : tag.isPrefixOf (other ++ rest) = false := by
  rw [Bool.eq_false_iff, ne_eq, List.isPrefixOf_iff_prefix]
  intro h
  exact hne (List.prefix_of_prefix_length_le h (List.prefix_append other rest) hlength.le
    |>.eq_of_length hlength)

theorem isPrefixOf_append (tag rest : Text) : tag.isPrefixOf (tag ++ rest) = true := by
  rw [List.isPrefixOf_iff_prefix]
  exact List.prefix_append _ _

/-- A pair of digits is the last of the scan if its top bit is clear. -/
theorem length_hex_pair {hi lo : Char} {h l : Nat} (rest : Text) (hh : Hex.value hi = some h)
    (hl : Hex.value lo = some l) :
    length_hex (hi :: lo :: rest) =
      if (Hex.pair h l).toNat < 128 then some [hi, lo]
      else (length_hex rest).map (hi :: lo :: ·) := by
  have small := (Hex.digit_of_value hh).1
  have small' := (Hex.digit_of_value hl).1
  have byte : (Hex.pair h l).toNat = 16 * h + l := by
    rw [Hex.pair, BitVec.toNat_ofNat]
    omega
  have stops := Integers.land_top_eq_zero_iff (Hex.pair h l)
  rw [byte] at stops
  have unfolded : length_hex (hi :: lo :: rest) =
      (Py.int 16 [hi, lo]).bind fun byte =>
        if Int.land byte 0x80 = 0 then some [hi, lo]
        else (length_hex rest).bind fun more => some (hi :: lo :: more) := rfl
  rw [unfolded, Py.int_pair hh hl, Option.bind_some, byte]
  by_cases last : 16 * h + l < 128
  · rw [if_pos (stops.mpr last), if_pos last]
  · rw [if_neg (mt stops.mp last), if_neg last]
    cases length_hex rest <;> rfl

theorem length_hex_ofByte (b : Byte) (rest : Text) :
    length_hex (Hex.ofByte b ++ rest) =
      if b.toNat < 128 then some (Hex.ofByte b)
      else (length_hex rest).map (Hex.ofByte b ++ ·) := by
  have hb := b.isLt
  have scan := length_hex_pair rest (Hex.value_digit (by omega : b.toNat / 16 < 16))
    (Hex.value_digit (by omega : b.toNat % 16 < 16))
  rwa [Hex.pair_halves] at scan

/-- The scan ends behind the last group, whatever follows. -/
theorem length_hex_encode (bs : Bytes) :
    length_hex (Hex.encode bs) = some (Hex.encode (Vlq.groups bs)) := by
  induction bs with
  | nil => rfl
  | cons b rest ih =>
      rw [Hex.encode_cons, length_hex_ofByte, Vlq.groups]
      by_cases last : b.toNat < 128
      · rw [if_pos last, if_pos last]
        exact congrArg some (List.append_nil _).symm
      · rw [if_neg last, if_neg last, ih, Hex.encode_cons]
        rfl

theorem decode_vlq_eq_ok_iff {hex_str : Text} {length : Int} :
    decode_vlq hex_str = .ok length ↔
      ∃ bytes, Py.bytesFromhex hex_str = some bytes ∧
        length = (Vlq.value (Vlq.groups bytes) : Int) := by
  rw [decode_vlq]
  cases Py.bytesFromhex hex_str with
  | none => exact iff_of_false (fun h => by cases h) (by rintro ⟨_, ⟨⟩, _⟩)
  | some bytes =>
      simp only [Integers.readVlq_zero, Exceptions.pure_eq_ok_iff, Option.some.injEq,
        exists_eq_left']
      exact eq_comm

/-- The data are the text behind the scanned one, whose number is half as large as that text
is long. -/
theorem read_coll_byte_eq_ok_iff {remaining : Text} {data : Bytes} :
    read_coll_byte remaining = .ok data ↔
      ∃ scanned bytes, length_hex remaining = some scanned ∧
        Py.bytesFromhex scanned = some bytes ∧
        (remaining.drop scanned.length).length / 2 = Vlq.value (Vlq.groups bytes) ∧
        Py.bytesFromhex (remaining.drop scanned.length) = some data := by
  rw [read_coll_byte]
  cases length_hex remaining with
  | none => exact iff_of_false (fun h => by cases h) (by rintro ⟨_, _, ⟨⟩, _⟩)
  | some scanned =>
      simp only [Exceptions.bind_eq_ok_iff, decode_vlq_eq_ok_iff, Option.some.injEq]
      constructor
      · rintro ⟨_, ⟨bytes, read, rfl⟩, accepted⟩
        split_ifs at accepted with counts
        · cases accepted
        · refine ⟨scanned, bytes, rfl, read, Int.ofNat_inj.mp (not_not.mp counts), ?_⟩
          split at accepted
          · cases accepted
          · rename_i data' read'
            cases accepted
            exact read'
      · rintro ⟨_, bytes, rfl, read, counts, read'⟩
        refine ⟨_, ⟨bytes, read, rfl⟩, ?_⟩
        rw [counts, if_neg (not_not.mpr rfl), read']
        rfl

/-- On the text of bytes, what is returned is what follows the length, if the length is the
number of bytes that follow. -/
theorem read_coll_byte_hex_iff {bs data : Bytes} :
    read_coll_byte (Hex.encode bs) = .ok data ↔
      (Vlq.behind bs).length = Vlq.value (Vlq.groups bs) ∧ data = Vlq.behind bs := by
  have split : Hex.encode bs = Hex.encode (Vlq.groups bs) ++ Hex.encode (Vlq.behind bs) := by
    rw [← Hex.encode_append, Vlq.groups_append_behind]
  have rest : (Hex.encode bs).drop (Hex.encode (Vlq.groups bs)).length =
      Hex.encode (Vlq.behind bs) := by
    rw [split, List.drop_left]
  have count : (Hex.encode (Vlq.behind bs)).length / 2 = (Vlq.behind bs).length := by
    rw [Hex.length_of_decode (Hex.decode_encode (Vlq.behind bs))]
    omega
  rw [read_coll_byte_eq_ok_iff]
  simp only [length_hex_encode, Option.some.injEq, exists_and_left, exists_eq_left', rest, count,
    Py.bytesFromhex_of_decode (Hex.decode_encode _), Vlq.groups_groups]
  exact and_congr_right fun _ => eq_comm

theorem read_coll_byte_encode (data : Bytes) :
    read_coll_byte (Hex.encode (Vlq.encode data.length ++ data)) = .ok data := by
  obtain ⟨number, left⟩ := Vlq.groups_encode_append data.length data
  apply read_coll_byte_hex_iff.mpr
  rw [number, left]
  exact ⟨rfl, rfl⟩

/-- The text of a byte string starts with that of its first byte only. -/
theorem isPrefixOf_encode {b : Byte} {bytes : Bytes} :
    (Hex.ofByte b).isPrefixOf (Hex.encode bytes) = true ↔ bytes.head? = some b := by
  cases bytes with
  | nil => exact iff_of_false Bool.false_ne_true (fun h => by cases h)
  | cons c rest =>
      rw [Hex.encode_cons, List.head?_cons, Option.some.injEq]
      constructor
      · intro h
        by_contra hcb
        have differ : Hex.ofByte b ≠ Hex.ofByte c := by
          intro he
          have same : Hex.encode [b] = Hex.encode [c] := by
            rw [Hex.encode_cons, Hex.encode_cons, he]
          exact hcb (List.cons.inj (Hex.encode_injective same)).1.symm
        have same : (Hex.ofByte b).length = (Hex.ofByte c).length := rfl
        rw [isPrefixOf_append_eq_false same differ] at h
        exact Bool.false_ne_true h
      · rintro rfl
        exact isPrefixOf_append _ _

theorem collByteTag_isPrefixOf_encode {bytes : Bytes} :
    COLL_BYTE_TAG.isPrefixOf (Hex.encode bytes) = true ↔ bytes.head? = some 0x0e :=
  @isPrefixOf_encode 0x0e bytes

/-- What the length of a collection is read from: the text behind its element type, if there is
one. -/
def behindElement (payload : Text) : Text :=
  if COLL_BYTE_ELEM_TAG.isPrefixOf payload then payload.drop 2 else payload

theorem behindElement_encode (bytes : Bytes) :
    behindElement (Hex.encode bytes) =
      Hex.encode (if bytes.head? = some 0x01 then bytes.drop 1 else bytes) := by
  have element : COLL_BYTE_ELEM_TAG.isPrefixOf (Hex.encode bytes) = true ↔
      bytes.head? = some 0x01 := @isPrefixOf_encode 0x01 bytes
  rw [behindElement]
  by_cases first : bytes.head? = some 0x01
  · rw [if_pos (element.mpr first), if_pos first]
    exact Hex.drop_encode bytes 1
  · rw [if_neg (mt element.mp first), if_neg first]

theorem deserialize_coll_byte_eq_ok_iff {hex_str : Text} {data : Bytes} :
    deserialize_coll_byte hex_str = .ok data ↔
      COLL_BYTE_TAG.isPrefixOf hex_str = true ∧
        read_coll_byte (behindElement (hex_str.drop 2)) = .ok data := by
  rw [deserialize_coll_byte]
  cases COLL_BYTE_TAG.isPrefixOf hex_str with
  | false => exact iff_of_false (fun h => by cases h) (fun h => Bool.false_ne_true h.1)
  | true => exact Exceptions.mapError_eq_ok_iff.trans (and_iff_right rfl).symm

/-- A collection behind its element type is read in full. -/
theorem deserialize_coll_byte_element (data : Bytes) :
    deserialize_coll_byte (Hex.encode (0x0e :: 0x01 :: (Vlq.encode data.length ++ data))) =
      .ok data := by
  apply deserialize_coll_byte_eq_ok_iff.mpr
  refine ⟨collByteTag_isPrefixOf_encode.mpr rfl, ?_⟩
  show read_coll_byte (behindElement
    (Hex.encode (0x01 :: (Vlq.encode data.length ++ data)))) = .ok data
  rw [behindElement_encode, List.head?_cons, if_pos rfl]
  exact read_coll_byte_encode data

/-- Without an element type, a collection is read in full unless it has one byte. -/
theorem deserialize_coll_byte_plain_iff (data : Bytes) :
    deserialize_coll_byte (Hex.encode (0x0e :: (Vlq.encode data.length ++ data))) = .ok data ↔
      data.length ≠ 1 := by
  have element : (Vlq.encode data.length ++ data).head? = some 0x01 ↔ data.length = 1 := by
    rw [List.head?_append_of_ne_nil _ (Vlq.encode_ne_nil _)]
    exact Vlq.head_encode_eq_one_iff _
  rw [deserialize_coll_byte_eq_ok_iff, and_iff_right (collByteTag_isPrefixOf_encode.mpr rfl)]
  show read_coll_byte (behindElement (Hex.encode (Vlq.encode data.length ++ data))) = .ok data ↔ _
  rw [behindElement_encode]
  by_cases hone : data.length = 1
  · obtain ⟨x, rfl⟩ := List.length_eq_one_iff.mp hone
    refine iff_of_false ?_ (not_not.mpr hone)
    -- The byte is taken for the length, and no text is left for the data.
    have scanned : (Vlq.encode [x].length ++ [x]).drop 1 = [x] := by
      rw [List.length_singleton, Vlq.encode_of_lt (by decide)]
      rfl
    have noData : Vlq.behind [x] = [] := by
      rw [Vlq.behind]
      split <;> rfl
    rw [if_pos (element.mpr hone), scanned, read_coll_byte_hex_iff, noData]
    exact fun h => List.cons_ne_nil x [] h.2
  · rw [if_neg (mt element.mp hone)]
    exact iff_of_true (read_coll_byte_encode data) hone

theorem serialize_coll_byte_plain (data : Bytes) :
    (serialize_coll_byte data true).value =
      Hex.encode (0x0e :: (Vlq.encode data.length ++ data)) := by
  have split : Hex.encode (Vlq.encode data.length ++ data) =
      Hex.encode (Vlq.encode data.length) ++ Hex.encode data := List.flatMap_append
  rw [serialize_coll_byte, if_pos rfl, encode_vlq_natCast, ← split]
  rfl

theorem serialize_coll_byte_element (data : Bytes) :
    (serialize_coll_byte data).value =
      Hex.encode (0x0e :: 0x01 :: (Vlq.encode data.length ++ data)) := by
  have split : Hex.encode (Vlq.encode data.length ++ data) =
      Hex.encode (Vlq.encode data.length) ++ Hex.encode data := List.flatMap_append
  rw [serialize_coll_byte, if_neg Bool.false_ne_true, encode_vlq_natCast, ← split]
  rfl

end VLQSerializer
end DuckPools.Backend
