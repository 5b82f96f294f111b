import DuckPools.Backend.VlqSerializer

/-!
# What the readers of `vlq_serializer.py` raise

The readers once more, with the class of every exception and the `try` blocks as they
stand in the source: the built-in functions raise a `ValueError`, and only some of the
callers handle it. All of it is inside the `try` of `deserialize_value`, which turns every
exception into a `VLQError`. The readers of `VLQSerializer` are these without the classes.
-/

namespace DuckPools.Backend.VLQSerializer

inductive PythonError where
  | VLQError (message : String)
  | ValueError (message : String)

/-- `str(e)` -/
def PythonError.message : PythonError → String
  | VLQError message => message
  | ValueError message => message

namespace Raising

/-- `bytes.fromhex(s)` -/
def fromhex (s : Text) : Except PythonError Bytes :=
  match Py.bytesFromhex s with
  | none => throw (.ValueError "non-hexadecimal number found in fromhex() arg")
  | some bytes => return bytes

/-- `int(s, 16)` -/
def int16 (s : Text) : Except PythonError Int :=
  match Py.int 16 s with
  | none => throw (.ValueError "invalid literal for int() with base 16")
  | some n => return n

def decode_vlq (hex_str : Text) : Except PythonError Int := do
  let bytes_data ← tryCatch (fromhex hex_str) fun
    | .ValueError _ => throw (.VLQError s!"Invalid hex string: {String.ofList hex_str}")
    | e => throw e
  return (Integers.readVlq bytes_data 0 0).1

def deserialize (name : String) (tag hex_str : Text) : Except PythonError Int := do
  if !tag.isPrefixOf hex_str then
    throw (.VLQError s!"Invalid {name} type tag: {String.ofList hex_str}")
  let vlq_hex := hex_str.drop 2
  let zigzag ← decode_vlq vlq_hex
  return Integers.zigzagDecode zigzag

def length_hex : Text → Except PythonError Text
  | hi :: lo :: rest => do
      let byte ← int16 [hi, lo]
      if Int.land byte 0x80 = 0 then return [hi, lo]
      else
        let more ← length_hex rest
        return hi :: lo :: more
  | _ => return []

/-- The `try` block of `deserialize_coll_byte`. -/
def read_coll_byte (remaining : Text) : Except PythonError Bytes := do
  let length_hex ← length_hex remaining
  let length ← decode_vlq length_hex
  let data_hex := remaining.drop length_hex.length
  if ((data_hex.length / 2 : Nat) : Int) ≠ length then
    throw (.VLQError
      s!"Coll[Byte] length mismatch: expected {length}, got {data_hex.length / 2}")
  fromhex data_hex

def deserialize_coll_byte (hex_str : Text) : Except PythonError Bytes :=
  if !COLL_BYTE_TAG.isPrefixOf hex_str then
    throw (.VLQError s!"Invalid Coll[Byte] type tag: {String.ofList hex_str}")
  else
    let remaining := hex_str.drop 2
    let remaining :=
      if COLL_BYTE_ELEM_TAG.isPrefixOf remaining then remaining.drop 2 else remaining
    tryCatch (read_coll_byte remaining) fun e =>
      throw (.VLQError s!"Failed to deserialize Coll[Byte]: {e.message}")

def deserialize_sigma_prop (hex_str : Text) : Except PythonError Bytes :=
  if !SIGMA_PROP_TAG.isPrefixOf hex_str then
    throw (.VLQError s!"Invalid SigmaProp type tag: {String.ofList hex_str}")
  else
    let pk_hex := hex_str.drop 4
    if pk_hex.length ≠ 66 then
      throw (.VLQError s!"SigmaProp requires 66 hex chars (33 bytes), got {pk_hex.length}")
    else
      tryCatch (fromhex pk_hex) fun
        | .ValueError _ => throw (.VLQError s!"Invalid SigmaProp hex: {String.ofList pk_hex}")
        | e => throw e

def deserialize_value (hex_str : Text) : Except PythonError RawValue :=
  let read : Except PythonError RawValue :=
    if INT_TAG.isPrefixOf hex_str then (deserialize "Int" INT_TAG hex_str).map .number
    else if LONG_TAG.isPrefixOf hex_str then (deserialize "Long" LONG_TAG hex_str).map .number
    else if COLL_BYTE_TAG.isPrefixOf hex_str then (deserialize_coll_byte hex_str).map .bytes
    else if SIGMA_PROP_TAG.isPrefixOf hex_str then (deserialize_sigma_prop hex_str).map .bytes
    else throw (.VLQError s!"Unknown Ergo value type: {String.ofList (hex_str.take 4)}...")
  tryCatch read fun e => throw (.VLQError s!"Failed to deserialize value: {e.message}")

end Raising

/-- The run without the classes of its exceptions. -/
def messages {α : Type} (x : Except PythonError α) : Except String α :=
  x.mapError PythonError.message

theorem messages_bind {α β : Type} (x : Except PythonError α) (f : α → Except PythonError β) :
    messages (x >>= f) = messages x >>= fun a => messages (f a) := by
  cases x <;> rfl

theorem messages_map {α β : Type} (x : Except PythonError α) (f : α → β) :
    messages (x.map f) = (messages x).map f := by
  cases x <;> rfl

theorem messages_decode_vlq (hex_str : Text) :
    messages (Raising.decode_vlq hex_str) = decode_vlq hex_str := by
  rw [Raising.decode_vlq, Raising.fromhex, decode_vlq]
  cases Py.bytesFromhex hex_str <;> rfl

theorem messages_deserialize (name : String) (tag hex_str : Text) :
    messages (Raising.deserialize name tag hex_str) = deserialize name tag hex_str := by
  rw [Raising.deserialize, deserialize]
  cases tag.isPrefixOf hex_str with
  | false => rfl
  | true =>
      show messages (Raising.decode_vlq (hex_str.drop 2) >>= fun zigzag =>
          return Integers.zigzagDecode zigzag) =
        decode_vlq (hex_str.drop 2) >>= fun zigzag => return Integers.zigzagDecode zigzag
      rw [messages_bind, messages_decode_vlq]
      rfl

/-- The scan raises where a pair is no number. -/
theorem messages_length_hex (remaining : Text) :
    messages (Raising.length_hex remaining) =
      match length_hex remaining with
      | none => throw "invalid literal for int() with base 16"
      | some scanned => return scanned := by
  induction remaining using length_hex.induct with
  | case1 hi lo rest ih =>
      rw [Raising.length_hex, length_hex, Raising.int16]
      cases Py.int 16 [hi, lo] with
      | none => rfl
      | some byte =>
          by_cases last : Int.land byte 0x80 = 0
          · simp only [Option.bind_eq_bind, Option.bind_some, if_pos last, pure_bind]
            rfl
          · simp only [Option.bind_eq_bind, Option.bind_some, if_neg last, pure_bind,
              messages_bind, ih]
            cases length_hex rest <;> rfl
  | case2 remaining short =>
      rw [Raising.length_hex, length_hex]
      · rfl
      · exact short
      · exact short

theorem messages_read_coll_byte (remaining : Text) :
    messages (Raising.read_coll_byte remaining) = read_coll_byte remaining := by
  rw [Raising.read_coll_byte, read_coll_byte, messages_bind, messages_length_hex]
  cases length_hex remaining with
  | none => rfl
  | some scanned =>
      simp only [pure_bind, messages_bind, messages_decode_vlq]
      congr 1
      funext length
      split
      · rfl
      · rw [Raising.fromhex]
        cases Py.bytesFromhex (remaining.drop scanned.length) <;> rfl

theorem messages_deserialize_coll_byte (hex_str : Text) :
    messages (Raising.deserialize_coll_byte hex_str) = deserialize_coll_byte hex_str := by
  rw [Raising.deserialize_coll_byte, deserialize_coll_byte]
  split
  · rfl
  · simp only [← messages_read_coll_byte]
    generalize Raising.read_coll_byte _ = read
    cases read <;> rfl

theorem messages_deserialize_sigma_prop (hex_str : Text) :
    messages (Raising.deserialize_sigma_prop hex_str) = deserialize_sigma_prop hex_str := by
  rw [Raising.deserialize_sigma_prop, deserialize_sigma_prop]
  split
  · rfl
  · dsimp only
    split
    · rfl
    · rw [Raising.fromhex]
      cases Py.bytesFromhex (hex_str.drop 4) <;> rfl

/-- Whatever is raised on the way, what is let out is a `VLQError`. -/
theorem raising_deserialize_value (hex_str : Text) :
    Raising.deserialize_value hex_str = (deserialize_value hex_str).mapError .VLQError := by
  have caught : ∀ {read : Except PythonError RawValue} {read' : Except String RawValue},
      messages read = read' →
        tryCatch read
          (fun e => throw (.VLQError s!"Failed to deserialize value: {e.message}")) =
          (read'.mapError fun e => s!"Failed to deserialize value: {e}").mapError
            PythonError.VLQError := by
    rintro (_ | _) _ rfl <;> rfl
  rw [Raising.deserialize_value, deserialize_value]
  apply caught
  split_ifs
  · rw [messages_map, messages_deserialize]
    rfl
  · rw [messages_map, messages_deserialize]
    rfl
  · rw [messages_map, messages_deserialize_coll_byte]
  · rw [messages_map, messages_deserialize_sigma_prop]
  · rfl

end DuckPools.Backend.VLQSerializer
