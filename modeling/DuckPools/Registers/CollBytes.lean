import DuckPools.Backend.VlqSerializer
import DuckPools.Frontend.Registers
import DuckPools.Sdk.Serialization

/-!
# Byte collections in two formats, three readers

Behind the tag `0e` a collection has its length and its bytes, in one format with the
element type `01` in between. A reader is not told the format: it takes a byte `01` behind
the tag for the element type. Without an element type that byte is the length of a
collection of one byte, which none of the three readers returns, and it is the first byte
of no other length.

The reader of the frontend counts in signed words of 32 bits, so it is wrong from 2 ^ 31
bytes on as well, in both formats.
-/

namespace DuckPools.Registers

/-- `0e 01 VLQ(len) data` -/
def formatA (data : Bytes) : Text :=
  Hex.encode (0x0e :: 0x01 :: (Vlq.encode data.length ++ data))

/-- `0e VLQ(len) data` -/
def formatB (data : Bytes) : Text := Hex.encode (0x0e :: (Vlq.encode data.length ++ data))

/-- All three readers return `data`. -/
structure ReadByAll (text : Text) (data : Bytes) : Prop where
  backend : Backend.VLQSerializer.deserialize_coll_byte text = .ok data
  sdk : Sdk.deserializeCollByte text = .ok data
  frontend : Frontend.decodeCollByte text = data

/-- Both formats of `data` are read, and so is what the backend writes. -/
structure BothFormatsRead (data : Bytes) : Prop where
  withElement : ReadByAll (formatA data) data
  plain : ReadByAll (formatB data) data
  roundTrip : ∀ sbyte_included : Bool,
    Backend.VLQSerializer.deserialize_coll_byte
      (Backend.VLQSerializer.serialize_coll_byte data sbyte_included).value = .ok data

theorem sdk_formatA (data : Bytes) : Sdk.deserializeCollByte (formatA data) = .ok data := by
  have read := Sdk.deserializeCollByte_encode data []
  rwa [List.append_nil] at read

/-- The second byte is 01 exactly if the length is. -/
theorem second_byte_iff (tag : Byte) (data : Bytes) :
    (tag :: (Vlq.encode data.length ++ data))[1]? = some 0x01 ↔ data.length = 1 := by
  rw [← Vlq.head_encode_eq_one_iff, List.getElem?_cons_succ]
  cases h : Vlq.encode data.length with
  | nil => exact absurd h (Vlq.encode_ne_nil _)
  | cons b bs => rfl

/-- The bytes of a collection of one byte, without an element type. -/
theorem formatB_singleton (x : Byte) : formatB [x] = Hex.encode [0x0e, 0x01, x] := by
  rw [formatB, List.length_singleton, Vlq.encode_of_lt (by decide)]
  rfl

theorem sdk_formatB_iff (data : Bytes) :
    Sdk.deserializeCollByte (formatB data) = .ok data ↔ data.length ≠ 1 := by
  by_cases hone : data.length = 1
  · obtain ⟨x, rfl⟩ := List.length_eq_one_iff.mp hone
    refine iff_of_false ?_ (not_not.mpr hone)
    have behind : (Sdk.decodeVLQ [0x0e, 0x01, x] 2).offset = 3 := by
      have rest : (Integers.readVlq [x] 0 0).2 = [] := by
        rw [Integers.readVlq]
        split <;> rfl
      show max 2 (3 - (Integers.readVlq [x] 0 0).2.length) = 3
      rw [rest]
      rfl
    have offset : Sdk.collOffset [0x0e, 0x01, x] = 2 := rfl
    have empty : ∀ stop, Js.slice [0x0e, 0x01, x] ((3 : Nat) : Int) stop = [] := fun stop =>
      Js.slice_eq_nil stop le_rfl
    rw [formatB_singleton, Sdk.deserializeCollByte]
    simp only [Js.bufferFromHex_encode, List.head?_cons, ne_eq, not_true_eq_false, if_false,
      offset, behind, empty]
    intro h
    cases h
  · refine iff_of_true ?_ hone
    have slice := Js.slice_append (0x0e :: Vlq.encode data.length) data
    have offset : Sdk.collOffset (0x0e :: (Vlq.encode data.length ++ data)) = 1 :=
      if_neg (mt (second_byte_iff 0x0e data).mp hone)
    rw [formatB, Sdk.deserializeCollByte]
    simp only [Js.bufferFromHex_encode, List.head?_cons, ne_eq, not_true_eq_false, if_false,
      offset, Sdk.decodeVLQ_tag]
    exact congrArg Except.ok slice

theorem frontend_formatA_iff (data : Bytes) :
    Frontend.decodeCollByte (formatA data) = data ↔ data.length < 2 ^ 31 :=
  @Frontend.decodeCollByte_behind_iff [0x0e, 0x01] data rfl

theorem frontend_formatB_iff (data : Bytes) :
    Frontend.decodeCollByte (formatB data) = data ↔ data.length ≠ 1 ∧ data.length < 2 ^ 31 := by
  by_cases hone : data.length = 1
  · obtain ⟨x, rfl⟩ := List.length_eq_one_iff.mp hone
    refine iff_of_false ?_ (fun h => h.1 hone)
    have rest : (Frontend.decodeVlq [x] 0 0).2 = [] := by
      rw [Frontend.decodeVlq]
      split <;> rfl
    have empty : Frontend.decodeCollByte (Hex.encode [0x0e, 0x01, x]) = [] := by
      simp only [Frontend.decodeCollByte, Frontend.hexToBytes_encode, List.getElem?_cons_succ,
        List.getElem?_cons_zero, if_true, List.drop_succ_cons, List.drop_zero, rest]
      exact Js.slice_eq_nil _ le_rfl
    rw [formatB_singleton, empty]
    exact (List.cons_ne_nil x []).symm
  · have behind := @Frontend.decodeCollByte_behind_iff [0x0e] data
      (if_neg (mt (second_byte_iff 0x0e data).mp hone))
    exact behind.trans (Iff.symm (and_iff_right hone))

/-- The backend reads what it writes with an element type, and what it writes without one
unless that is a single byte. -/
theorem backend_roundTrip_iff (data : Bytes) :
    (∀ sbyte_included : Bool,
      Backend.VLQSerializer.deserialize_coll_byte
        (Backend.VLQSerializer.serialize_coll_byte data sbyte_included).value = .ok data) ↔
      data.length ≠ 1 := by
  rw [← Backend.VLQSerializer.deserialize_coll_byte_plain_iff,
    ← Backend.VLQSerializer.serialize_coll_byte_plain]
  constructor
  · intro h
    exact h true
  · intro h sbyte_included
    cases sbyte_included with
    | true => exact h
    | false =>
        rw [Backend.VLQSerializer.serialize_coll_byte_element]
        exact Backend.VLQSerializer.deserialize_coll_byte_element data

/-- Both formats are read by everyone exactly if the collection does not have one byte and
its length fits a signed word. -/
theorem bothFormatsRead_iff (data : Bytes) :
    BothFormatsRead data ↔ data.length ≠ 1 ∧ data.length < 2 ^ 31 := by
  constructor
  · intro h
    exact (frontend_formatB_iff data).mp h.plain.frontend
  · intro h
    have withElement : ReadByAll (formatA data) data :=
      ⟨Backend.VLQSerializer.deserialize_coll_byte_element data, sdk_formatA data,
        (frontend_formatA_iff data).mpr h.2⟩
    have plain : ReadByAll (formatB data) data :=
      ⟨(Backend.VLQSerializer.deserialize_coll_byte_plain_iff data).mpr h.1,
        (sdk_formatB_iff data).mpr h.1, (frontend_formatB_iff data).mpr h⟩
    exact ⟨withElement, plain, (backend_roundTrip_iff data).mpr h.1⟩

/-- No reader returns the collection of the byte 5 from the format without element type. -/
theorem single_byte_not_read :
    ¬ ∀ data : Bytes, BothFormatsRead data := by
  intro h
  have read := (h [0x05]).plain.sdk
  exact (sdk_formatB_iff [0x05]).mp read rfl

end DuckPools.Registers
