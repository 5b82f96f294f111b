import DuckPools.Registers.CollBytes

/-!
# When the three readers of byte collections agree

The same text goes through three readers, which check different things. The backend wants
the tag and exactly as many bytes as the length says. The SDK wants the tag, and returns as
many bytes as there are. The frontend wants nothing and counts in words of 32 bits. None of
them asks whether the length ends.

On the text of a byte string they agree exactly if the backend returns something, and not
more than a signed word can count.
-/

namespace DuckPools.Registers

/-- The ten digits and the letters up to f, without capitals. -/
def lowerDigits : Text := (List.range 16).map Hex.digit

example : lowerDigits = "0123456789abcdef".toList := by decide

/-- An even number of digits in lower case. -/
structure LowerHex (text : Text) : Prop where
  even : text.length % 2 = 0
  digits : ∀ c ∈ text, c ∈ lowerDigits

/-- The readers all reject the text, or they return the same bytes. The one of the frontend
rejects nothing. -/
structure Agree (text : Text) : Prop where
  sdk : (Sdk.deserializeCollByte text).toOption =
    (Backend.VLQSerializer.deserialize_coll_byte text).toOption
  frontend : some (Frontend.decodeCollByte text) =
    (Backend.VLQSerializer.deserialize_coll_byte text).toOption

/-- What the length is read from: the bytes behind the tag, and behind an element type. -/
def counted (bytes : Bytes) : Bytes := bytes.drop (Sdk.collOffset bytes)

/-- A collection in either format: its length is followed by as many bytes, no more than a
signed word can count. In place of length and bytes there may be a part of a zero, of any
number of groups. -/
structure Collection (bytes : Bytes) : Prop where
  tag : bytes.head? = some 0x0e
  length : (∃ data, Vlq.decode (counted bytes) = some (data.length, data) ∧
      data.length < 2 ^ 31) ∨
    ∀ b ∈ counted bytes, b = 0x80

theorem mem_lowerDigits_iff {c : Char} : c ∈ lowerDigits ↔ ∃ n < 16, c = Hex.digit n := by
  simp only [lowerDigits, List.mem_map, List.mem_range, eq_comm]

theorem lowerHex_encode (bytes : Bytes) : LowerHex (Hex.encode bytes) := by
  constructor
  · rw [Hex.length_of_decode (Hex.decode_encode bytes)]
    omega
  · intro c hc
    obtain ⟨b, _, hc⟩ := List.mem_flatMap.mp hc
    have hb := b.isLt
    simp only [Hex.ofByte, List.mem_cons, List.not_mem_nil, or_false] at hc
    obtain rfl | rfl := hc
    · exact mem_lowerDigits_iff.mpr ⟨_, by omega, rfl⟩
    · exact mem_lowerDigits_iff.mpr ⟨_, by omega, rfl⟩

/-- Such text is the text of a byte string. -/
theorem LowerHex.exists_eq_encode : ∀ {text : Text}, LowerHex text →
    ∃ bytes, text = Hex.encode bytes
  | [], _ => ⟨[], rfl⟩
  | [_], h => absurd h.even (by simp)
  | hi :: lo :: rest, h => by
      have tail : LowerHex rest := by
        refine ⟨?_, fun c hc => h.digits c (List.mem_cons_of_mem _ (List.mem_cons_of_mem _ hc))⟩
        have even := h.even
        simp only [List.length_cons] at even
        omega
      obtain ⟨bytes, rfl⟩ := tail.exists_eq_encode
      obtain ⟨high, hhigh, rfl⟩ := mem_lowerDigits_iff.mp (h.digits hi List.mem_cons_self)
      obtain ⟨low, hlow, rfl⟩ :=
        mem_lowerDigits_iff.mp (h.digits lo (List.mem_cons_of_mem _ List.mem_cons_self))
      refine ⟨Hex.pair high low :: bytes, ?_⟩
      rw [Hex.encode_cons, Hex.ofByte_pair hhigh hlow]
      rfl

/-- Behind the tag there is what the length is read from, with or without an element type. -/
theorem counted_cons (tag : Byte) (rest : Bytes) :
    counted (tag :: rest) = if rest.head? = some 0x01 then rest.drop 1 else rest := by
  rw [counted, Sdk.collOffset, List.getElem?_cons_succ, ← List.head?_eq_getElem?]
  split <;> rfl

/-- The text that the length is read from is what comes before it. -/
theorem exists_front {bytes : Bytes} (h : bytes ≠ []) :
    ∃ front, bytes = front ++ Vlq.behind (counted bytes) ∧
      max (Sdk.collOffset bytes) (bytes.length - (Vlq.behind (counted bytes)).length) =
        front.length := by
  have short : Sdk.collOffset bytes ≤ bytes.length := by
    rw [Sdk.collOffset]
    split
    · rename_i element
      obtain ⟨long, _⟩ := List.getElem?_eq_some_iff.mp element
      exact long
    · exact List.length_pos_of_ne_nil h
  refine ⟨bytes.take (Sdk.collOffset bytes) ++ Vlq.groups (counted bytes), ?_, ?_⟩
  · rw [List.append_assoc, Vlq.groups_append_behind, counted, List.take_append_drop]
  · have total : (Vlq.groups (counted bytes)).length + (Vlq.behind (counted bytes)).length =
        bytes.length - Sdk.collOffset bytes := by
      rw [← List.length_append, Vlq.groups_append_behind, counted, List.length_drop]
    rw [List.length_append, List.length_take_of_le short]
    omega

theorem backend_eq_ok_iff {bytes data : Bytes} :
    Backend.VLQSerializer.deserialize_coll_byte (Hex.encode bytes) = .ok data ↔
      bytes.head? = some 0x0e ∧
        (Vlq.behind (counted bytes)).length = Vlq.value (Vlq.groups (counted bytes)) ∧
        data = Vlq.behind (counted bytes) := by
  rw [Backend.VLQSerializer.deserialize_coll_byte_eq_ok_iff,
    Backend.VLQSerializer.collByteTag_isPrefixOf_encode]
  apply and_congr_right
  intro tag
  cases bytes with
  | nil => cases tag
  | cons b rest =>
      have behindTag : (Hex.encode (b :: rest)).drop 2 = Hex.encode rest := rfl
      rw [behindTag, Backend.VLQSerializer.behindElement_encode, ← counted_cons b rest]
      exact Backend.VLQSerializer.read_coll_byte_hex_iff

/-- With the tag, the SDK returns as many of the bytes behind the length as there are. -/
theorem sdk_eq_ok {bytes : Bytes} (tag : bytes.head? = some 0x0e) :
    Sdk.deserializeCollByte (Hex.encode bytes) =
      .ok ((Vlq.behind (counted bytes)).take (Vlq.value (Vlq.groups (counted bytes)))) := by
  have notEmpty : bytes ≠ [] := by
    rintro rfl
    cases tag
  obtain ⟨front, split, start⟩ := exists_front notEmpty
  have slice := Js.slice_take front (Vlq.behind (counted bytes))
    (Vlq.value (Vlq.groups (counted bytes)))
  rw [← split, Nat.cast_add] at slice
  have behindElement : bytes.drop (Sdk.collOffset bytes) = counted bytes := rfl
  rw [Sdk.deserializeCollByte]
  simp only [Js.bufferFromHex_encode, tag, ne_eq, not_true_eq_false, if_false, Sdk.decodeVLQ,
    behindElement, Integers.readVlq_zero, start, slice]
  rfl

/-- The frontend returns all the bytes that the length counts if a signed word holds it. -/
theorem frontend_eq_iff {bytes : Bytes} (notEmpty : bytes ≠ [])
    (counts : (Vlq.behind (counted bytes)).length = Vlq.value (Vlq.groups (counted bytes))) :
    Frontend.decodeCollByte (Hex.encode bytes) = Vlq.behind (counted bytes) ↔
      Vlq.value (Vlq.groups (counted bytes)) < 2 ^ 31 := by
  obtain ⟨front, split, start⟩ := exists_front notEmpty
  have offset : (if bytes[1]? = some 0x01 then 2 else 1) = Sdk.collOffset bytes := rfl
  have behindElement : bytes.drop (Sdk.collOffset bytes) = counted bytes := rfl
  have read : Frontend.decodeCollByte (Hex.encode bytes) =
      Js.slice (front ++ Vlq.behind (counted bytes)) (front.length : Nat)
        (front.length + (Frontend.decodeVlq (counted bytes) 0 0).1.toInt) := by
    rw [← split]
    simp only [Frontend.decodeCollByte, Frontend.hexToBytes_encode, offset, behindElement,
      Frontend.decodeVlq_behind, start]
  rw [read]
  by_cases small : Vlq.value (Vlq.groups (counted bytes)) < 2 ^ 31
  · have word : (Frontend.decodeVlq (counted bytes) 0 0).1.toInt =
        (Vlq.value (Vlq.groups (counted bytes)) : Nat) := by
      rw [Frontend.decodeVlq_zero (by omega), Js.toInt_ofNat32 small]
    have slice := Js.slice_append front (Vlq.behind (counted bytes))
    rw [counts, Nat.cast_add] at slice
    rw [word]
    exact iff_of_true slice small
  · refine iff_of_false ?_ small
    intro same
    have word := (Frontend.decodeVlq (counted bytes) 0 0).1.toInt_lt
    have data : Vlq.behind (counted bytes) ≠ [] := by
      intro empty
      rw [empty] at counts
      exact small (counts ▸ by decide)
    have shorter := Js.length_slice_lt front data
      (show (Frontend.decodeVlq (counted bytes) 0 0).1.toInt < _ by omega)
    rw [same] at shorter
    exact Nat.lt_irrefl _ shorter

/-- The condition, in what the readers compute. -/
theorem collection_iff {bytes : Bytes} :
    Collection bytes ↔ bytes.head? = some 0x0e ∧
      (Vlq.behind (counted bytes)).length = Vlq.value (Vlq.groups (counted bytes)) ∧
      Vlq.value (Vlq.groups (counted bytes)) < 2 ^ 31 := by
  constructor
  · rintro ⟨tag, ⟨data, read, small⟩ | zero⟩
    · obtain ⟨_, number, left⟩ := Vlq.decode_eq_some_iff.mp read
      rw [← number, ← left]
      exact ⟨tag, rfl, small⟩
    · have counts := Vlq.counts_iff.mpr (.inr zero)
      refine ⟨tag, counts, ?_⟩
      rw [← counts, Vlq.behind_of_ge (Vlq.continues_of_zeros zero)]
      decide
  · rintro ⟨tag, counts, small⟩
    refine ⟨tag, ?_⟩
    rcases Vlq.counts_iff.mp counts with ⟨data, read⟩ | zero
    · obtain ⟨_, number, _⟩ := Vlq.decode_eq_some_iff.mp read
      exact .inl ⟨data, read, number ▸ small⟩
    · exact .inr zero

theorem agree_encode_iff (bytes : Bytes) : Agree (Hex.encode bytes) ↔ Collection bytes := by
  rw [collection_iff]
  constructor
  · rintro ⟨_, frontend⟩
    cases backend : Backend.VLQSerializer.deserialize_coll_byte (Hex.encode bytes) with
    | error e =>
        rw [backend] at frontend
        cases frontend
    | ok data =>
        rw [backend] at frontend
        obtain ⟨tag, counts, rfl⟩ := backend_eq_ok_iff.mp backend
        have notEmpty : bytes ≠ [] := by
          rintro rfl
          cases tag
        exact ⟨tag, counts, (frontend_eq_iff notEmpty counts).mp (Option.some.inj frontend)⟩
  · rintro ⟨tag, counts, small⟩
    have notEmpty : bytes ≠ [] := by
      rintro rfl
      cases tag
    have backend := backend_eq_ok_iff.mpr ⟨tag, counts, rfl⟩
    have sdk := sdk_eq_ok tag
    rw [← counts, List.take_length] at sdk
    have frontend := (frontend_eq_iff notEmpty counts).mpr small
    constructor
    · rw [sdk, backend]
      rfl
    · rw [frontend, backend]
      rfl

/-- The readers agree on a text exactly if it is that of a collection. -/
theorem agree_iff {text : Text} (hex : LowerHex text) :
    Agree text ↔ ∃ bytes, text = Hex.encode bytes ∧ Collection bytes := by
  obtain ⟨bytes, rfl⟩ := hex.exists_eq_encode
  rw [agree_encode_iff]
  constructor
  · intro collection
    exact ⟨bytes, rfl, collection⟩
  · rintro ⟨bytes', same, collection⟩
    rw [Hex.encode_injective same]
    exact collection

/-- They agree on a collection of two bytes, and so they do without its element type. -/
theorem agree_iff_example :
    Agree ['0', 'e', '0', '1', '0', '2', 'a', 'b', 'c', 'd'] ∧
      Agree ['0', 'e', '0', '2', 'a', 'b', 'c', 'd'] := by
  have data : Vlq.decode [0x02, 0xab, 0xcd] = some (2, [0xab, 0xcd]) := rfl
  constructor
  · apply (agree_iff (lowerHex_encode [0x0e, 0x01, 0x02, 0xab, 0xcd])).mpr
    exact ⟨[0x0e, 0x01, 0x02, 0xab, 0xcd], rfl, rfl, .inl ⟨[0xab, 0xcd], data, by decide⟩⟩
  · apply (agree_iff (lowerHex_encode [0x0e, 0x02, 0xab, 0xcd])).mpr
    exact ⟨[0x0e, 0x02, 0xab, 0xcd], rfl, rfl, .inl ⟨[0xab, 0xcd], data, by decide⟩⟩

/-- Behind the length zero there is a byte, which only the backend minds. -/
theorem trailing_byte_disagree : ¬ ∀ text, LowerHex text → Agree text := by
  intro all
  have agree : Agree ['0', 'e', '0', '0', '0', '5'] :=
    all _ (lowerHex_encode [0x0e, 0x00, 0x05])
  have collection := (agree_encode_iff [0x0e, 0x00, 0x05]).mp agree
  have counts := (collection_iff.mp collection).2.1
  exact absurd counts (by decide)

end DuckPools.Registers
