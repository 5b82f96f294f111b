import DuckPools.Frontend.CoinflipService
import DuckPools.Language.Numbers

/-!
# What the register decoders return on the answers of a node

On the constants of a ledger, `decodeInt` is exact. `decodeCollByte` is exact too,
but for byte strings of length one: there the length byte is 0x01, it is taken for an
element type, and what is left to read is empty.
-/

namespace DuckPools.Frontend

open ErgoScript

theorem parsePairs_of_decode {s : Text} {bs : Bytes} (h : Hex.decode s = some bs) :
    parsePairs s = bs := by
  induction h using Hex.decode_induction with
  | nil => rfl
  | byte hh hl ht ih => rw [parsePairs, Js.parseIntHex_pair hh hl, Js.toUint8_pair, ih]

/-- Well-formed text has no `0x` to strip. -/
theorem hexToBytes_of_decode {s : Text} {bs : Bytes} (h : Hex.decode s = some bs) :
    hexToBytes s = bs := by
  unfold hexToBytes
  split
  · obtain ⟨_, _, _, _, hx, _⟩ := Hex.decode_cons_iff.mp h
    simp [Hex.value] at hx
  · exact parsePairs_of_decode h

@[simp] theorem hexToBytes_encode (bs : Bytes) : hexToBytes (Hex.encode bs) = bs :=
  hexToBytes_of_decode (Hex.decode_encode bs)

/-- The 32-bit accumulator collects every group that is not shifted out. The groups of zero
are nothing wherever they are put. -/
theorem decodeVlq_eq {bs : Bytes} {shift : Nat} {acc : BitVec 32}
    (fits : Vlq.value (Vlq.groups bs) = 0 ∨
      shift < 32 ∧ Vlq.value (Vlq.groups bs) * 2 ^ shift < 2 ^ 32) :
    (decodeVlq bs acc shift).1 = acc ||| BitVec.ofNat 32 (Vlq.value (Vlq.groups bs)) <<< shift := by
  induction bs generalizing acc shift with
  | nil =>
      rw [decodeVlq, Vlq.groups, Vlq.value]
      simp
  | cons b rest ih =>
      have digit : b.toNat % 128 < 128 := Nat.mod_lt _ (by decide)
      have placed : ∀ {n : Nat}, n = 0 ∨ shift < 32 →
          BitVec.ofNat 32 n <<< (shift % 32) = BitVec.ofNat 32 n <<< shift := by
        rintro n (rfl | hshift)
        · simp
        · rw [Nat.mod_eq_of_lt hshift]
      rw [decodeVlq, Vlq.payload32]
      by_cases last : b.toNat < 128
      · simp only [Vlq.groups, if_pos last, Vlq.value, Nat.mul_zero, Nat.add_zero] at fits ⊢
        rw [if_pos ((Vlq.and_top_eq_zero_iff b).mpr last), placed (fits.imp_right And.left)]
      · rw [Vlq.groups, if_neg last, Vlq.value] at fits ⊢
        have hpow : 2 ^ (shift + 7) = 2 ^ shift * 128 := by rw [Nat.pow_add]
        have low : (b.toNat % 128 + 128 * Vlq.value (Vlq.groups rest)) % 128 = b.toNat % 128 := by
          omega
        have high : (b.toNat % 128 + 128 * Vlq.value (Vlq.groups rest)) / 128 =
            Vlq.value (Vlq.groups rest) := by omega
        -- A group above this one that is not zero has a shift below 32 as well.
        have fits' : Vlq.value (Vlq.groups rest) = 0 ∨
            shift + 7 < 32 ∧ Vlq.value (Vlq.groups rest) * 2 ^ (shift + 7) < 2 ^ 32 := by
          by_cases zero : Vlq.value (Vlq.groups rest) = 0
          · exact .inl zero
          · obtain ⟨_, hn⟩ := fits.resolve_left (by omega)
            have hrest : Vlq.value (Vlq.groups rest) * 2 ^ (shift + 7) < 2 ^ 32 := by
              refine Nat.lt_of_le_of_lt ?_ hn
              calc Vlq.value (Vlq.groups rest) * 2 ^ (shift + 7)
                  = 128 * Vlq.value (Vlq.groups rest) * 2 ^ shift := by rw [hpow]; ring
                _ ≤ _ := Nat.mul_le_mul_right _ (by omega)
            have hle : 2 ^ (shift + 7) ≤ Vlq.value (Vlq.groups rest) * 2 ^ (shift + 7) :=
              Nat.le_mul_of_pos_left _ (Nat.pos_of_ne_zero zero)
            exact .inr ⟨(Nat.pow_lt_pow_iff_right (by decide)).mp (Nat.lt_of_le_of_lt hle hrest),
              hrest⟩
        have merged := Vlq.merge32 acc (b.toNat % 128 + 128 * Vlq.value (Vlq.groups rest)) shift
        rw [low, high] at merged
        have first : b.toNat % 128 = 0 ∨ shift < 32 :=
          fits.imp (fun zero => by omega) And.left
        rw [if_neg (mt (Vlq.and_top_eq_zero_iff b).mp last), placed first, ih fits', merged]

theorem decodeVlq_zero {bs : Bytes} (hn : Vlq.value (Vlq.groups bs) < 2 ^ 32) :
    (decodeVlq bs 0 0).1 = BitVec.ofNat 32 (Vlq.value (Vlq.groups bs)) := by
  rw [decodeVlq_eq (.inr ⟨by decide, by omega⟩)]
  simp

/-- Whatever is shifted out of the accumulator, the groups are read to their end. -/
theorem decodeVlq_behind (bs : Bytes) (acc : BitVec 32) (shift : Nat) :
    (decodeVlq bs acc shift).2 = Vlq.behind bs := by
  induction bs generalizing acc shift with
  | nil => rfl
  | cons b rest ih =>
      rw [decodeVlq, Vlq.behind]
      by_cases last : b.toNat < 128
      · rw [if_pos last, if_pos ((Vlq.and_top_eq_zero_iff b).mpr last)]
      · rw [if_neg last, if_neg (mt (Vlq.and_top_eq_zero_iff b).mp last), ih]

theorem decodeVlq_encode_zero {n : Nat} {rest : Bytes} (hn : n < 2 ^ 32) :
    decodeVlq (Vlq.encode n ++ rest) 0 0 = (BitVec.ofNat 32 n, rest) := by
  obtain ⟨number, left⟩ := Vlq.groups_encode_append n rest
  have read := @decodeVlq_zero (Vlq.encode n ++ rest)
  have rest' := decodeVlq_behind (Vlq.encode n ++ rest) 0 0
  rw [number] at read
  rw [left] at rest'
  exact Prod.ext (read hn) rest'

theorem decodeVlq_rest (n : Nat) (rest : Bytes) (acc : BitVec 32) (shift : Nat) :
    (decodeVlq (Vlq.encode n ++ rest) acc shift).2 = rest := by
  rw [decodeVlq_behind, (Vlq.groups_encode_append n rest).2]

/-- With the length read behind `front`, the data are returned exactly if a signed word
holds their number. -/
theorem decodeCollByte_behind_iff {front data : Bytes}
    (offset : (if (front ++ (Vlq.encode data.length ++ data))[1]? = some 0x01 then 2 else 1) =
      front.length) :
    decodeCollByte (Hex.encode (front ++ (Vlq.encode data.length ++ data))) = data ↔
      data.length < 2 ^ 31 := by
  have header : front ++ (Vlq.encode data.length ++ data) =
      (front ++ Vlq.encode data.length) ++ data := (List.append_assoc _ _ _).symm
  have rest := decodeVlq_rest data.length data 0 0
  have start : max front.length
      ((front ++ (Vlq.encode data.length ++ data)).length - data.length) =
      (front ++ Vlq.encode data.length).length := by
    rw [header, @List.length_append _ _ data, Nat.add_sub_cancel, List.length_append]
    omega
  have read : decodeCollByte (Hex.encode (front ++ (Vlq.encode data.length ++ data))) =
      Js.slice ((front ++ Vlq.encode data.length) ++ data)
        ((front ++ Vlq.encode data.length).length : Nat)
        ((front ++ Vlq.encode data.length).length +
          (decodeVlq (Vlq.encode data.length ++ data) 0 0).1.toInt) := by
    simp only [decodeCollByte, hexToBytes_encode, offset, List.drop_left, rest, start]
    rw [header]
  rw [read]
  by_cases hlen : data.length < 2 ^ 31
  · have word : (decodeVlq (Vlq.encode data.length ++ data) 0 0).1 =
        BitVec.ofNat 32 data.length := by
      rw [decodeVlq_encode_zero (by omega)]
    rw [word, Js.toInt_ofNat32 hlen]
    exact iff_of_true (Js.slice_append _ data) hlen
  · refine iff_of_false ?_ hlen
    intro same
    have small := (decodeVlq (Vlq.encode data.length ++ data) 0 0).1.toInt_lt
    have hne : data ≠ [] := by
      rintro rfl
      exact hlen (by decide)
    have shorter := Js.length_slice_lt (front ++ Vlq.encode data.length) hne
      (show (decodeVlq (Vlq.encode data.length ++ data) 0 0).1.toInt < data.length by omega)
    rw [same] at shorter
    exact Nat.lt_irrefl _ shorter

variable {Point : Type} (E : Curve Point)

theorem decodeInt_hex (n : Int32) : decodeInt (Value.hex E (.int n)) = n.toInt := by
  have hlt : Vlq.zigzag n.toInt < 2 ^ 32 := by
    have hlo := n.le_toInt
    have hhi := n.toInt_lt
    rw [Vlq.zigzag]
    split <;> omega
  have read := @decodeVlq_encode_zero _ [] hlt
  rw [List.append_nil] at read
  simp only [decodeInt, Value.hex, hexToBytes_encode, Value.serialize, List.drop_succ_cons,
    List.drop_zero, read, Js.unzigzag32 hlt, Vlq.unzigzag_zigzag]

/-- The element type is detected exactly on byte strings of length one. -/
theorem second_byte_eq_one_iff (bytes : Bytes) :
    (Value.serialize E (.collByte bytes))[1]? = some 0x01 ↔ bytes.length = 1 := by
  rw [← Vlq.head_encode_eq_one_iff]
  simp only [Value.serialize, List.getElem?_cons_succ]
  cases h : Vlq.encode bytes.length with
  | nil => exact absurd h (Vlq.encode_ne_nil _)
  | cons b bs => simp

theorem decodeCollByte_hex {bytes : Bytes} (hlen : bytes.length < 2 ^ 31) :
    decodeCollByte (Value.hex E (.collByte bytes)) = if bytes.length = 1 then [] else bytes := by
  have second := second_byte_eq_one_iff E bytes
  simp only [decodeCollByte, Value.hex, hexToBytes_encode]
  by_cases hone : bytes.length = 1
  · rw [if_pos (second.mpr hone), if_pos hone]
    obtain ⟨x, rfl⟩ := List.length_eq_one_iff.mp hone
    have written : Value.serialize E (.collByte [x]) = [0x0e, 0x01, x] := by
      rw [Value.serialize, List.length_singleton, Vlq.encode_of_lt (by decide)]
      rfl
    have read : (decodeVlq ((Value.serialize E (.collByte [x])).drop 2) 0 0).2 = [] := by
      simp only [written, List.drop_succ_cons, List.drop_zero, decodeVlq]
      split <;> rfl
    rw [read]
    exact Js.slice_eq_nil _ (by simp [written])
  · rw [if_neg (mt second.mp hone), if_neg hone]
    have split : Value.serialize E (.collByte bytes) =
        (0x0e :: Vlq.encode bytes.length) ++ bytes := rfl
    have read : decodeVlq ((Value.serialize E (.collByte bytes)).drop 1) 0 0 =
        (BitVec.ofNat 32 bytes.length, bytes) := decodeVlq_encode_zero (by omega)
    have offset : max 1 ((Value.serialize E (.collByte bytes)).length - bytes.length) =
        (0x0e :: Vlq.encode bytes.length : Bytes).length := by
      rw [split, List.length_append, List.length_cons]
      omega
    rw [read]
    simp only [offset, Js.toInt_ofNat32 hlen]
    rw [split]
    exact Js.slice_append _ bytes

end DuckPools.Frontend
