import DuckPools.Codec.Integers
import DuckPools.Frontend.Registers
import DuckPools.Language.Numbers

/-!
# `sdk/src/pool/PoolManager.ts`

The two readers of pool registers. They never throw: a register that is missing, or
whose type tag is another one, reads as zero. The loop of `deserializeInt` has the
32-bit accumulator of the frontend's decoders, `deserializeLong` that of a `BigInt`.
-/

namespace DuckPools.Sdk.PoolManager

/-- A register of a node's answer; missing and empty text are both falsy. -/
structure Register where
  serializedValue : Option Text
  value : Option Text

/-- `register.serializedValue || register.value` -/
def Register.serialized (register : Register) : Option Text :=
  (register.serializedValue.filter (!·.isEmpty)).or (register.value.filter (!·.isEmpty))

def deserializeInt (register : Register) : Int :=
  match register.serialized with
  | none => 0
  | some hex =>
      let buffer := Js.bufferFromHex hex
      if buffer.head? ≠ some 0x02 then 0
      else
        let (value, _) := Frontend.decodeVlq (buffer.drop 1) 0 0
        (value >>> 1 ^^^ -(value &&& 1)).toInt

def deserializeLong (register : Register) : Int :=
  match register.serialized with
  | none => 0
  | some hex =>
      let buffer := Js.bufferFromHex hex
      if buffer.head? ≠ some 0x04 then 0
      else
        let (value, _) := Integers.readVlq (buffer.drop 1) 0 0
        Integers.zigzagDecode value

/-- The text of a register is found in either field. -/
theorem serialized_of_text {register : Register} {c : Char} {text : Text}
    (h : register.serializedValue = some (c :: text) ∨
      (register.serializedValue = none ∧ register.value = some (c :: text))) :
    register.serialized = some (c :: text) := by
  cases h with
  | inl h =>
      rw [Register.serialized, h]
      rfl
  | inr h =>
      rw [Register.serialized, h.1, h.2]
      rfl

theorem deserializeInt_of_serialized {register : Register} {n : Nat} (hn : n < 2 ^ 32)
    (h : register.serialized = some (Hex.encode (0x02 :: Vlq.encode n))) :
    deserializeInt register = Vlq.unzigzag n := by
  have read := @Frontend.decodeVlq_encode_zero n [] hn
  rw [List.append_nil] at read
  simp only [deserializeInt, h, Js.bufferFromHex_encode, List.head?_cons,
    ne_eq, not_true_eq_false, if_false, List.drop_succ_cons, List.drop_zero, read,
    Js.unzigzag32 hn]

theorem deserializeLong_of_serialized {register : Register} {n : Nat}
    (h : register.serialized = some (Hex.encode (0x04 :: Vlq.encode n))) :
    deserializeLong register = Vlq.unzigzag n := by
  have read := Integers.readVlq_encode_zero n []
  rw [List.append_nil] at read
  simp only [deserializeLong, h, Js.bufferFromHex_encode, List.head?_cons,
    ne_eq, not_true_eq_false, if_false, List.drop_succ_cons, List.drop_zero, read,
    Integers.zigzagDecode_natCast]

end DuckPools.Sdk.PoolManager
