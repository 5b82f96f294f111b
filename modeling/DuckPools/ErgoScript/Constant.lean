import DuckPools.Codec.Vlq
import DuckPools.ErgoScript.Box

/-!
# Serialized register constants

A constant is a type code followed by its data: a counted byte string, a zigzag
number, or the 33 bytes of a group element. Nodes and transaction builders exchange
registers in this form, as hexadecimal text. Reading undoes writing, so a register is
determined by its text.
-/

namespace DuckPools.ErgoScript

variable {Point : Type} (E : Curve Point)

/-- Type code and data of a constant. -/
def Value.serialize : Value Point → Bytes
  | .collByte bytes => 0x0e :: (Vlq.encode bytes.length ++ bytes)
  | .int n => 0x04 :: Vlq.encode (Vlq.zigzag n.toInt)
  | .long n => 0x05 :: Vlq.encode (Vlq.zigzag n.toInt)
  | .groupElement p => 0x07 :: E.getEncoded p

/-- The constant a ledger reads from `bytes`, which it has to exhaust. -/
def Value.deserialize : Bytes → Option (Value Point)
  | [] => none
  | code :: data =>
      if code = 0x0e then
        (Vlq.decode data).bind fun (n, bytes) =>
          if bytes.length = n then some (.collByte bytes) else none
      else if code = 0x04 then
        (Vlq.decode data).bind fun (n, left) =>
          if left = [] then some (.int (Int32.ofInt (Vlq.unzigzag n))) else none
      else if code = 0x05 then
        (Vlq.decode data).bind fun (n, left) =>
          if left = [] then some (.long (Int64.ofInt (Vlq.unzigzag n))) else none
      else if code = 0x07 then (E.decodePoint data).map .groupElement
      else none

@[simp] theorem Value.deserialize_serialize (v : Value Point) :
    Value.deserialize E (v.serialize E) = some v := by
  cases v with
  | collByte bytes =>
      simp only [serialize, deserialize, if_true, Vlq.decode_encode_append, Option.bind_some]
  | int n =>
      have read := Vlq.decode_encode_append (Vlq.zigzag n.toInt) []
      rw [List.append_nil] at read
      simp [serialize, deserialize, read]
  | long n =>
      have read := Vlq.decode_encode_append (Vlq.zigzag n.toInt) []
      rw [List.append_nil] at read
      simp [serialize, deserialize, read]
  | groupElement p => simp [serialize, deserialize, E.decodePoint_getEncoded]

/-- The hexadecimal text of a constant. -/
def Value.hex (v : Value Point) : Text := Hex.encode (v.serialize E)

theorem Value.hex_injective : Function.Injective (Value.hex E) := by
  intro v w h
  have hbytes := Hex.encode_injective h
  have hread := congrArg (Value.deserialize E) hbytes
  simpa only [deserialize_serialize, Option.some.injEq] using hread

/-- The registers of a box, as text. -/
def Box.hexRegisters (b : Box Point) (r : Reg) : Option Text := (b.registers r).map (Value.hex E)

variable {E}

/-- A register whose text is that of a constant holds that constant. -/
theorem Box.register_of_hex {b : Box Point} {r : Reg} {v : Value Point}
    (h : b.hexRegisters E r = some (v.hex E)) : b.registers r = some v := by
  simp only [hexRegisters, Option.map_eq_some_iff] at h
  obtain ⟨w, hw, htext⟩ := h
  rw [hw, Value.hex_injective E htext]

end DuckPools.ErgoScript
