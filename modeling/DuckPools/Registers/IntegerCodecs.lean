import DuckPools.Backend.VlqSerializer
import DuckPools.Frontend.Registers
import DuckPools.Frontend.SigmaSerializer
import DuckPools.Sdk.PoolManager
import DuckPools.Sdk.Serialization

/-!
# Signed registers, three writers and four readers

Whatever the width of the arithmetic a writer uses, on the numbers of its type it
writes the tag and the groups of the folded number; `constantText` is that text. Every
reader returns the number from it. The readers in 32-bit words lose nothing, because a
folded 32-bit number fills the word exactly, and the SDK's detour through a double loses
nothing, because the word has fewer than 53 bits.
-/

namespace DuckPools.Registers

/-- A type tag and the groups of a folded number. -/
def constantText (tag : Byte) (n : Int) : Text := Hex.encode (tag :: Vlq.encode (Vlq.zigzag n))

/-- A register of the node's answer that carries `text` in one of its two fields. -/
def Carries (register : Sdk.PoolManager.Register) (text : Text) : Prop :=
  register.serializedValue = some text ∨
    (register.serializedValue = none ∧ register.value = some text)

structure IntCodecsAgree (n : Int32) : Prop where
  backend : Backend.VLQSerializer.serialize_int n.toInt =
    .ok { value := Sdk.serializeInt n.toInt, type := .INT, raw_value := n.toInt }
  frontend : Frontend.encodeIntConstant n.toInt = Sdk.serializeInt n.toInt
  backendReads : Backend.VLQSerializer.deserialize_int (Sdk.serializeInt n.toInt) = .ok n.toInt
  sdkReads : Sdk.deserializeInt (Sdk.serializeInt n.toInt) = .ok n.toInt
  frontendReads : Frontend.decodeInt (Sdk.serializeInt n.toInt) = n.toInt
  poolReads : ∀ register, Carries register (Sdk.serializeInt n.toInt) →
    Sdk.PoolManager.deserializeInt register = n.toInt

structure LongCodecsAgree (n : Int64) : Prop where
  backend : Backend.VLQSerializer.serialize_long n.toInt =
    .ok { value := Sdk.serializeLong n.toInt, type := .LONG, raw_value := n.toInt }
  frontend : Frontend.encodeLongConstant n.toInt = Sdk.serializeLong n.toInt
  backendReads : Backend.VLQSerializer.deserialize_long (Sdk.serializeLong n.toInt) = .ok n.toInt
  sdkReads : Sdk.deserializeLong (Sdk.serializeLong n.toInt) = .ok n.toInt
  poolReads : ∀ register, Carries register (Sdk.serializeLong n.toInt) →
    Sdk.PoolManager.deserializeLong register = n.toInt

theorem serialized_of_carries {register : Sdk.PoolManager.Register} {tag : Byte} {n : Int}
    (h : Carries register (constantText tag n)) :
    register.serialized = some (constantText tag n) :=
  Sdk.PoolManager.serialized_of_text h

theorem frontend_decodeInt {n : Int} (hlo : -2 ^ 31 ≤ n) (hhi : n < 2 ^ 31) :
    Frontend.decodeInt (constantText 0x02 n) = n := by
  have hlt := Js.zigzag_lt hlo hhi
  have read := @Frontend.decodeVlq_encode_zero _ [] hlt
  rw [List.append_nil] at read
  simp only [Frontend.decodeInt, constantText, Frontend.hexToBytes_encode, List.drop_succ_cons,
    List.drop_zero, read, Js.unzigzag32 hlt, Vlq.unzigzag_zigzag]

theorem intCodecsAgree (n : Int32) : IntCodecsAgree n := by
  have hlo : -2 ^ 31 ≤ n.toInt := n.le_toInt
  have hhi : n.toInt < 2 ^ 31 := n.toInt_lt
  have text : Sdk.serializeInt n.toInt = constantText 0x02 n.toInt := Sdk.serializeInt_eq hlo hhi
  refine ⟨?_, ?_, ?_, ?_, ?_, ?_⟩
  · rw [text]
    exact Backend.VLQSerializer.serialize_eq_ok _ _ _ _ (by decide) (by decide) hlo (by omega)
  · rw [text]
    exact Frontend.encodeIntConstant_eq hlo hhi
  · rw [text]
    exact Backend.VLQSerializer.deserialize_eq_ok "Int" n.toInt rfl
  · rw [text]
    have read := Sdk.deserializeInt_encode hlo hhi []
    rw [List.append_nil] at read
    exact read
  · rw [text]
    exact frontend_decodeInt hlo hhi
  · intro register h
    rw [text] at h
    rw [Sdk.PoolManager.deserializeInt_of_serialized (Js.zigzag_lt hlo hhi)
      (serialized_of_carries h), Vlq.unzigzag_zigzag]

theorem longCodecsAgree (n : Int64) : LongCodecsAgree n := by
  have hlo : -2 ^ 63 ≤ n.toInt := n.le_toInt
  have hhi : n.toInt < 2 ^ 63 := n.toInt_lt
  have text : Sdk.serializeLong n.toInt = constantText 0x04 n.toInt := Sdk.serializeLong_eq hlo hhi
  refine ⟨?_, ?_, ?_, ?_, ?_⟩
  · rw [text]
    exact Backend.VLQSerializer.serialize_eq_ok _ _ _ _ (by decide) (by decide) hlo (by omega)
  · rw [text]
    exact Frontend.encodeLongConstant_eq hlo hhi
  · rw [text]
    exact Backend.VLQSerializer.deserialize_eq_ok "Long" n.toInt rfl
  · rw [text]
    have read := Sdk.deserializeLong_encode n.toInt []
    rw [List.append_nil] at read
    exact read
  · intro register h
    rw [text] at h
    rw [Sdk.PoolManager.deserializeLong_of_serialized (serialized_of_carries h),
      Vlq.unzigzag_zigzag]

/-- All writers and all readers of `Int` and `Long` agree, on every number of the type. -/
theorem integer_codecs_agree :
    (∀ n : Int32, IntCodecsAgree n) ∧ ∀ n : Int64, LongCodecsAgree n :=
  ⟨intCodecsAgree, longCodecsAgree⟩

end DuckPools.Registers
