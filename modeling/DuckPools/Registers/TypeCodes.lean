import DuckPools.Frontend.Recovery
import DuckPools.Registers.CollBytes

/-!
# One type code, two tables

The registers of a bet are written by the frontend through Fleet, with the type codes of
the ledger: 04 is an `Int`. The SDK and the backend have a table of their own, in which 02
is an `Int` and 04 a `Long`. The number of a register is the same under both codes, so it
is its type that is misread, in both directions: what the frontend writes as an `Int` is
read as a `Long`, and what the SDK writes as an `Int` is none to the ledger. The code of a
byte collection is the same in both tables.
-/

namespace DuckPools.Registers

open ErgoScript Frontend

/-- What a bet has in its registers. -/
structure Written where
  housePk : Bytes
  playerPk : Bytes
  commitment : Bytes
  choice : Int32
  timeoutHeight : Int32
  secret : Bytes

def Written.bytes (w : Written) : Reg → Option Bytes
  | .R4 => some w.housePk
  | .R5 => some w.playerPk
  | .R6 => some w.commitment
  | .R9 => some w.secret
  | _ => none

def Written.number (w : Written) : Reg → Option Int32
  | .R7 => some w.choice
  | .R8 => some w.timeoutHeight
  | _ => none

/-- The arguments of the builder ask for these registers. -/
structure AsksFor (cfg : Config) (params : PlaceBetParams) (w : Written) : Prop where
  housePk : cfg.HOUSE_PUB_KEY = Hex.encode w.housePk
  playerPk : params.playerPubKey = Hex.encode w.playerPk
  commitment : params.commitment = Hex.encode w.commitment
  choice : params.choice = w.choice.toInt
  timeoutHeight : params.currentHeight + TIMEOUT_DELTA = w.timeoutHeight.toInt
  secret : params.secret = w.secret

variable {Point : Type} (E : Curve Point)

/-- Everyone reads the types and values that were written, and what the SDK writes as an
`Int` is one to the ledger. -/
structure Shared (out : Output) (w : Written) : Prop where
  numbers : ∀ r n, w.number r = some n → ∃ text, out.additionalRegisters r = some text ∧
    Sdk.deserializeSValue text = .ok (.int n.toInt) ∧
    Backend.VLQSerializer.detect_type text = some .INT ∧
    Backend.VLQSerializer.deserialize_value text = .ok (.number n.toInt)
  bytes : ∀ r data, w.bytes r = some data → ∃ text, out.additionalRegisters r = some text ∧
    Sdk.deserializeSValue text = .ok (.collByte (Hex.encode data)) ∧
    Backend.VLQSerializer.detect_type text = some .COLL_BYTE ∧
    Backend.VLQSerializer.deserialize_value text = .ok (.bytes data)
  sdkWrites : ∀ r n, w.number r = some n → ∃ text,
    Sdk.serializeSValue (.int n.toInt) = .ok text ∧
    (Hex.decode text).bind (Value.deserialize E) = some (.int n)

/-- Numbers are read with their value and as a `Long`, byte strings unless they have
length one, and the ledger finds no constant in a number of the SDK. -/
structure Misread (out : Output) (w : Written) : Prop where
  numbers : ∀ r n, w.number r = some n → ∃ text, out.additionalRegisters r = some text ∧
    Sdk.deserializeSValue text = .ok (.long n.toInt) ∧
    Backend.VLQSerializer.detect_type text = some .LONG ∧
    Backend.VLQSerializer.deserialize_value text = .ok (.number n.toInt)
  bytes : ∀ r data, w.bytes r = some data → ∃ text, out.additionalRegisters r = some text ∧
    (Sdk.deserializeSValue text = .ok (.collByte (Hex.encode data)) ↔ data.length ≠ 1) ∧
    Backend.VLQSerializer.detect_type text = some .COLL_BYTE ∧
    (Backend.VLQSerializer.deserialize_value text = .ok (.bytes data) ↔ data.length ≠ 1)
  sdkWrites : ∀ r n, w.number r = some n → ∃ text,
    Sdk.serializeSValue (.int n.toInt) = .ok text ∧
    (Hex.decode text).bind (Value.deserialize E) = none

/-- A number under the ledger's code of an `Int`, as the other two tables read it. -/
theorem ledgerInt_read (n : Int) :
    Sdk.deserializeSValue (Hex.encode (0x04 :: Vlq.encode (Vlq.zigzag n))) = .ok (.long n) ∧
      Backend.VLQSerializer.detect_type (Hex.encode (0x04 :: Vlq.encode (Vlq.zigzag n))) =
        some .LONG ∧
      Backend.VLQSerializer.deserialize_value (Hex.encode (0x04 :: Vlq.encode (Vlq.zigzag n))) =
        .ok (.number n) := by
  have text : Hex.encode (0x04 :: Vlq.encode (Vlq.zigzag n)) =
      Backend.VLQSerializer.LONG_TAG ++ Hex.encode (Vlq.encode (Vlq.zigzag n)) := rfl
  have notInt : Backend.VLQSerializer.INT_TAG.isPrefixOf (Backend.VLQSerializer.LONG_TAG ++
      Hex.encode (Vlq.encode (Vlq.zigzag n))) = false := rfl
  have long := Backend.VLQSerializer.isPrefixOf_append Backend.VLQSerializer.LONG_TAG
    (Hex.encode (Vlq.encode (Vlq.zigzag n)))
  have read : Backend.VLQSerializer.deserialize_long (Backend.VLQSerializer.LONG_TAG ++
      Hex.encode (Vlq.encode (Vlq.zigzag n))) = .ok n :=
    Backend.VLQSerializer.deserialize_eq_ok "Long" n rfl
  refine ⟨?_, ?_, ?_⟩
  · have read := Sdk.deserializeLong_encode n []
    rw [List.append_nil] at read
    rw [Sdk.deserializeSValue, Js.bufferFromHex_encode, read]
    rfl
  · rw [text, Backend.VLQSerializer.detect_type, notInt, long]
    rfl
  · rw [text, Backend.VLQSerializer.deserialize_value]
    simp only [notInt, Bool.false_eq_true, if_false, long, if_true, read]
    rfl

/-- A byte string without element type, as the other two tables read it. -/
theorem formatB_read (data : Bytes) :
    (Sdk.deserializeSValue (formatB data) = .ok (.collByte (Hex.encode data)) ↔
      data.length ≠ 1) ∧
      Backend.VLQSerializer.detect_type (formatB data) = some .COLL_BYTE ∧
      (Backend.VLQSerializer.deserialize_value (formatB data) = .ok (.bytes data) ↔
        data.length ≠ 1) := by
  have sdk : Sdk.deserializeSValue (formatB data) =
      (Sdk.deserializeCollByte (formatB data)).map fun bytes =>
        Sdk.SValue.collByte (Js.bytesToHex bytes) := by
    rw [Sdk.deserializeSValue, formatB, Js.bufferFromHex_encode]
    rfl
  have backend : Backend.VLQSerializer.deserialize_value (formatB data) =
      ((Backend.VLQSerializer.deserialize_coll_byte (formatB data)).map
        Backend.RawValue.bytes).mapError fun e => s!"Failed to deserialize value: {e}" := rfl
  refine ⟨?_, rfl, ?_⟩
  · rw [sdk, ← sdk_formatB_iff]
    constructor
    · intro h
      obtain ⟨bytes, hread, hvalue⟩ := Exceptions.map_eq_ok_iff.mp h
      rw [hread, Hex.encode_injective (Sdk.SValue.collByte.inj hvalue)]
    · intro h
      rw [h]
      rfl
  · rw [backend, ← Backend.VLQSerializer.deserialize_coll_byte_plain_iff]
    constructor
    · intro h
      obtain ⟨bytes, hread, hvalue⟩ :=
        Exceptions.map_eq_ok_iff.mp (Exceptions.mapError_eq_ok_iff.mp h)
      obtain rfl : bytes = data := Backend.RawValue.bytes.inj hvalue
      exact hread
    · intro h
      rw [formatB, h]
      rfl

theorem sdkWrites_none (n : Int32) :
    ∃ text, Sdk.serializeSValue (.int n.toInt) = .ok text ∧
      (Hex.decode text).bind (Value.deserialize E) = none := by
  refine ⟨_, rfl, ?_⟩
  rw [Sdk.serializeInt_eq n.le_toInt n.toInt_lt, Hex.decode_encode]
  rfl

variable {F : Fleet} {cfg : Config} {ergText : Nat → String} {params : PlaceBetParams}
variable {result : PlaceBetResult} {w : Written}

/-- Every box that the frontend builds is misread. -/
theorem misread_of_built (lawful : F.Lawful) (encodes : F.Encodes) (asks : AsksFor cfg params w)
    (built : buildPlaceBetTx F cfg ergText params = .ok result) :
    ∃ out, result.unsignedTx.outputs.head? = some out ∧ Misread E out w := by
  obtain ⟨contractAddress, out, hout, hregisters⟩ := buildPlaceBetTx_head lawful built
  have int : ∀ n : Int32, F.SInt n.toInt = Hex.encode (0x04 :: Vlq.encode (Vlq.zigzag n.toInt)) :=
    encodes.SInt_toInt twoKeys
  have coll : ∀ data : Bytes, F.SColl (Hex.encode data) = formatB data :=
    encodes.SColl_encode twoKeys
  refine ⟨out, hout, ?_, ?_, ?_⟩
  · intro r n hr
    have text : out.additionalRegisters r =
        some (Hex.encode (0x04 :: Vlq.encode (Vlq.zigzag n.toInt))) := by
      rw [hregisters, ← int]
      cases r with
      | R7 => cases hr; rw [betBox, asks.choice]
      | R8 => cases hr; rw [betBox, asks.timeoutHeight]
      | R4 | R5 | R6 | R9 => cases hr
    exact ⟨_, text, ledgerInt_read n.toInt⟩
  · intro r data hr
    have text : out.additionalRegisters r = some (formatB data) := by
      rw [hregisters, ← coll]
      cases r with
      | R4 => cases hr; rw [betBox, asks.housePk]
      | R5 => cases hr; rw [betBox, asks.playerPk]
      | R6 => cases hr; rw [betBox, asks.commitment]
      | R9 => cases hr; rw [betBox, asks.secret]; rfl
      | R7 | R8 => cases hr
    exact ⟨_, text, formatB_read data⟩
  · intro r n _
    exact sdkWrites_none E n

variable {E} in
theorem Misread.not_shared {out : Output} (h : Misread E out w) : ¬ Shared E out w := by
  intro shared
  obtain ⟨text, htext, hlong, _⟩ := h.numbers .R7 w.choice rfl
  obtain ⟨text', htext', hint, _⟩ := shared.numbers .R7 w.choice rfl
  obtain rfl : text = text' := Option.some.inj (htext.symm.trans htext')
  rw [hlong] at hint
  cases hint

/-- No box that the frontend builds has its registers read by all components with the types
they were written with; `Misread` is what they read. -/
theorem registers_never_shared (lawful : F.Lawful) (encodes : F.Encodes)
    (asks : AsksFor cfg params w)
    (built : buildPlaceBetTx F cfg ergText params = .ok result) :
    ∃ out, result.unsignedTx.outputs.head? = some out ∧ Misread E out w ∧ ¬ Shared E out w := by
  obtain ⟨out, hout, misread⟩ := misread_of_built E lawful encodes asks built
  exact ⟨out, hout, misread, misread.not_shared⟩

/-- A bet of one ERG on tails by the player of `twoKeys`. -/
def tailsParams : PlaceBetParams where
  changeAddress := ['p']
  amountNanoErg := 1_000_000_000
  playerPubKey := Hex.encode (twoKeys.getEncoded false)
  commitment := Hex.encode (List.replicate 32 7)
  choice := 1
  secret := List.replicate 8 5
  currentHeight := 100
  utxos := [exampleUtxo sizeHash (Hex.encode (twoKeys.propBytes false))]

def tailsWritten : Written where
  housePk := twoKeys.getEncoded true
  playerPk := twoKeys.getEncoded false
  commitment := List.replicate 32 7
  choice := 1
  timeoutHeight := 200
  secret := List.replicate 8 5

theorem tails_asks : AsksFor exampleConfig tailsParams tailsWritten :=
  ⟨rfl, rfl, rfl, rfl, rfl, rfl⟩

theorem tails_built : ∃ result,
    buildPlaceBetTx (exampleFleet sizeHash) exampleConfig (fun _ => "") tailsParams = .ok result :=
  exists_built_bet rfl rfl rfl rfl rfl (by decide) (by decide)

theorem registers_never_shared_tails :
    ∃ result,
      buildPlaceBetTx (exampleFleet sizeHash) exampleConfig (fun _ => "") tailsParams =
        .ok result ∧
      ∃ out, result.unsignedTx.outputs.head? = some out ∧ Misread twoKeys out tailsWritten ∧
        ¬ Shared twoKeys out tailsWritten := by
  obtain ⟨result, built⟩ := tails_built
  exact ⟨result, built,
    registers_never_shared twoKeys (fleetAt_lawful _ _) (fleetAt_encodes _ _) tails_asks built⟩

/-- The bet on tails is built, and nobody else reads its choice as an `Int`. -/
theorem built_not_shared :
    ¬ ∀ (F : Fleet) (cfg : Config) (ergText : Nat → String) (params : PlaceBetParams)
        (result : PlaceBetResult) (w : Written), F.Lawful → F.Encodes → AsksFor cfg params w →
        buildPlaceBetTx F cfg ergText params = .ok result →
        ∃ out, result.unsignedTx.outputs.head? = some out ∧ Shared twoKeys out w := by
  intro h
  obtain ⟨result, built⟩ := tails_built
  obtain ⟨out, hout, shared⟩ := h _ _ _ _ result _ (fleetAt_lawful _ _) (fleetAt_encodes _ _)
    tails_asks built
  obtain ⟨out', hout', misread⟩ := misread_of_built twoKeys (fleetAt_lawful _ _)
    (fleetAt_encodes _ _) tails_asks built
  obtain rfl : out = out' := Option.some.inj (hout.symm.trans hout')
  exact misread.not_shared shared

end DuckPools.Registers
