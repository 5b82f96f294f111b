import DuckPools.Sdk.BetManager

/-!
# The bets that the SDK writes and reads

The builder writes the keys of the two parties, the commitment, the choice, the timeout
and the secret into `R4` to `R9`. The flows read them by another table: the commitment
from `R5`, where the player's key is, and the timeout from `R9`, where the secret is. And
they read the serialized constant as if it were the value.

So the check of a reveal compares the commitment with the constant of the player's key,
and the timeout of a refund is a text that starts with `0e`, which is never a number
above zero.
-/

namespace DuckPools.Sdk

open ErgoScript (Reg)
open BetManager Exceptions TransactionBuilder

/-- The text in a register of an output, as the SDK serializes it. -/
def shownText (output : TransactionOutput) (r : Reg) : Option Text :=
  ((output.additionalRegisters.getD []).lookup r).bind fun v => (serializeSValue v).toOption

/-- The bytes in a register of an output, as the SDK reads its own text. -/
def shownBytes (output : TransactionOutput) (r : Reg) : Option Bytes :=
  (shownText output r).bind fun text => (deserializeCollByte text).toOption

/-- The box is a bet that the builder wrote with these parameters. -/
def ShowsBet (builder : TransactionBuilder) (params : PlaceBetParams) (betBox : PendingBetBox) :
    Prop :=
  ∃ built output, builder.buildPlaceBetTransaction params = .ok built ∧
    built.1.outputs.head? = some output ∧
    ∀ r, (betBox.additionalRegisters r).map (·.serializedValue) = shownText output r

/-- The bet box as a node shows it. -/
def shownBox (params : PlaceBetParams) (creationHeight : Nat) : PendingBetBox where
  value := params.amount
  creationHeight
  additionalRegisters r :=
    (shownText (betOutput params) r).map fun text => { value := text, serializedValue := text }

section Shown

variable {builder : TransactionBuilder} {params : PlaceBetParams} {betBox : PendingBetBox}

theorem showsBet_shownBox (hbuilt : ∃ built, builder.buildPlaceBetTransaction params = .ok built)
    (creationHeight : Nat) : ShowsBet builder params (shownBox params creationHeight) := by
  obtain ⟨built, hbuilt⟩ := hbuilt
  obtain ⟨_, ⟨change, houtputs, _⟩, _⟩ := build_spec hbuilt
  refine ⟨built, betOutput params, hbuilt, by rw [houtputs]; rfl, fun r => ?_⟩
  simp only [shownBox, Option.map_map, Function.comp_def, Option.map_id']

theorem ShowsBet.text (h : ShowsBet builder params betBox) (r : Reg) :
    (betBox.additionalRegisters r).map (·.serializedValue) = shownText (betOutput params) r := by
  obtain ⟨built, output, hbuilt, hhead, hshown⟩ := h
  obtain ⟨_, ⟨change, houtputs, _⟩, _⟩ := build_spec hbuilt
  rw [houtputs, List.singleton_append, List.head?_cons] at hhead
  obtain rfl := Option.some.inj hhead
  exact hshown r

/-- A written register is there, with the text of what was written. -/
theorem ShowsBet.register (h : ShowsBet builder params betBox) {r : Reg} {text : Text}
    (hr : shownText (betOutput params) r = some text) :
    ∃ register, betBox.additionalRegisters r = some register ∧ register.serializedValue = text := by
  have htext := h.text r
  rw [hr] at htext
  exact Option.map_eq_some_iff.mp htext

theorem ShowsBet.serializedValue (h : ShowsBet builder params betBox) {r : Reg} {text : Text}
    (hr : shownText (betOutput params) r = some text) : serializedValue betBox r = .ok text := by
  obtain ⟨register, hregister, rfl⟩ := h.register hr
  simp only [BetManager.serializedValue, hregister]
  rfl

end Shown

section Commitment

/-- The commitment is the constant that spells the key of the player. -/
def CommitmentSpellsKey (params : PlaceBetParams) : Prop :=
  (Js.bufferFromHex params.playerPubKey).length = 29 ∧
    params.commitment = Hex.encode (0x0e :: 0x01 :: 0x1d :: Js.bufferFromHex params.playerPubKey)

/-- The check of a reveal lets the secret and the choice of the bet through, and stops
every other pair whose commitment differs. -/
def ChecksCommitment (H : Blake2b) (manager : BetManager) (node : NodeClient) (runtime : Runtime)
    (betBox : PendingBetBox) (options : RevealBetOptions) : Prop :=
  getVerifiedBox H node runtime options = .ok betBox ∧
    ∀ secret choice,
      (generateCommit H runtime.randomBytes (some secret) choice).commitment ≠
          (generateCommit H runtime.randomBytes (some options.secret) options.choice).commitment →
        (revealBet H manager node runtime { options with secret, choice }).result =
          throw (.betError "Secret does not match commitment")

variable {H : Blake2b} {manager : BetManager} {node : NodeClient} {runtime : Runtime}
  {builder : TransactionBuilder} {params : PlaceBetParams} {betBox : PendingBetBox}

/-- A digest is shown as the constant of a key only if the key has 29 bytes. -/
theorem serializeCollByte_eq_encode_iff {data : Text} {digest : Bytes} (hlen : digest.length = 32) :
    serializeCollByte data = Hex.encode digest ↔
      (Js.bufferFromHex data).length = 29 ∧
        digest = 0x0e :: 0x01 :: 0x1d :: Js.bufferFromHex data := by
  rw [serializeCollByte_eq, Hex.encode_injective.eq_iff]
  constructor
  · rintro rfl
    simp only [List.length_cons, List.length_append] at hlen
    have one := List.length_pos_iff.mpr (Vlq.encode_ne_nil (Js.bufferFromHex data).length)
    have short := Vlq.encode_of_lt (n := (Js.bufferFromHex data).length) (by omega)
    rw [short, List.length_singleton] at hlen
    have h29 : (Js.bufferFromHex data).length = 29 := by omega
    rw [short, h29]
    exact ⟨rfl, rfl⟩
  · rintro ⟨h29, rfl⟩
    rw [h29, Vlq.encode_of_lt (by decide)]
    rfl

theorem commitment_eq_encode (randomBytes : Vector Byte 8) (secret : Option Text) (choice : Int) :
    ∃ digest : Bytes, digest.length = 32 ∧
      (generateCommit H randomBytes secret choice).commitment = Hex.encode digest :=
  ⟨_, Vector.length_toList, rfl⟩

/-- The reveal compares a commitment with the constant of the player's key. -/
theorem getVerifiedBox_shown (hshow : ShowsBet builder params betBox) (options : RevealBetOptions)
    (hbox : node.getBoxById options.boxId = .ok betBox) :
    getVerifiedBox H node runtime options =
      if serializeCollByte params.playerPubKey =
          (generateCommit H runtime.randomBytes (some options.secret) options.choice).commitment
      then .ok betBox
      else throw (.betError "Secret does not match commitment") := by
  obtain ⟨digest, _, hcommitment⟩ :=
    commitment_eq_encode (H := H) runtime.randomBytes (some options.secret) options.choice
  have hR5 : serializedValue betBox .R5 = .ok (serializeCollByte params.playerPubKey) :=
    hshow.serializedValue rfl
  have hverify : BetManager.verifyCommit H runtime (serializeCollByte params.playerPubKey)
      options.secret options.choice = true ↔ serializeCollByte params.playerPubKey =
        (generateCommit H runtime.randomBytes (some options.secret) options.choice).commitment := by
    rw [BetManager.verifyCommit, Sdk.verifyCommit, beq_iff_eq, hcommitment, serializeCollByte_eq,
      Js.toLowerCase, Js.toLowerCase, Hex.map_toLower_encode, Hex.map_toLower_encode]
  simp only [getVerifiedBox, getBetBox_eq_ok hbox, hR5, ok_bind, hverify]
  rfl

/-- The check works on a bet exactly if its commitment happens to be the constant of
the player's key, and never for a key of 33 bytes. -/
theorem checksCommitment_iff (hshow : ShowsBet builder params betBox) {options : RevealBetOptions}
    (hbox : node.getBoxById options.boxId = .ok betBox)
    (hcommit : params.commitment =
      (generateCommit H runtime.randomBytes (some options.secret) options.choice).commitment) :
    ChecksCommitment H manager node runtime betBox options ↔ CommitmentSpellsKey params := by
  obtain ⟨digest, hlen, hdigest⟩ :=
    commitment_eq_encode (H := H) runtime.randomBytes (some options.secret) options.choice
  have hspells : serializeCollByte params.playerPubKey = Hex.encode digest ↔
      CommitmentSpellsKey params := by
    rw [CommitmentSpellsKey, hcommit, hdigest, Hex.encode_injective.eq_iff,
      serializeCollByte_eq_encode_iff hlen]
  rw [← hspells, ChecksCommitment, getVerifiedBox_shown hshow options hbox, hdigest]
  constructor
  · rintro ⟨hpasses, _⟩
    by_contra hne
    rw [if_neg hne] at hpasses
    exact throw_ne_ok _ _ hpasses
  · intro hkey
    refine ⟨if_pos hkey, fun secret choice hne => ?_⟩
    have hstops : getVerifiedBox H node runtime { options with secret, choice } =
        throw (.betError "Secret does not match commitment") := by
      rw [getVerifiedBox_shown hshow { options with secret, choice } hbox]
      apply if_neg
      rw [hkey]
      exact hne.symm
    simp only [revealBet, revealOutcome, hstops, throw_bind]
    rfl

/-- Eight zero bytes. -/
def exampleSecret : Text := Hex.encode (List.replicate 8 0)

/-- A bet of one ERG on heads, paid for in full by its input. -/
def exampleBet (commitment : Text) : PlaceBetParams where
  playerAddress := ['p']
  pendingBetAddress := ['p']
  amount := 1000000000
  housePubKey := Hex.encode (0x02 :: List.replicate 32 0)
  playerPubKey := Hex.encode (0x02 :: List.replicate 32 0)
  commitment := commitment
  choice := 0
  secret := exampleSecret
  timeoutHeight := 200
  inputBoxId := ['i']
  inputBoxValue := 1001000000

/-- The commitment of every secret under the hash with one digest. -/
def exampleCommitment : Text := Hex.encode (List.replicate 32 0)

theorem showsBet_exampleBet (commitment : Text) :
    ShowsBet (exampleBuilder 1000000) (exampleBet commitment)
      (shownBox (exampleBet commitment) 100) :=
  showsBet_shownBox ⟨_, rfl⟩ 100

theorem checksCommitment_exampleBet :
    ChecksCommitment exampleHash (exampleManager 1000000)
        (exampleClient (shownBox (exampleBet exampleCommitment) 100) (.object none none))
        exampleRuntime (shownBox (exampleBet exampleCommitment) 100) ⟨[], exampleSecret, 0⟩ ↔
      CommitmentSpellsKey (exampleBet exampleCommitment) :=
  checksCommitment_iff (showsBet_exampleBet exampleCommitment) rfl rfl

theorem commitment_check_rejects :
    ¬ ∃ H : Blake2b, ∀ (manager : BetManager) (node : NodeClient) (runtime : Runtime)
        (builder : TransactionBuilder) (params : PlaceBetParams) (betBox : PendingBetBox)
        (options : RevealBetOptions),
        ShowsBet builder params betBox → node.getBoxById options.boxId = .ok betBox →
        params.secret = options.secret → params.choice = options.choice →
        params.commitment =
          (generateCommit H runtime.randomBytes (some options.secret) options.choice).commitment →
        ChecksCommitment H manager node runtime betBox options := by
  rintro ⟨H, h⟩
  let commitment := (generateCommit H exampleRuntime.randomBytes (some exampleSecret) 0).commitment
  have hshow := showsBet_exampleBet commitment
  have hpasses := (h (exampleManager 1000000)
    (exampleClient (shownBox (exampleBet commitment) 100) (.object none none)) exampleRuntime
    (exampleBuilder 1000000) (exampleBet commitment) (shownBox (exampleBet commitment) 100)
    ⟨[], exampleSecret, 0⟩ hshow rfl rfl rfl rfl).1
  rw [getVerifiedBox_shown hshow _ rfl] at hpasses
  obtain ⟨digest, hlen, hdigest⟩ :=
    commitment_eq_encode (H := H) exampleRuntime.randomBytes (some exampleSecret) 0
  rw [hdigest] at hpasses
  split at hpasses
  · next hkey =>
      have h29 := ((serializeCollByte_eq_encode_iff hlen).mp hkey).1
      simp only [exampleBet, Js.bufferFromHex_encode] at h29
      exact absurd h29 (by decide)
  · exact throw_ne_ok _ _ hpasses

end Commitment

section Timeout

/-- A refund stops with the message of the timeout exactly before the timeout. -/
def StopsBeforeTimeout (manager : BetManager) (node : NodeClient) (runtime : Runtime)
    (options : RefundBetOptions) (currentHeight : Nat) (timeoutHeight : Int) : Prop :=
  (∃ read, (refundBet manager node runtime options).result =
      throw (timeoutNotReached runtime currentHeight read)) ↔
    (currentHeight : Int) < timeoutHeight

variable {manager : BetManager} {node : NodeClient} {runtime : Runtime}
  {builder : TransactionBuilder} {params : PlaceBetParams} {betBox : PendingBetBox}

/-- The errors that are not those of a flow itself. -/
def FromBelow : SdkError → Prop
  | .betError _ => False
  | _ => True

theorem serializeSValue_throwsOnly (v : SValue) : ThrowsOnly FromBelow (serializeSValue v) := by
  induction v with
  | sigmaProp value =>
      rw [serializeSValue, serializeSigmaProp]
      split
      · exact .error trivial
      · exact .ok _
  | some value ih =>
      apply ThrowsOnly.bind ih
      intro inner
      exact .ok _
  | pair left right ihl ihr =>
      apply ThrowsOnly.bind ihl
      intro leftSerialized
      apply ThrowsOnly.bind ihr
      intro rightSerialized
      exact .ok _
  | _ => exact .ok _

theorem toWalletFormat_throwsOnly (tx : ErgoTransaction) :
    ThrowsOnly FromBelow (toWalletFormat tx) := by
  have register (entry : Reg × SValue) : ThrowsOnly FromBelow (walletRegister entry) := by
    apply ThrowsOnly.bind (serializeSValue_throwsOnly entry.2)
    intro value
    exact .ok _
  have output (out : TransactionOutput) : ThrowsOnly FromBelow (walletOutput out) := by
    apply ThrowsOnly.bind (.optionMapM (fun entries => .mapM register entries) _)
    intro registers
    exact .ok _
  apply ThrowsOnly.bind (.mapM output tx.outputs)
  intro requests
  exact .ok _

theorem build_throwsOnly (inputs : List TransactionInput) (outputs : List TransactionOutput) :
    ThrowsOnly FromBelow (builder.build inputs outputs) := by
  simp only [build]
  split
  · exact .error trivial
  split
  · exact .error trivial
  split
  · split
    · exact .error trivial
    · split
      · exact .ok _
      · exact .ok _
  · exact .ok _

theorem serializedValue_throwsOnly (r : Reg) : ThrowsOnly FromBelow (serializedValue betBox r) := by
  rw [serializedValue]
  split
  · exact .error trivial
  · exact .ok _

theorem submit_throwsOnly {α : Type}
    {built : Except SdkError (ErgoTransaction × TransactionBuilder)}
    {finish : Text → Except SdkError α} (hbuilt : ThrowsOnly FromBelow built)
    (hfinish : ∀ txId, ThrowsOnly FromBelow (finish txId)) :
    ThrowsOnly FromBelow (manager.submit node built finish).result := by
  cases built with
  | error e => exact .error (hbuilt e rfl)
  | ok built =>
      simp only [submit]
      split
      · next e he => exact .error (toWalletFormat_throwsOnly built.1 e he)
      · split
        · exact .error trivial
        · exact hfinish _

/-- Once the timeout is taken as reached, what a refund throws is not about it. -/
theorem refundBet_throwsOnly {options : RefundBetOptions}
    (hexpired : getExpiredBox node runtime options = .ok betBox) :
    ThrowsOnly FromBelow (refundBet manager node runtime options).result := by
  simp only [refundBet, hexpired]
  apply submit_throwsOnly (build_throwsOnly _ _)
  intro txId
  apply ThrowsOnly.bind (serializedValue_throwsOnly .R8)
  intro betId
  exact .ok _

/-- The text of a byte collection, read as a number, exceeds no height. -/
theorem exceeds_serializeCollByte (data : Text) (c : Nat) :
    (Js.stringToNumber (serializeCollByte data)).exceeds c = false := by
  rw [serializeCollByte_eq]
  generalize Vlq.encode (Js.bufferFromHex data).length ++ Js.bufferFromHex data = rest
  have hcons : Hex.encode (0x0e :: 0x01 :: rest) = '0' :: 'e' :: Hex.encode (0x01 :: rest) := rfl
  rw [hcons]
  apply Js.exceeds_zero_mantissa
  intro d hd
  obtain ⟨n, hn⟩ := Hex.value_of_mem_encode hd
  exact Js.not_isWhitespace hn

theorem getExpiredBox_shown (hshow : ShowsBet builder params betBox) {options : RefundBetOptions}
    (hbox : node.getBoxById options.boxId = .ok betBox) {currentHeight : Nat}
    (hheight : node.getCurrentHeight = .ok currentHeight) :
    getExpiredBox node runtime options = .ok betBox := by
  have hsecret : shownText (betOutput params) .R9 = some (serializeCollByte params.secret) := rfl
  obtain ⟨r9, hr9, htext⟩ := hshow.register hsecret
  simp only [getExpiredBox, getBetBox_eq_ok hbox, ok_bind, hr9, hheight, htext,
    exceeds_serializeCollByte]
  rfl

theorem refundBet_ne_timeoutNotReached (hshow : ShowsBet builder params betBox)
    {options : RefundBetOptions} (hbox : node.getBoxById options.boxId = .ok betBox)
    {currentHeight : Nat} (hheight : node.getCurrentHeight = .ok currentHeight) :
    ¬ ∃ read, (refundBet manager node runtime options).result =
      throw (timeoutNotReached runtime currentHeight read) := by
  rintro ⟨read, hread⟩
  exact refundBet_throwsOnly (getExpiredBox_shown hshow hbox hheight) _ hread

/-- The timeout stops no refund, so it stops the right ones when it is in the past. -/
theorem stopsBeforeTimeout_iff (hshow : ShowsBet builder params betBox) {options : RefundBetOptions}
    (hbox : node.getBoxById options.boxId = .ok betBox) {currentHeight : Nat}
    (hheight : node.getCurrentHeight = .ok currentHeight) :
    StopsBeforeTimeout manager node runtime options currentHeight params.timeoutHeight ↔
      params.timeoutHeight ≤ currentHeight := by
  rw [StopsBeforeTimeout, iff_false_left (refundBet_ne_timeoutNotReached hshow hbox hheight),
    Int.not_lt]

theorem stopsBeforeTimeout_exampleBet :
    StopsBeforeTimeout (exampleManager 1000000)
        (exampleClient (shownBox (exampleBet exampleCommitment) 100) (.object none none))
        exampleRuntime ⟨[], []⟩ 100 (exampleBet exampleCommitment).timeoutHeight ↔
      (exampleBet exampleCommitment).timeoutHeight ≤ (100 : Nat) :=
  stopsBeforeTimeout_iff (showsBet_exampleBet exampleCommitment) rfl rfl

theorem refund_before_timeout :
    ¬ ∀ (manager : BetManager) (node : NodeClient) (runtime : Runtime)
        (builder : TransactionBuilder) (params : PlaceBetParams) (betBox : PendingBetBox)
        (options : RefundBetOptions) (currentHeight : Nat),
        ShowsBet builder params betBox → node.getBoxById options.boxId = .ok betBox →
        node.getCurrentHeight = .ok currentHeight →
        StopsBeforeTimeout manager node runtime options currentHeight params.timeoutHeight := by
  intro h
  have hshow := showsBet_exampleBet exampleCommitment
  have hstops := h (exampleManager 1000000)
    (exampleClient (shownBox (exampleBet exampleCommitment) 100) (.object none none)) exampleRuntime
    (exampleBuilder 1000000) (exampleBet exampleCommitment)
    (shownBox (exampleBet exampleCommitment) 100) ⟨[], []⟩ 100 hshow rfl rfl
  exact refundBet_ne_timeoutNotReached hshow rfl rfl (hstops.mpr (by decide))

end Timeout

end DuckPools.Sdk
