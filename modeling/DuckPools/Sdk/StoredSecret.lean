import DuckPools.Sdk.ShownBet

/-!
# The secret that is committed and the secret that is stored

`placeBet` hands its secret to `generateCommit`, which makes eight bytes of it, and to the
builder, which stores the bytes it spells. The contract opens the commitment with what is
stored. These are the same bytes exactly if the secret spells eight bytes, as a generated
one does; the 32 bytes that the register table names are cut to the characters of the
first four.
-/

namespace DuckPools.Sdk

open BetManager TransactionBuilder

variable {H : Blake2b} {manager : BetManager} {node : NodeClient} {runtime : Runtime}
  {options : PlaceBetOptions} {bet : PreparedBet}

/-- The commitment of a bet is the hash of the bytes in `R9` and the choice. -/
def CommitmentOpens (H : Blake2b) (params : PlaceBetParams) : Prop :=
  ∃ secret, shownBytes (betOutput params) .R9 = some secret ∧
    params.commitment =
      Js.bytesToHex (blake2b256 H (.buffer (secret ++ [BitVec.ofInt 8 params.choice]))).toList

/-- What the commitment of a bet was computed from. -/
def committedMessage (params : PlaceBetParams) : Bytes :=
  secretBytes params.secret ++ [BitVec.ofInt 8 params.choice]

/-- What the commitment of a bet is opened with. -/
def storedMessage (params : PlaceBetParams) : Bytes :=
  Js.bufferFromHex params.secret ++ [BitVec.ofInt 8 params.choice]

/-- The two messages differ, and have one digest. -/
def Collides (H : Blake2b) (params : PlaceBetParams) : Prop :=
  committedMessage params ≠ storedMessage params ∧
    blake2b256 H (.buffer (committedMessage params)) =
      blake2b256 H (.buffer (storedMessage params))

/-- A secret that is given spells bytes. -/
def SpellsBytes (secret : Option Text) : Prop :=
  ∀ s, secret = some s → ∃ bytes, Hex.decode s = some bytes

/-- No secret is given, or one of eight bytes. -/
def NoneOrEightBytes : Option Text → Prop
  | none => True
  | some s => s = [] ∨ s.length = 16

theorem shownBytes_secret (params : PlaceBetParams) :
    shownBytes (betOutput params) .R9 = some (Js.bufferFromHex params.secret) := by
  have htext : shownText (betOutput params) .R9 = some (serializeCollByte params.secret) := rfl
  rw [shownBytes, htext, Option.bind_some, deserializeCollByte_serialize]
  rfl

/-- The secret of a bet is not empty, so the commitment is that of this very secret. -/
theorem actualSecret_idem (randomBytes : Vector Byte 8) (secret : Option Text) :
    actualSecret randomBytes (some (actualSecret randomBytes secret)) =
      actualSecret randomBytes secret := by
  match secret with
  | none | some [] =>
      exact actualSecret_of_decode randomBytes (Hex.decode_encode _) Vector.length_toList
  | some (c :: s) => rfl

/-- A secret is the eight bytes that it spells, or it is not what it spells. -/
theorem secretBytes_eq_bufferFromHex_iff {s : Text} {bytes : Bytes}
    (h : Hex.decode s = some bytes) : secretBytes s = Js.bufferFromHex s ↔ s.length = 16 := by
  have hlen := Hex.length_of_decode h
  rw [Js.bufferFromHex_of_decode h]
  constructor
  · intro heq
    by_contra hne
    have hshort : bytes.length ≠ 8 := by omega
    rw [secretBytes, Js.bufferFromHex_of_decode h, if_neg hshort, if_neg (by omega)] at heq
    have hpadded := congrArg List.length heq
    simp only [List.length_append, List.length_take, List.length_replicate] at hpadded
    omega
  · intro h16
    exact secretBytes_of_decode h (by omega)

/-- The secret of a bet spells eight bytes exactly if the options have none or such a one. -/
theorem messages_eq_iff (hspells : SpellsBytes options.secret) (currentHeight : Nat) :
    committedMessage (preparedBet H manager runtime options currentHeight).params =
        storedMessage (preparedBet H manager runtime options currentHeight).params ↔
      NoneOrEightBytes options.secret := by
  rw [committedMessage, storedMessage, List.append_left_inj]
  have generated : secretBytes (generateSecret runtime.randomBytes) =
      Js.bufferFromHex (generateSecret runtime.randomBytes) :=
    (secretBytes_eq_bufferFromHex_iff (Hex.decode_encode _)).mpr
      ((Hex.length_of_decode (Hex.decode_encode _)).trans (by rw [Vector.length_toList]))
  simp only [preparedBet]
  match hsecret : options.secret with
  | none => exact iff_of_true generated trivial
  | some [] => exact iff_of_true generated (Or.inl rfl)
  | some (c :: s) =>
      obtain ⟨bytes, hbytes⟩ := hspells _ hsecret
      have hiff := secretBytes_eq_bufferFromHex_iff hbytes
      simp only [NoneOrEightBytes, reduceCtorEq, false_or]
      exact hiff

/-- A commitment opens if the two messages are one, or by accident. -/
theorem commitmentOpens_preparedBet (options : PlaceBetOptions) (currentHeight : Nat) :
    CommitmentOpens H (preparedBet H manager runtime options currentHeight).params ↔
      committedMessage (preparedBet H manager runtime options currentHeight).params =
          storedMessage (preparedBet H manager runtime options currentHeight).params ∨
        Collides H (preparedBet H manager runtime options currentHeight).params := by
  have hdigest : (preparedBet H manager runtime options currentHeight).params.commitment =
      Js.bytesToHex (blake2b256 H (.buffer (committedMessage
        (preparedBet H manager runtime options currentHeight).params))).toList := by
    simp only [preparedBet, generateCommit, actualSecret_idem, committedMessage]
  generalize (preparedBet H manager runtime options currentHeight).params = params at hdigest ⊢
  have hopens : CommitmentOpens H params ↔
      blake2b256 H (.buffer (committedMessage params)) =
        blake2b256 H (.buffer (storedMessage params)) := by
    simp only [CommitmentOpens, shownBytes_secret, Option.some.injEq, exists_eq_left', hdigest,
      Js.bytesToHex, Hex.encode_injective.eq_iff, Vector.toList_inj, storedMessage]
  rw [hopens, Collides]
  constructor
  · intro heq
    exact (em _).imp_right fun hne => ⟨hne, heq⟩
  · rintro (heq | ⟨_, heq⟩)
    · rw [heq]
    · exact heq

/-- A hash that tells one message from all others. -/
def markingHash (message : Bytes) : Blake2b :=
  ⟨fun n m => Vector.replicate n (if m = message then 1 else 0)⟩

theorem eq_of_blake2b256_markingHash {m message : Bytes}
    (h : blake2b256 (markingHash message) (.buffer m) =
      blake2b256 (markingHash message) (.buffer message)) : m = message := by
  by_contra hne
  have hfirst := congrArg firstByte h
  rw [firstByte_blake2b256, firstByte_blake2b256] at hfirst
  simp only [markingHash, HashInput.toBuffer, if_neg hne, if_true, firstByte,
    Vector.getElem_replicate] at hfirst
  exact absurd hfirst (by decide)

/-- What is stored does not depend on the hash. -/
theorem storedMessage_preparedBet (H : Blake2b) (currentHeight : Nat) :
    storedMessage (preparedBet H manager runtime options currentHeight).params =
      Js.bufferFromHex (actualSecret runtime.randomBytes options.secret) ++
        [BitVec.ofInt 8 options.choice] := rfl

theorem exists_not_commitmentOpens (hspells : SpellsBytes options.secret)
    (hlen : ¬ NoneOrEightBytes options.secret) (currentHeight : Nat) :
    ∃ H, ¬ CommitmentOpens H (preparedBet H manager runtime options currentHeight).params := by
  refine ⟨markingHash (Js.bufferFromHex (actualSecret runtime.randomBytes options.secret) ++
    [BitVec.ofInt 8 options.choice]), ?_⟩
  rw [commitmentOpens_preparedBet, messages_eq_iff hspells]
  rintro (hshort | ⟨hne, hdigest⟩)
  · exact hlen hshort
  · rw [storedMessage_preparedBet] at hne hdigest
    exact hne (eq_of_blake2b256_markingHash hdigest)

/-- An accepted bet opens with its stored secret if that has eight bytes, and otherwise
only if the hash maps the two messages of the bet to one digest, as hashes do not. -/
theorem placed_commitmentOpens_iff (hspells : SpellsBytes options.secret)
    (haccepted : ∃ H bet, prepareBet H manager node runtime options = .ok bet) :
    (∀ H bet, prepareBet H manager node runtime options = .ok bet →
        (CommitmentOpens H bet.params ↔ NoneOrEightBytes options.secret ∨ Collides H bet.params)) ∧
      ((∀ H bet, prepareBet H manager node runtime options = .ok bet →
        CommitmentOpens H bet.params) ↔ NoneOrEightBytes options.secret) := by
  have each : ∀ H bet, prepareBet H manager node runtime options = .ok bet →
      (CommitmentOpens H bet.params ↔
        NoneOrEightBytes options.secret ∨ Collides H bet.params) := by
    intro H bet hbet
    obtain ⟨_, _, currentHeight, _, rfl⟩ := prepareBet_eq_ok_iff.mp hbet
    rw [commitmentOpens_preparedBet, messages_eq_iff hspells]
  refine ⟨each, ?_, fun hlen H bet hbet => (each H bet hbet).mpr (Or.inl hlen)⟩
  intro hall
  by_contra hlen
  obtain ⟨H, bet, hbet⟩ := haccepted
  obtain ⟨hamount, hchoice, currentHeight, hheight, rfl⟩ := prepareBet_eq_ok_iff.mp hbet
  obtain ⟨H', hcloses⟩ :=
    @exists_not_commitmentOpens manager runtime options hspells hlen currentHeight
  exact hcloses (hall H' _
    (prepareBet_eq_ok_iff.mpr ⟨hamount, hchoice, currentHeight, hheight, rfl⟩))

/-- A secret of 32 zero bytes. -/
def longSecret : Text := Hex.encode (List.replicate 32 0)

def longSecretOptions : PlaceBetOptions where
  amount := 1000000000
  choice := 0
  secret := some longSecret
  timeoutDelta := none

theorem spellsBytes_longSecret : SpellsBytes longSecretOptions.secret := by
  rintro _ ⟨⟩
  exact ⟨_, Hex.decode_encode _⟩

theorem not_noneOrEightBytes_longSecret : ¬ NoneOrEightBytes longSecretOptions.secret := by
  rintro (hempty | hlen)
  · exact absurd hempty (by decide)
  · exact absurd hlen (by decide)

theorem placed_commitmentOpens_longSecret :
    (∀ H bet, prepareBet H (exampleManager 1000000)
          (exampleClient (exampleBox 1000000000 []) (.object none none)) exampleRuntime
          longSecretOptions = .ok bet →
        (CommitmentOpens H bet.params ↔
          NoneOrEightBytes longSecretOptions.secret ∨ Collides H bet.params)) ∧
      ((∀ H bet, prepareBet H (exampleManager 1000000)
          (exampleClient (exampleBox 1000000000 []) (.object none none)) exampleRuntime
          longSecretOptions = .ok bet →
        CommitmentOpens H bet.params) ↔ NoneOrEightBytes longSecretOptions.secret) :=
  placed_commitmentOpens_iff spellsBytes_longSecret ⟨exampleHash, _, rfl⟩

theorem long_secret_does_not_open :
    ¬ ∀ (H : Blake2b) (manager : BetManager) (node : NodeClient) (runtime : Runtime)
        (options : PlaceBetOptions) (bet : PreparedBet), SpellsBytes options.secret →
        prepareBet H manager node runtime options = .ok bet → CommitmentOpens H bet.params := by
  intro h
  obtain ⟨H, hcloses⟩ := exists_not_commitmentOpens spellsBytes_longSecret
    not_noneOrEightBytes_longSecret 100
  exact hcloses (h H (exampleManager 1000000)
    (exampleClient (exampleBox 1000000000 []) (.object none none)) exampleRuntime
    longSecretOptions _ spellsBytes_longSecret rfl)

end DuckPools.Sdk
