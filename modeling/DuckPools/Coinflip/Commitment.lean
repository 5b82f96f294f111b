import DuckPools.Backend.Rng
import DuckPools.Coinflip.Contract
import DuckPools.Frontend.BetForm
import DuckPools.Sdk.Crypto

/-!
# One commitment, four implementations

The preimage is the same everywhere: the bytes of the secret and one byte for the
choice. The frontend and the backend hash it to 32 bytes, as the contract does, and
agree with it on every input. The SDK keeps half of the 64-byte digest, which is a
different function of the preimage.
-/

namespace DuckPools.CoinflipV2

variable (H : Blake2b)

/-- The bytes that the contract hashes. -/
def commitPreimage (secret : Bytes) (choice : Int32) : Bytes := secret ++ [choiceByte choice]

/-- Every implementation commits to what the contract recomputes. -/
structure CommitmentsAgree (secret : Bytes) (choice : Int32) : Prop where
  sdk : ∀ (randomBytes : Vector Byte 8) (secretHex : Text), Hex.decode secretHex = some secret →
    (Sdk.generateCommit H randomBytes (some secretHex) choice.toInt).commitment =
      Hex.encode (computedHash H secret choice)
  backend : Backend.generate_commit H secret choice.toInt =
    .ok (Hex.encode (computedHash H secret choice))
  backendVerify : ∀ commit_hex, Backend.verify_commit H commit_hex secret choice.toInt =
    .ok (Hex.encode (computedHash H secret choice) == Py.lower commit_hex)
  frontend : Frontend.generateCommitment H secret choice.toInt =
    Hex.encode (computedHash H secret choice)
  frontendVerify : ∀ commitment, Frontend.verifyCommitment H secret choice.toInt commitment =
    (Hex.encode (computedHash H secret choice) == Js.toLowerCase commitment)

variable {H} {secret : Bytes} {choice : Int32}

theorem choiceByte_eq_ofInt (hchoice : choice = 0 ∨ choice = 1) :
    BitVec.ofInt 8 choice.toInt = choiceByte choice := by
  rcases hchoice with rfl | rfl <;> decide

theorem commitmentHash_eq_computedHash (hchoice : choice = 0 ∨ choice = 1) (secret : Bytes) :
    Frontend.commitmentHash H secret choice.toInt = computedHash H secret choice := by
  rw [Frontend.commitmentHash, computedHash, Js.toUint8, choiceByte_eq_ofInt hchoice]

theorem sdk_commitment_eq {secretHex : Text} (randomBytes : Vector Byte 8)
    (hchoice : choice = 0 ∨ choice = 1) (hlen : secret.length = 8)
    (hsecret : Hex.decode secretHex = some secret) :
    (Sdk.generateCommit H randomBytes (some secretHex) choice.toInt).commitment =
      Hex.encode ((H.digest 64 (commitPreimage secret choice)).toList.take 32) := by
  simp only [Sdk.generateCommit, Sdk.actualSecret_of_decode randomBytes hsecret hlen,
    Sdk.secretBytes_of_decode hsecret hlen, choiceByte_eq_ofInt hchoice, Sdk.toList_blake2b256]
  rfl

theorem backend_commit_eq (hchoice : choice = 0 ∨ choice = 1) (hlen : secret.length = 8) :
    Backend.generate_commit H secret choice.toInt =
        .ok (Hex.encode (computedHash H secret choice)) ∧
      ∀ commit_hex, Backend.verify_commit H commit_hex secret choice.toInt =
        .ok (Hex.encode (computedHash H secret choice) == Py.lower commit_hex) := by
  have hrange : choice.toInt = 0 ∨ choice.toInt = 1 := by
    rcases hchoice with rfl | rfl <;> decide
  have generated := Backend.generate_commit_eq_ok H hlen hrange
  have verified := fun commit_hex => Backend.verify_commit_eq_ok H commit_hex hlen hrange
  rw [choiceByte_eq_ofInt hchoice] at generated
  simp only [choiceByte_eq_ofInt hchoice] at verified
  exact ⟨generated, verified⟩

/-- Only the truncation of the SDK stands between the implementations. -/
theorem commitmentsAgree_iff_truncation (H : Blake2b) (hchoice : choice = 0 ∨ choice = 1)
    (hlen : secret.length = 8) :
    CommitmentsAgree H secret choice ↔
      (H.digest 64 (commitPreimage secret choice)).toList.take 32 =
        (H.digest 32 (commitPreimage secret choice)).toList := by
  constructor
  · intro h
    have sdk := h.sdk (Vector.replicate 8 0) (Hex.encode secret) (Hex.decode_encode secret)
    rw [sdk_commitment_eq _ hchoice hlen (Hex.decode_encode secret)] at sdk
    exact Hex.encode_injective sdk
  · intro h
    obtain ⟨generated, verified⟩ := @backend_commit_eq H secret choice hchoice hlen
    have frontend := @commitmentHash_eq_computedHash H choice hchoice secret
    refine ⟨?_, generated, verified, ?_, ?_⟩
    · intro randomBytes secretHex hsecret
      rw [sdk_commitment_eq randomBytes hchoice hlen hsecret, h]
      rfl
    · rw [Frontend.generateCommitment, frontend, Js.bytesToHex]
    · intro commitment
      rw [Frontend.verifyCommitment, frontend, Js.bytesToHex]

/-- A hash whose digests spell their length. -/
def lengthHash : Blake2b := ⟨fun n _ => Vector.replicate n (BitVec.ofNat 8 n)⟩

theorem not_commitmentsAgree_lengthHash (hchoice : choice = 0 ∨ choice = 1)
    (hlen : secret.length = 8) : ¬ CommitmentsAgree lengthHash secret choice := by
  rw [commitmentsAgree_iff_truncation lengthHash hchoice hlen]
  simp only [lengthHash, Vector.toList_replicate]
  decide

/-- Agreement is a property of the hash at one message, and not one that hashes have. -/
theorem commitments_agree_iff (hlen : secret.length = 8) (hchoice : choice = 0 ∨ choice = 1) :
    (∀ H : Blake2b, CommitmentsAgree H secret choice ↔
      (H.digest 64 (commitPreimage secret choice)).toList.take 32 =
        (H.digest 32 (commitPreimage secret choice)).toList) ∧
      ¬ ∀ H : Blake2b, CommitmentsAgree H secret choice := by
  constructor
  · intro H
    exact commitmentsAgree_iff_truncation H hchoice hlen
  · intro h
    exact not_commitmentsAgree_lengthHash hchoice hlen (h lengthHash)

theorem commitments_agree_iff_zero :
    ¬ ∀ H : Blake2b, CommitmentsAgree H (List.replicate 8 0) 0 :=
  (commitments_agree_iff List.length_replicate (Or.inl rfl)).2

theorem sdk_commitment_differs :
    ¬ ∀ (H : Blake2b) (secret : Bytes) (choice : Int32), secret.length = 8 →
        (choice = 0 ∨ choice = 1) → CommitmentsAgree H secret choice := by
  intro h
  exact not_commitmentsAgree_lengthHash (Or.inl rfl) List.length_replicate
    (h lengthHash (List.replicate 8 0) 0 List.length_replicate (Or.inl rfl))

end DuckPools.CoinflipV2
