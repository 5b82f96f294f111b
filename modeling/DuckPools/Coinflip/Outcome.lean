import DuckPools.Backend.Rng
import DuckPools.Frontend.Registers
import DuckPools.Sdk.Crypto

/-!
# One outcome, three off-chain implementations

The frontend and the backend decode the block id and hash its 32 bytes with the secret. The
backend is given the secret, and the frontend reads it from the text of the register, where it
loses a secret of one byte; for any other they agree. The SDK hashes the 64 characters of the
block id instead, and with the truncated digest.
-/

namespace DuckPools.CoinflipV2

open ErgoScript

variable {Point : Type} (E : Curve Point)

/-- The outcome inside `buildRevealTx`: the secret is decoded from the text of R9. -/
def revealedFlip (H : Blake2b) (blockHash : Text) (secret : Bytes) : Nat :=
  Frontend.flipResult H blockHash (Frontend.decodeCollByte (Value.hex E (.collByte secret)))

/-- The three outcomes for a block id and a secret are the same number. -/
structure OutcomesAgree (H : Blake2b) (blockHash secretHex : Text) (secret : Bytes) : Prop where
  sdk : Backend.compute_rng H blockHash secret = some (Sdk.computeRng H blockHash secretHex)
  frontend : Backend.compute_rng H blockHash secret = some (revealedFlip E H blockHash secret)

variable {blockHash secretHex : Text} {raw secret : Bytes}

theorem compute_rng_of_decode (H : Blake2b) (hblock : Hex.decode blockHash = some raw)
    (secret : Bytes) :
    Backend.compute_rng H blockHash secret =
      some ((firstByte (H.digest 32 (raw ++ secret))).toNat % 2) := by
  simp only [Backend.compute_rng, Py.bytesFromhex_of_decode hblock, Option.bind_eq_bind,
    Option.bind_some, Option.pure_def]

theorem revealedFlip_of_decode (H : Blake2b) (hblock : Hex.decode blockHash = some raw)
    (hbound : secret.length < 2 ^ 31) :
    revealedFlip E H blockHash secret =
      (firstByte (H.digest 32 (raw ++ if secret.length = 1 then [] else secret))).toNat % 2 := by
  rw [revealedFlip, Frontend.decodeCollByte_hex E hbound, Frontend.flipResult,
    Frontend.hexToBytes_of_decode hblock, Blake2b.blake2b256]

theorem computeRng_of_decode (H : Blake2b) (hsecret : Hex.decode secretHex = some secret) :
    Sdk.computeRng H blockHash secretHex =
      (firstByte (H.digest 64 (Js.bufferFromUtf8 blockHash ++ secret))).toNat % 2 := by
  simp only [Sdk.computeRng, Sdk.firstByte_blake2b256, Sdk.HashInput.toBuffer, Sdk.rngBuffer,
    Js.bufferFromHex_of_decode hsecret]

/-- The characters of a block id are twice as many as its bytes. -/
theorem rngBuffer_ne (hblock : Hex.decode blockHash = some raw) (hlen : raw.length = 32)
    (hsecret : Hex.decode secretHex = some secret) :
    Sdk.rngBuffer blockHash secretHex ≠ raw ++ secret := by
  intro h
  have hlength := congrArg List.length h
  rw [Sdk.rngBuffer, Js.bufferFromHex_of_decode hsecret, List.length_append, List.length_append,
    Js.length_bufferFromUtf8 (Hex.lt_of_mem_decode hblock), Hex.length_of_decode hblock] at hlength
  omega

theorem outcomesAgree_iff_parity (H : Blake2b) (hblock : Hex.decode blockHash = some raw)
    (hsecret : Hex.decode secretHex = some secret) (hbound : secret.length < 2 ^ 31) :
    OutcomesAgree E H blockHash secretHex secret ↔
      (firstByte (H.digest 64 (Js.bufferFromUtf8 blockHash ++ secret))).toNat % 2 =
          (firstByte (H.digest 32 (raw ++ secret))).toNat % 2 ∧
        (secret.length = 1 →
          (firstByte (H.digest 32 raw)).toNat % 2 =
            (firstByte (H.digest 32 (raw ++ secret))).toNat % 2) := by
  have backend := compute_rng_of_decode H hblock secret
  have sdk := @computeRng_of_decode blockHash _ _ H hsecret
  have frontend := revealedFlip_of_decode E H hblock hbound
  constructor
  · intro h
    have hsdk := h.sdk
    have hfrontend := h.frontend
    rw [backend, sdk, Option.some.injEq] at hsdk
    refine ⟨hsdk.symm, fun one => ?_⟩
    rw [backend, frontend, if_pos one, List.append_nil, Option.some.injEq] at hfrontend
    exact hfrontend.symm
  · rintro ⟨parity, oneByte⟩
    refine ⟨by rw [backend, sdk, parity], ?_⟩
    rw [backend, frontend]
    by_cases one : secret.length = 1
    · rw [if_pos one, List.append_nil, oneByte one]
    · rw [if_neg one]

/-- A hash that is odd on long digests and even on short ones. -/
def longOddHash : Blake2b := ⟨fun n _ => Vector.replicate n (if n = 64 then 1 else 0)⟩

theorem not_outcomesAgree_longOddHash (hblock : Hex.decode blockHash = some raw)
    (hsecret : Hex.decode secretHex = some secret) :
    ¬ OutcomesAgree E longOddHash blockHash secretHex secret := by
  intro h
  have backend := compute_rng_of_decode longOddHash hblock secret
  have sdk := @computeRng_of_decode blockHash _ _ longOddHash hsecret
  have same := h.sdk
  rw [backend, sdk, Option.some.injEq] at same
  simp only [longOddHash, firstByte, Vector.getElem_replicate] at same
  exact absurd same (by decide)

/-- The SDK never hashes the bytes that the others hash. Its outcome agrees exactly when two
unrelated digests happen to start with bytes of the same parity, and the frontend's does unless
the secret is of one byte, where again two parities have to be the same by chance. -/
theorem outcomes_agree_iff (hblock : Hex.decode blockHash = some raw) (hlen : raw.length = 32)
    (hsecret : Hex.decode secretHex = some secret) (hbound : secret.length < 2 ^ 31) :
    Sdk.rngBuffer blockHash secretHex ≠ raw ++ secret ∧
      (∀ H : Blake2b, OutcomesAgree E H blockHash secretHex secret ↔
        (firstByte (H.digest 64 (Js.bufferFromUtf8 blockHash ++ secret))).toNat % 2 =
            (firstByte (H.digest 32 (raw ++ secret))).toNat % 2 ∧
          (secret.length = 1 →
            (firstByte (H.digest 32 raw)).toNat % 2 =
              (firstByte (H.digest 32 (raw ++ secret))).toNat % 2)) ∧
      ¬ ∀ H : Blake2b, OutcomesAgree E H blockHash secretHex secret := by
  refine ⟨rngBuffer_ne hblock hlen hsecret, ?_, ?_⟩
  · intro H
    exact outcomesAgree_iff_parity E H hblock hsecret hbound
  · intro h
    exact not_outcomesAgree_longOddHash E hblock hsecret (h longOddHash)

/-- The secret of eight bytes that ends with a one. -/
def secretOne : Bytes := [0, 0, 0, 0, 0, 0, 0, 1]

theorem outcomes_agree_iff_one :
    ¬ ∀ H : Blake2b, OutcomesAgree twoKeys H (Hex.encode (List.replicate 32 0))
      (Hex.encode secretOne) secretOne :=
  (outcomes_agree_iff twoKeys (Hex.decode_encode _) List.length_replicate (Hex.decode_encode _)
    (by decide)).2.2

theorem sdk_outcome_differs :
    ¬ ∀ (H : Blake2b) (blockHash secretHex : Text) (raw secret : Bytes),
        Hex.decode blockHash = some raw → raw.length = 32 →
        Hex.decode secretHex = some secret → secret.length < 2 ^ 31 →
        OutcomesAgree twoKeys H blockHash secretHex secret := by
  intro h
  exact not_outcomesAgree_longOddHash twoKeys (Hex.decode_encode _) (Hex.decode_encode _)
    (h longOddHash (Hex.encode (List.replicate 32 0)) (Hex.encode secretOne) _ _
      (Hex.decode_encode _) List.length_replicate (Hex.decode_encode _) (by decide))

end DuckPools.CoinflipV2
