import DuckPools.Codec.Blake2b
import DuckPools.Language.Python

/-!
# `backend/rng_module.py`

The coinflip functions of the module. Block ids arrive as hexadecimal text and are
decoded before they are hashed; secrets are bytes already. Integers are unbounded, so
the range check of the choice is a check on all integers.
-/

namespace DuckPools.Backend

variable (H : Blake2b)

/-- Raises what `bytes.fromhex` raises. -/
def compute_rng (block_hash : Text) (secret_bytes : Bytes) : Option Nat := do
  let block_hash_bytes ← Py.bytesFromhex block_hash
  let rng_data := block_hash_bytes ++ secret_bytes
  let rng_hash := H.digest 32 rng_data
  return (firstByte rng_hash).toNat % 2

def generate_commit (secret_bytes : Bytes) (choice : Int) : Except String Text := do
  if secret_bytes.length ≠ 8 then
    throw s!"Secret must be 8 bytes, got {secret_bytes.length}"
  if choice ≠ 0 ∧ choice ≠ 1 then
    throw s!"Choice must be 0 or 1, got {choice}"
  let choice_byte := [BitVec.ofInt 8 choice]
  let commit_data := secret_bytes ++ choice_byte
  return Hex.encode (H.digest 32 commit_data).toList

def verify_commit (commit_hex : Text) (secret_bytes : Bytes) (choice : Int) :
    Except String Bool := do
  if secret_bytes.length ≠ 8 then
    return false
  if choice ≠ 0 ∧ choice ≠ 1 then
    return false
  let computed_commit ← generate_commit H secret_bytes choice
  return Py.lower computed_commit == Py.lower commit_hex

theorem generate_commit_eq_ok {secret_bytes : Bytes} {choice : Int}
    (hlen : secret_bytes.length = 8) (hchoice : choice = 0 ∨ choice = 1) :
    generate_commit H secret_bytes choice =
      .ok (Hex.encode (H.digest 32 (secret_bytes ++ [BitVec.ofInt 8 choice])).toList) := by
  have hrange : ¬ (choice ≠ 0 ∧ choice ≠ 1) := by omega
  simp only [generate_commit, ne_eq, hlen, not_true_eq_false, if_false, hrange]
  rfl

/-- Verification compares with the commitment, whatever the case, and never raises. -/
theorem verify_commit_eq_ok {secret_bytes : Bytes} {choice : Int} (commit_hex : Text)
    (hlen : secret_bytes.length = 8) (hchoice : choice = 0 ∨ choice = 1) :
    verify_commit H commit_hex secret_bytes choice =
      .ok (Hex.encode (H.digest 32 (secret_bytes ++ [BitVec.ofInt 8 choice])).toList ==
        Py.lower commit_hex) := by
  have hrange : ¬ (choice ≠ 0 ∧ choice ≠ 1) := by omega
  have generated := generate_commit_eq_ok H hlen hchoice
  have lowered := Hex.map_toLower_encode
    (H.digest 32 (secret_bytes ++ [BitVec.ofInt 8 choice])).toList
  simp only [verify_commit, ne_eq, hlen, not_true_eq_false, if_false, hrange, generated]
  show Except.ok (Py.lower _ == Py.lower commit_hex) = _
  rw [Py.lower, lowered]

end DuckPools.Backend
