import DuckPools.Codec.Hex

/-!
# The hash function as a parameter

Blake2b takes the digest length as part of its parameter block, so digests of
different lengths are unrelated values of one message and a truncated long digest is
not the short one. Nothing else is assumed of it.
-/

namespace DuckPools

/-- A hash with selectable digest length. -/
structure Blake2b where
  digest : (length : Nat) → Bytes → Vector Byte length

/-- The 32-byte digest, the native hash of the ledger. -/
def Blake2b.blake2b256 (H : Blake2b) (message : Bytes) : Vector Byte 32 := H.digest 32 message

/-- The byte a digest starts with. -/
def firstByte {n : Nat} (digest : Vector Byte (n + 1)) : Byte := digest[0]

end DuckPools
