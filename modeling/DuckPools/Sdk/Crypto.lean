import DuckPools.Codec.Blake2b
import DuckPools.Language.JavaScript

/-!
# `sdk/src/crypto`

Commitments and outcomes as the SDK computes them. Its `blake2b256` asks the runtime
for `blake2b512` and keeps the first half of the digest; its `computeRng` hashes the
characters of the block id, not the bytes they spell.
-/

namespace DuckPools.Sdk

variable (H : Blake2b)

/-- The argument of `blake2b256`: strings are hashed as their UTF-8 bytes. -/
inductive HashInput where
  | text (s : Text)
  | buffer (b : Bytes)

def HashInput.toBuffer : HashInput → Bytes
  | .text s => Js.bufferFromUtf8 s
  | .buffer b => b

/-- `createHash('blake2b512').update(buffer).digest().subarray(0, 32)` -/
def blake2b256 (data : HashInput) : Vector Byte 32 :=
  Vector.cast (by decide) ((H.digest 64 data.toBuffer).take 32)

/-- `randomBytes(8).toString('hex')`, for the eight bytes the generator delivers. -/
def generateSecret (randomBytes : Vector Byte 8) : Text := Js.bytesToHex randomBytes.toList

structure Commit where
  secret : Text
  commitment : Text
  deriving DecidableEq

/-- The eight bytes a secret stands for: hex if it spells eight bytes, otherwise its
UTF-8 bytes, padded with zeros or truncated. -/
def secretBytes (actualSecret : Text) : Bytes :=
  if (Js.bufferFromHex actualSecret).length = 8 then Js.bufferFromHex actualSecret
  else if actualSecret.length = 16 ∧ actualSecret.all (fun c => (Hex.value c).isSome) then
    Js.bufferFromHex actualSecret
  else
    let inputBytes := (Js.bufferFromUtf8 actualSecret).take 8
    inputBytes ++ List.replicate (8 - inputBytes.length) 0

/-- `secret || generateSecret()`: an empty secret counts as none. -/
def actualSecret (randomBytes : Vector Byte 8) : Option Text → Text
  | none | some [] => generateSecret randomBytes
  | some secret => secret

def generateCommit (randomBytes : Vector Byte 8) (secret : Option Text) (choice : Int) : Commit :=
  let secretBytes := secretBytes (actualSecret randomBytes secret)
  let choiceByte := BitVec.ofInt 8 choice
  let commitHash := blake2b256 H (.buffer (secretBytes ++ [choiceByte]))
  { secret := Js.bytesToHex secretBytes, commitment := Js.bytesToHex commitHash.toList }

def verifyCommit (randomBytes : Vector Byte 8) (commitHex secretHex : Text) (choice : Int) : Bool :=
  Js.toLowerCase commitHex ==
    Js.toLowerCase (generateCommit H randomBytes (some secretHex) choice).commitment

/-- The bytes that `computeRng` hashes. -/
def rngBuffer (blockHash secretHex : Text) : Bytes :=
  Js.bufferFromUtf8 blockHash ++ Js.bufferFromHex secretHex

def computeRng (blockHash secretHex : Text) : Nat :=
  (firstByte (blake2b256 H (.buffer (rngBuffer blockHash secretHex)))).toNat % 2

theorem toList_blake2b256 (data : HashInput) :
    (blake2b256 H data).toList = (H.digest 64 data.toBuffer).toList.take 32 := by
  rw [blake2b256, Vector.toList_cast, Vector.toList_take]

theorem firstByte_blake2b256 (data : HashInput) :
    firstByte (blake2b256 H data) = firstByte (H.digest 64 data.toBuffer) := by
  rw [firstByte, firstByte, blake2b256, Vector.getElem_cast, Vector.getElem_take]

/-- A spelling of eight bytes stands for them. -/
theorem secretBytes_of_decode {s : Text} {secret : Bytes} (h : Hex.decode s = some secret)
    (hlen : secret.length = 8) : secretBytes s = secret := by
  rw [secretBytes, Js.bufferFromHex_of_decode h, if_pos hlen]

theorem actualSecret_of_decode {s : Text} {secret : Bytes} (randomBytes : Vector Byte 8)
    (h : Hex.decode s = some secret) (hlen : secret.length = 8) :
    actualSecret randomBytes (some s) = s := by
  cases s with
  | nil =>
      obtain rfl : [] = secret := by simpa [Hex.decode] using h
      simp at hlen
  | cons c s => rfl

end DuckPools.Sdk
