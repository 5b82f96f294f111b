import DuckPools.Codec.Hex
import DuckPools.Games.DicePayout
import DuckPools.Language.JavaScript
import DuckPools.Language.Python

/-!
# Commitments of the three games

`rng_module.py`, `dice.ts` and `plinko.ts` commit to a secret and the parameters of a bet by
hashing the secret and one or two bytes. Nothing in what is hashed names the game. For secrets
of eight bytes and parameters that the games admit, the bytes tell the games apart all the
same: what opens a commitment is the bet that was committed to, or it shows a collision.
-/

namespace DuckPools.Games

open Dice (DICE_MIN_TARGET DICE_MAX_TARGET)

variable {n : Nat} (sha256 : Bytes → List.Vector Byte n)

/-- What is returned by the functions of the frontend. -/
structure Commit where
  secret : Bytes
  commitment : Text

section Source

/-- `generate_commit` of `rng_module.py` -/
def generate_commit (secret_bytes : Bytes) (choice : Int) : Except String Text := do
  if secret_bytes.length ≠ 8 then
    throw s!"Secret must be 8 bytes, got {secret_bytes.length}"
  if choice ≠ 0 ∧ choice ≠ 1 then
    throw s!"Choice must be 0 or 1, got {choice}"
  let choice_byte := [BitVec.ofInt 8 choice]
  let commit_data := secret_bytes ++ choice_byte
  return Hex.encode (sha256 commit_data).toList

def verify_commit (commit_hex : Text) (secret_bytes : Bytes) (choice : Int) :
    Except String Bool := do
  if secret_bytes.length ≠ 8 then
    return false
  if choice ≠ 0 ∧ choice ≠ 1 then
    return false
  let computed_commit ← generate_commit sha256 secret_bytes choice
  return Py.lower computed_commit == Py.lower commit_hex

variable (randomBytes : Vector Byte 8)

def generateDiceCommit (rollTarget : Int) (secret : Option Bytes) : Commit :=
  let actualSecret := secret.getD randomBytes.toList
  let targetByte := [BitVec.ofInt 8 rollTarget]
  let commitInput := actualSecret ++ targetByte
  let commitHash := sha256 commitInput
  { secret := actualSecret, commitment := Js.bytesToHex commitHash.toList }

def verifyDiceCommit (commitmentHex : Text) (secretBytes : Bytes) (rollTarget : Int) : Bool :=
  let commitment := (generateDiceCommit sha256 randomBytes rollTarget (some secretBytes)).commitment
  Js.toLowerCase commitment == Js.toLowerCase commitmentHex

def generatePlinkoCommit (rows : Int) (targetSlot : Option Int) (secret : Option Bytes) : Commit :=
  let actualSecret := secret.getD randomBytes.toList
  let rowsByte := [BitVec.ofInt 8 rows]
  let targetByte := [BitVec.ofInt 8 (targetSlot.getD 0)]
  let commitInput := actualSecret ++ rowsByte ++ targetByte
  let commitHash := sha256 commitInput
  { secret := actualSecret, commitment := Js.bytesToHex commitHash.toList }

def verifyPlinkoCommit (commitmentHex : Text) (secretBytes : Bytes) (rows : Int)
    (targetSlot : Option Int) : Bool :=
  let commitment :=
    (generatePlinkoCommit sha256 randomBytes rows targetSlot (some secretBytes)).commitment
  Js.toLowerCase commitment == Js.toLowerCase commitmentHex

end Source

/-- A bet of one of the games, with its secret. -/
inductive Bet where
  | coinflip (secret : Bytes) (choice : Int)
  | dice (secret : Bytes) (rollTarget : Int)
  | plinko (secret : Bytes) (rows : Int) (targetSlot : Option Int)

namespace Bet

def secret : Bet → Bytes
  | coinflip secret _ | dice secret _ | plinko secret _ _ => secret

/-- The parameters as they are hashed. -/
def parameters : Bet → List Int
  | coinflip _ choice => [choice]
  | dice _ rollTarget => [rollTarget]
  | plinko _ rows targetSlot => [rows, targetSlot.getD 0]

/-- What is hashed. -/
def message (b : Bet) : Bytes := b.secret ++ b.parameters.map (BitVec.ofInt 8)

/-- The parameters that the game admits. -/
def Admitted : Bet → Prop
  | coinflip _ choice => choice = 0 ∨ choice = 1
  | dice _ rollTarget => (DICE_MIN_TARGET : Int) ≤ rollTarget ∧ rollTarget ≤ DICE_MAX_TARGET
  | plinko _ rows targetSlot =>
      8 ≤ rows ∧ rows ≤ 16 ∧ 0 ≤ targetSlot.getD 0 ∧ targetSlot.getD 0 ≤ rows

instance : DecidablePred Admitted
  | coinflip _ choice => inferInstanceAs (Decidable (choice = 0 ∨ choice = 1))
  | dice _ _ => inferInstanceAs (Decidable (_ ∧ _))
  | plinko _ _ _ => inferInstanceAs (Decidable (_ ∧ _ ∧ _ ∧ _))

/-- The same bet of the same game; no slot is the first slot. -/
def Same : Bet → Bet → Prop
  | coinflip secret choice, coinflip secret' choice' => secret = secret' ∧ choice = choice'
  | dice secret rollTarget, dice secret' rollTarget' => secret = secret' ∧ rollTarget = rollTarget'
  | plinko secret rows slot, plinko secret' rows' slot' =>
      secret = secret' ∧ rows = rows' ∧ slot.getD 0 = slot'.getD 0
  | _, _ => False

/-- The commitment that the game makes to the bet. -/
def commitment (randomBytes : Vector Byte 8) : Bet → Except String Text
  | coinflip secret choice => generate_commit sha256 secret choice
  | dice secret rollTarget =>
      .ok (generateDiceCommit sha256 randomBytes rollTarget (some secret)).commitment
  | plinko secret rows targetSlot =>
      .ok (generatePlinkoCommit sha256 randomBytes rows targetSlot (some secret)).commitment

/-- What the game says to a commitment that the bet is to open. -/
def verify (randomBytes : Vector Byte 8) (commitmentHex : Text) : Bet → Except String Bool
  | coinflip secret choice => verify_commit sha256 commitmentHex secret choice
  | dice secret rollTarget =>
      .ok (verifyDiceCommit sha256 randomBytes commitmentHex secret rollTarget)
  | plinko secret rows targetSlot =>
      .ok (verifyPlinkoCommit sha256 randomBytes commitmentHex secret rows targetSlot)

end Bet

/-- Two messages with one digest. -/
def Collision (a b : Bytes) : Prop := a ≠ b ∧ sha256 a = sha256 b

section Messages

variable {b b' : Bet}

theorem ofInt_eq_iff {x y : Int} (hx : 0 ≤ x) (hx' : x < 256) (hy : 0 ≤ y) (hy' : y < 256) :
    BitVec.ofInt 8 x = BitVec.ofInt 8 y ↔ x = y := by
  constructor
  · intro same
    have values := congrArg BitVec.toNat same
    simp only [BitVec.toNat_ofInt] at values
    omega
  · exact congrArg _

/-- Every parameter fits into its byte. -/
theorem Bet.Admitted.byte (admitted : b.Admitted) :
    ∀ p ∈ b.parameters, 0 ≤ p ∧ p < 256 := by
  cases b with
  | coinflip secret choice =>
      simp only [Bet.parameters, List.forall_mem_singleton]
      simp only [Bet.Admitted] at admitted
      omega
  | dice secret rollTarget =>
      simp only [Bet.parameters, List.forall_mem_singleton]
      simp only [Bet.Admitted, DICE_MIN_TARGET, DICE_MAX_TARGET] at admitted
      omega
  | plinko secret rows targetSlot =>
      simp only [Bet.parameters, List.forall_mem_cons, List.not_mem_nil, false_imp_iff,
        forall_const, and_true]
      simp only [Bet.Admitted] at admitted
      omega

theorem map_ofInt_inj {xs ys : List Int} (hxs : ∀ x ∈ xs, 0 ≤ x ∧ x < 256)
    (hys : ∀ y ∈ ys, 0 ≤ y ∧ y < 256)
    (same : xs.map (BitVec.ofInt 8) = ys.map (BitVec.ofInt 8)) : xs = ys := by
  induction xs generalizing ys with
  | nil => exact (List.map_eq_nil_iff.mp same.symm).symm
  | cons x xs ih =>
      cases ys with
      | nil => cases same
      | cons y ys =>
          obtain ⟨⟨hx, hx'⟩, hxs⟩ := List.forall_mem_cons.mp hxs
          obtain ⟨⟨hy, hy'⟩, hys⟩ := List.forall_mem_cons.mp hys
          obtain ⟨first, rest⟩ := List.cons.inj same
          rw [(ofInt_eq_iff hx hx' hy hy').mp first, ih hxs hys rest]

/-- The parameters tell the games apart. -/
theorem Bet.same_of_parameters (admitted : b.Admitted) (admitted' : b'.Admitted)
    (secret : b.secret = b'.secret) (parameters : b.parameters = b'.parameters) : b.Same b' := by
  cases b with
  | coinflip s choice =>
      cases b' with
      | coinflip s' choice' => exact ⟨secret, List.head_eq_of_cons_eq parameters⟩
      | dice s' rollTarget =>
          obtain rfl : choice = rollTarget := List.head_eq_of_cons_eq parameters
          simp only [Bet.Admitted, DICE_MIN_TARGET] at admitted admitted'
          omega
      | plinko s' rows slot => simp [Bet.parameters] at parameters
  | dice s rollTarget =>
      cases b' with
      | coinflip s' choice =>
          obtain rfl : rollTarget = choice := List.head_eq_of_cons_eq parameters
          simp only [Bet.Admitted, DICE_MIN_TARGET] at admitted admitted'
          omega
      | dice s' rollTarget' => exact ⟨secret, List.head_eq_of_cons_eq parameters⟩
      | plinko s' rows slot => simp [Bet.parameters] at parameters
  | plinko s rows slot =>
      cases b' with
      | coinflip s' choice => simp [Bet.parameters] at parameters
      | dice s' rollTarget => simp [Bet.parameters] at parameters
      | plinko s' rows' slot' =>
          simp only [Bet.parameters, List.cons.injEq, and_true] at parameters
          exact ⟨secret, parameters.1, parameters.2⟩

theorem Bet.Same.message_eq (same : b.Same b') : b.message = b'.message := by
  cases b with
  | coinflip s choice =>
      cases b' with
      | coinflip s' choice' =>
          obtain ⟨rfl, rfl⟩ := same
          rfl
      | dice s' rollTarget => cases same
      | plinko s' rows slot => cases same
  | dice s rollTarget =>
      cases b' with
      | coinflip s' choice => cases same
      | dice s' rollTarget' =>
          obtain ⟨rfl, rfl⟩ := same
          rfl
      | plinko s' rows slot => cases same
  | plinko s rows slot =>
      cases b' with
      | coinflip s' choice => cases same
      | dice s' rollTarget => cases same
      | plinko s' rows' slot' =>
          obtain ⟨rfl, rfl, slots⟩ := same
          simp only [message, parameters, secret, slots]

/-- Secrets of eight bytes end where the parameters begin. -/
theorem Bet.message_eq_iff (admitted : b.Admitted) (admitted' : b'.Admitted)
    (length : b.secret.length = 8) (length' : b'.secret.length = 8) :
    b.message = b'.message ↔ b.Same b' := by
  constructor
  · intro same
    obtain ⟨secrets, bytes⟩ := List.append_inj same (length.trans length'.symm)
    exact same_of_parameters admitted admitted' secrets
      (map_ofInt_inj admitted.byte admitted'.byte bytes)
  · exact Same.message_eq

end Messages

section Openings

variable {b b' : Bet} (randomBytes : Vector Byte 8)

/-- All three hash the message. -/
theorem Bet.commitment_eq (admitted : b.Admitted) (length : b.secret.length = 8) :
    b.commitment sha256 randomBytes = .ok (Hex.encode (sha256 b.message).toList) := by
  cases b with
  | coinflip secret choice =>
      have inRange : ¬ (choice ≠ 0 ∧ choice ≠ 1) := by
        simp only [Admitted] at admitted
        omega
      have eight : ¬ secret.length ≠ 8 := not_not.mpr length
      simp only [commitment, generate_commit, eight, inRange, if_false]
      rfl
  | dice secret rollTarget => rfl
  | plinko secret rows targetSlot =>
      simp only [commitment, generatePlinkoCommit, Option.getD_some, message, parameters,
        Bet.secret, List.append_assoc]
      rfl

theorem Bet.verify_eq (admitted : b.Admitted) (length : b.secret.length = 8)
    (commitmentHex : Text) :
    b.verify sha256 randomBytes commitmentHex =
      .ok (Js.toLowerCase (Hex.encode (sha256 b.message).toList) ==
        Js.toLowerCase commitmentHex) := by
  have commits := commitment_eq sha256 randomBytes admitted length
  cases b with
  | coinflip secret choice =>
      have inRange : ¬ (choice ≠ 0 ∧ choice ≠ 1) := by
        simp only [Admitted] at admitted
        omega
      have eight : ¬ secret.length ≠ 8 := not_not.mpr length
      simp only [commitment] at commits
      simp only [verify, verify_commit, eight, inRange, if_false, commits]
      rfl
  | dice secret rollTarget => rfl
  | plinko secret rows targetSlot =>
      simp only [commitment, Except.ok.injEq] at commits
      simp only [verify, verifyPlinkoCommit, commits]

end Openings

/-- A commitment of one game is opened by the bet that it was made to, or the opening and the
bet collide. -/
theorem opens_own_bet_or_collides (randomBytes : Vector Byte 8) {b b' : Bet}
    (admitted : b.Admitted) (admitted' : b'.Admitted)
    (length : b.secret.length = 8) (length' : b'.secret.length = 8) :
    ∃ commitment, b.commitment sha256 randomBytes = .ok commitment ∧
      (b'.verify sha256 randomBytes commitment = .ok true ↔
        b'.Same b ∨ Collision sha256 b'.message b.message) := by
  refine ⟨_, Bet.commitment_eq sha256 randomBytes admitted length, ?_⟩
  rw [Bet.verify_eq sha256 randomBytes admitted' length', Except.ok.injEq, beq_iff_eq,
    Js.toLowerCase, Js.toLowerCase, Hex.map_toLower_encode, Hex.map_toLower_encode,
    Hex.encode_injective.eq_iff]
  have digests : (sha256 b'.message).toList = (sha256 b.message).toList ↔
      sha256 b'.message = sha256 b.message := List.Vector.toList_injective.eq_iff
  rw [digests, ← Bet.message_eq_iff admitted' admitted length' length]
  constructor
  · intro same
    by_cases messages : b'.message = b.message
    · exact Or.inl messages
    · exact Or.inr ⟨messages, same⟩
  · rintro (messages | collision)
    · exact congrArg sha256 messages
    · exact collision.2

def diceBet : Bet := .dice (List.replicate 8 0) 50

def plinkoBet : Bet := .plinko (List.replicate 8 0) 12 (some 3)

/-- The digests of the two messages. -/
def exampleSha256 (data : Bytes) : List.Vector Byte 32 :=
  if data = plinkoBet.message then
    ⟨[0xd0, 0x2f, 0x47, 0xb6, 0x4e, 0x4e, 0x24, 0x94, 0x4, 0xe0, 0xca, 0xbd,
      0x77, 0x76, 0xda, 0x52, 0x35, 0x69, 0xdb, 0xd, 0x66, 0x20, 0x38, 0x3,
      0x5, 0x31, 0xa4, 0x3, 0x30, 0xa1, 0x66, 0x1e], rfl⟩
  else
    ⟨[0x90, 0xd6, 0xbb, 0xff, 0xe0, 0x96, 0xc8, 0x52, 0xca, 0x89, 0xbe, 0xc6,
      0x7d, 0x89, 0x66, 0xc5, 0xe3, 0x27, 0xba, 0x2c, 0x30, 0x86, 0x5c, 0x5,
      0x3b, 0x7d, 0xb8, 0x58, 0xc, 0x35, 0x18, 0x56], rfl⟩

theorem opens_own_bet_or_collides_example :
    ∃ commitment, diceBet.commitment exampleSha256 (Vector.replicate 8 0) = .ok commitment ∧
      (plinkoBet.verify exampleSha256 (Vector.replicate 8 0) commitment = .ok true ↔
        plinkoBet.Same diceBet ∨
          Collision exampleSha256 plinkoBet.message diceBet.message) :=
  opens_own_bet_or_collides exampleSha256 (Vector.replicate 8 0) (by decide) (by decide) rfl rfl

/-- A secret of nine bytes would tell the other game's parameter. -/
example : (Bet.dice (List.replicate 8 0 ++ [12]) 3).message = plinkoBet.message := by rfl

end DuckPools.Games
