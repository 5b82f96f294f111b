import DuckPools.Backend.BetStore
import DuckPools.Language.NumberText
import DuckPools.Language.Numbers

/-!
# Accepted requests and the texts they store

An amount and a commitment are checked by handing them to `int`, whose literals are more than
digits, and are then kept as the text they came in. The frontend reads the amount of a
record with `parseInt` and `BigInt`. The stored texts are the ones that were meant, digits
alone, exactly if the literals had nothing else in them.
-/

namespace DuckPools.Backend

/-- `[0-9a-f]` -/
def isLowerHexDigit (c : Char) : Bool :=
  (48 ≤ c.toNat && c.toNat ≤ 57) || (97 ≤ c.toNat && c.toNat ≤ 102)

/-- The number that the frontend has after `parseInt(nanoErg, 10)`. -/
def parseNanoErg (nanoErg : Text) : Option Int :=
  (Js.parseInt10 nanoErg).map Js.numberOfBigInt

structure CanonicalCommitment (commitment : Text) : Prop where
  length : commitment.length = 64
  digits : ∀ c ∈ commitment, isLowerHexDigit c
  bytes : ∃ bs, Hex.decode commitment = some bs ∧ bs.length = 32

/-- The text of an amount in the accepted range, the same number to every reader. -/
structure CanonicalAmount (amount : Text) : Prop where
  digits : ∀ c ∈ amount, c.isDigit
  read : ∃ n : Nat, 1_000_000 ≤ n ∧ n ≤ 100_000_000_000 ∧
    Py.int 10 amount = some (n : Int) ∧ parseNanoErg amount = some (n : Int) ∧
    Js.parseBigInt amount = some (n : Int)

/-- What a validated request has stored is canonical. -/
def Canonical (req : PlaceBetRequest) : Prop :=
  CanonicalCommitment req.commitment ∧ ∀ now, CanonicalAmount (req.bet now).betAmount

/-- `str.lower` leaves no capital letter of ASCII. -/
def LowersAscii (lower : Text → Text) : Prop := ∀ s, ∀ c ∈ lower s, c.isUpper = false

/-- The amount and the stripped commitment are literals without sign, underscore, white
space, radix prefix, or digits of another script. -/
def PlainLiterals (lower : Text → Text) (raw : PlaceBetRequest) : Prop :=
  (∀ c ∈ raw.amount, Py.isExtra c = false) ∧
    ∀ c ∈ lower (Py.strip raw.commitment), Py.isExtra c = false ∧ c ≠ 'x'

theorem not_isUpper_iff {c : Char} : c.isUpper = false ↔ c.toNat < 65 ∨ 90 < c.toNat := by
  have bounds : c.isUpper = false ↔ ¬ (65 ≤ c.toNat ∧ c.toNat ≤ 90) := decide_eq_false_iff_not
  rw [bounds]
  omega

theorem isLowerHexDigit_iff {c : Char} :
    isLowerHexDigit c = true ↔ (∃ d, Hex.value c = some d) ∧ c.isUpper = false := by
  simp only [isLowerHexDigit, Bool.or_eq_true, Bool.and_eq_true, decide_eq_true_eq,
    not_isUpper_iff]
  constructor
  · rintro (number | letter)
    · refine ⟨⟨_, if_pos number⟩, by omega⟩
    · refine ⟨⟨c.toNat - 87, ?_⟩, by omega⟩
      rw [Hex.value, if_neg (by omega), if_pos letter]
  · rintro ⟨⟨d, value⟩, notUpper⟩
    have range := Hex.range_of_value value
    omega

theorem isDigit_of_value {c : Char} {d : Nat} (h : Hex.value c = some d) (small : d < 10) :
    c.isDigit = true := by
  have bounds : 48 ≤ c.toNat ∧ c.toNat ≤ 57 := by
    rw [Hex.value] at h
    split_ifs at h with number letter capital
    · exact number
    · cases h
      omega
    · cases h
      omega
  simp only [Char.isDigit, ge_iff_le, Bool.and_eq_true, decide_eq_true_eq, UInt32.le_iff_toNat_le]
  exact bounds

/-- An even number of digits is read as bytes. -/
theorem decode_of_digits : ∀ {s : Text}, s.length % 2 = 0 → (∀ c ∈ s, ∃ d, Hex.value c = some d) →
    ∃ bs, Hex.decode s = some bs
  | [], _, _ => ⟨[], rfl⟩
  | [_], odd, _ => by simp at odd
  | hi :: lo :: rest, even, digits => by
      obtain ⟨h, hh⟩ := digits hi List.mem_cons_self
      obtain ⟨l, hl⟩ := digits lo (List.mem_cons_of_mem _ List.mem_cons_self)
      have evenRest : rest.length % 2 = 0 := by
        simp only [List.length_cons] at even
        omega
      obtain ⟨tail, htail⟩ := decode_of_digits evenRest fun c hc =>
        digits c (List.mem_cons_of_mem _ (List.mem_cons_of_mem _ hc))
      exact ⟨_, Hex.decode_cons_iff.mpr ⟨h, l, tail, hh, hl, htail, rfl⟩⟩

variable {lower : Text → Text}

theorem validateCommitment_eq_ok_iff {v w : Text} :
    validateCommitment lower v = .ok w ↔
      v ≠ [] ∧ w = lower (Py.strip v) ∧ w.length = 64 ∧ ∃ n, Py.int 16 w = some n := by
  unfold validateCommitment
  constructor
  · intro h
    split at h
    · cases h
    · rename_i notEmpty
      dsimp only at h
      split_ifs at h with wrong
      split at h
      · cases h
      · rename_i n read
        cases h
        exact ⟨by simpa using notEmpty, rfl, not_not.mp wrong, n, read⟩
  · rintro ⟨notEmpty, rfl, length, n, read⟩
    rw [if_neg (by simpa using notEmpty), if_neg (by simpa using length), read]
    rfl

/-- A commitment of 64 digits is 32 bytes. -/
theorem canonicalCommitment_iff (lowers : LowersAscii lower) {v w : Text}
    (h : validateCommitment lower v = .ok w) :
    CanonicalCommitment w ↔ ∀ c ∈ w, Py.isExtra c = false ∧ c ≠ 'x' := by
  obtain ⟨_, rfl, length, n, read⟩ := validateCommitment_eq_ok_iff.mp h
  constructor
  · intro canonical c hc
    obtain ⟨⟨d, value⟩, _⟩ := isLowerHexDigit_iff.mp (canonical.digits c hc)
    exact ⟨Py.not_isExtra_of_value value, Py.ne_of_value value rfl⟩
  · intro plain
    have capital : 'X' ∉ lower (Py.strip v) := by
      intro hX
      cases lowers _ _ hX
    have digits : ∀ c ∈ lower (Py.strip v), ∃ d, Hex.value c = some d := by
      intro c hc
      obtain ⟨d, value, _⟩ := Py.value_of_mem_int read (fun c hc => (plain c hc).1)
        (fun _ => ⟨fun hx => (plain _ hx).2 rfl, capital⟩) hc
      exact ⟨d, value⟩
    obtain ⟨bs, decoded⟩ := decode_of_digits (by rw [length]) digits
    have size := Hex.length_of_decode decoded
    refine ⟨length, ?_, bs, decoded, by omega⟩
    intro c hc
    exact isLowerHexDigit_iff.mpr ⟨digits c hc, lowers _ c hc⟩

theorem canonicalAmount_iff {v w : Text} (h : validateAmount v = .ok w) :
    CanonicalAmount w ↔ ∀ c ∈ v, Py.isExtra c = false := by
  obtain ⟨rfl, n, read, low, high⟩ := validateAmount_eq_ok_iff.mp h
  constructor
  · intro canonical c hc
    exact Py.not_isExtra_of_value (Py.value_of_isDigit (canonical.digits c hc))
  · intro plain
    have digits : ∀ c ∈ w, c.isDigit := by
      intro c hc
      obtain ⟨d, value, small⟩ := Py.value_of_mem_int read plain (by simp) hc
      exact isDigit_of_value value small
    have notEmpty : w ≠ [] := by
      rintro rfl
      cases read
    have same : Nat.ofDigitChars 10 w 0 = n := by
      rw [Py.int_of_isDigit digits notEmpty] at read
      exact_mod_cast Option.some.inj read
    refine ⟨digits, n, low, high, read, ?_, ?_⟩
    · rw [parseNanoErg, Js.parseInt10_of_isDigit digits notEmpty, same, Option.map_some,
        Js.numberOfBigInt_natCast (by omega)]
    · rw [Js.parseBigInt_of_isDigit digits notEmpty, same]

/-- What is stored is canonical exactly if the literals of the request were plain. -/
theorem canonical_iff_plainLiterals (lowers : LowersAscii lower) {raw req : PlaceBetRequest}
    (h : raw.validate lower = .ok req) : Canonical req ↔ PlainLiterals lower raw := by
  obtain ⟨_, amount, _, commitment, _⟩ := PlaceBetRequest.validate_eq_ok h
  obtain ⟨_, stored, _⟩ := validateCommitment_eq_ok_iff.mp commitment
  rw [Canonical, PlainLiterals, canonicalCommitment_iff lowers commitment, ← stored]
  constructor
  · rintro ⟨plain, canonical⟩
    exact ⟨(canonicalAmount_iff amount).mp (canonical []), plain⟩
  · rintro ⟨plain, digits⟩
    exact ⟨digits, fun _ => (canonicalAmount_iff amount).mpr plain⟩

theorem lowersAscii_lower : LowersAscii Py.lower := by
  intro s c hc
  obtain ⟨d, _, rfl⟩ := List.mem_map.mp hc
  by_cases upper : d.val ≥ 'A'.val ∧ d.val ≤ 'Z'.val
  · obtain ⟨value, low, _⟩ := Py.toNat_toLower upper
    apply not_isUpper_iff.mpr
    omega
  · rw [Py.toLower_of_not upper]
    exact decide_eq_false upper

theorem plainLiterals_sampleRequest : PlainLiterals Py.lower sampleRequest := by
  constructor
  · intro c hc
    have plain : sampleRequest.amount.all (fun c => !Py.isExtra c) = true := by decide
    simpa using List.all_eq_true.mp plain c hc
  · intro c hc
    have stored := (validateCommitment_eq_ok_iff.mp
      (PlaceBetRequest.validate_eq_ok sampleRequest_validate).2.2.2.1).2.1
    rw [← stored] at hc
    rw [List.eq_of_mem_replicate hc]
    decide

/-- One million with underscores: `int` reads it, `parseInt` reads a one. -/
def underscoredRequest : PlaceBetRequest := { sampleRequest with amount := "1_000_000".toList }

theorem underscoredRequest_validate :
    underscoredRequest.validate Py.lower = .ok underscoredRequest := by
  rfl

theorem canonical_iff_plainLiterals_example :
    Canonical sampleRequest ∧ ¬ Canonical underscoredRequest := by
  constructor
  · apply (canonical_iff_plainLiterals lowersAscii_lower sampleRequest_validate).mpr
    exact plainLiterals_sampleRequest
  · rw [canonical_iff_plainLiterals lowersAscii_lower underscoredRequest_validate]
    intro plain
    exact absurd (plain.1 '_' (by decide)) (by decide)

theorem accepted_request_not_canonical :
    ¬ ∀ (lower : Text → Text), LowersAscii lower → ∀ raw req : PlaceBetRequest,
      raw.validate lower = .ok req → Canonical req := by
  intro h
  have canonical := h Py.lower lowersAscii_lower _ _ underscoredRequest_validate
  exact absurd ((canonical.2 []).digits '_' (by decide)) (by decide)

end DuckPools.Backend
