import DuckPools.Language.JavaScript
import Mathlib.Algebra.Group.Nat.Defs
import Mathlib.Algebra.Ring.Int.Defs
import Mathlib.Data.List.TakeWhile

/-!
# JavaScript numbers as text

`Number(s)`, `BigInt(s)` and `n.toString()`. A text in which anything is out of place is
`NaN` as a number and a `SyntaxError` as a `BigInt`; the empty text is zero in both.

A number keeps the decimal digits and the exponent it is written with. Its rounding to a
double is left out: numbers from text are compared with block heights and shown as balances.
-/

namespace DuckPools.Js

inductive Number where
  | nan
  | infinity (negative : Bool)
  /-- `mantissa * 10 ^ exponent` -/
  | decimal (mantissa exponent : Int)

/-- `c < n`, for a natural number `c`. -/
def Number.exceeds (n : Number) (c : Nat) : Bool :=
  match n with
  | nan => false
  | infinity negative => !negative
  | decimal mantissa exponent =>
      if 0 ≤ exponent then (c : Int) < mantissa * 10 ^ exponent.toNat
      else c * 10 ^ (-exponent).toNat < mantissa

/-- From half a step above the largest double on, a number is rounded to `Infinity`. -/
def Number.isFinite (n : Number) : Bool :=
  match n with
  | decimal mantissa exponent =>
      if 0 ≤ exponent then mantissa.natAbs * 10 ^ exponent.toNat < 2 ^ 1024 - 2 ^ 970
      else mantissa.natAbs < (2 ^ 1024 - 2 ^ 970) * 10 ^ (-exponent).toNat
  | _ => false

def trim (s : Text) : Text :=
  ((s.dropWhile isWhitespace).reverse.dropWhile isWhitespace).reverse

def readDigits (base : Nat) : Text → Nat → Option Nat
  | [], acc => some acc
  | c :: rest, acc =>
      ((Hex.value c).filter (· < base)).bind fun d => readDigits base rest (base * acc + d)

/-- The value of one or more digits of the base. -/
def digitsValue (base : Nat) (s : Text) : Option Nat :=
  if s.isEmpty then none else readDigits base s 0

/-- The base and the digits of a literal that names its base. -/
def radixLiteral : Text → Option (Nat × Text)
  | '0' :: 'x' :: rest => some (16, rest)
  | '0' :: 'X' :: rest => some (16, rest)
  | '0' :: 'o' :: rest => some (8, rest)
  | '0' :: 'O' :: rest => some (8, rest)
  | '0' :: 'b' :: rest => some (2, rest)
  | '0' :: 'B' :: rest => some (2, rest)
  | _ => none

def exponentPart : Text → Option Int
  | [] => some 0
  | c :: rest =>
      if c = 'e' ∨ c = 'E' then
        let (sign, digits) := skipSign rest
        (digitsValue 10 digits).map fun n : Nat => sign * (n : Int)
      else none

/-- Mantissa and exponent of an unsigned decimal literal. -/
def decimalLiteral (s : Text) : Option (Nat × Int) :=
  let whole := s.takeWhile Char.isDigit
  let (fraction, rest) :=
    match s.dropWhile Char.isDigit with
    | '.' :: rest => (rest.takeWhile Char.isDigit, rest.dropWhile Char.isDigit)
    | rest => ([], rest)
  (digitsValue 10 (whole ++ fraction)).bind fun mantissa =>
    (exponentPart rest).map fun exponent => (mantissa, exponent - fraction.length)

/-- `Number(s)` -/
def stringToNumber (s : Text) : Number :=
  let s := trim s
  if s.isEmpty then .decimal 0 0
  else
    match radixLiteral s with
    | some (base, digits) =>
        match digitsValue base digits with
        | some n => .decimal n 0
        | none => .nan
    | none =>
        let (sign, unsigned) := skipSign s
        if unsigned = "Infinity".toList then .infinity (sign < 0)
        else
          match decimalLiteral unsigned with
          | some (mantissa, exponent) => .decimal (sign * mantissa) exponent
          | none => .nan

/-- `BigInt(s)`; `none` is its `SyntaxError`. -/
def parseBigInt (s : Text) : Option Int :=
  let s := trim s
  if s.isEmpty then some 0
  else
    match radixLiteral s with
    | some (base, digits) => (digitsValue base digits).map fun n : Nat => (n : Int)
    | none =>
        let (sign, unsigned) := skipSign s
        (digitsValue 10 unsigned).map fun n : Nat => sign * (n : Int)

/-- `n.toString()` of a `BigInt`. -/
def bigIntToString (n : Int) : Text :=
  if n < 0 then '-' :: Nat.toDigits 10 n.natAbs else Nat.toDigits 10 n.natAbs

theorem trim_of_no_whitespace {s : Text} (h : ∀ c ∈ s, isWhitespace c = false) : trim s = s := by
  have keep : ∀ l : Text, (∀ c ∈ l, isWhitespace c = false) → l.dropWhile isWhitespace = l := by
    intro l hl
    cases l with
    | nil => rfl
    | cons c l => rw [List.dropWhile_cons_of_neg (by simp [hl c List.mem_cons_self])]
  rw [trim, keep s h, keep s.reverse (fun c hc => h c (List.mem_reverse.mp hc)),
    List.reverse_reverse]

theorem value_of_isDigit {c : Char} (h : c.isDigit) : Hex.value c = some (c.toNat - 48) := by
  have hrange : 48 ≤ c.toNat ∧ c.toNat ≤ 57 := by
    simp only [Char.isDigit, ge_iff_le, Bool.and_eq_true, decide_eq_true_eq] at h
    exact h
  rw [Hex.value, if_pos hrange]

theorem readDigits_of_isDigit {s : Text} (h : ∀ c ∈ s, c.isDigit) (acc : Nat) :
    readDigits 10 s acc = some (Nat.ofDigitChars 10 s acc) := by
  induction s generalizing acc with
  | nil => rw [readDigits, Nat.ofDigitChars_nil]
  | cons c s ih =>
      have hc := value_of_isDigit (h c List.mem_cons_self)
      have hlt : c.toNat - 48 < 10 := by
        have hrange := Hex.range_of_value hc
        have hdigit := h c List.mem_cons_self
        simp only [Char.isDigit, ge_iff_le, Bool.and_eq_true, decide_eq_true_eq] at hdigit
        have hhi : c.toNat ≤ 57 := hdigit.2
        omega
      rw [readDigits, hc, Option.filter_some, if_pos (by simpa using hlt), Option.bind_some,
        ih (fun d hd => h d (List.mem_cons_of_mem c hd)), Nat.ofDigitChars_cons]
      rfl

theorem radixLiteral_of_isDigit {s : Text} (h : ∀ c ∈ s, c.isDigit) : radixLiteral s = none := by
  have letter : ∀ c : Char, c.isDigit = false → ∀ rest, s ≠ '0' :: c :: rest := by
    rintro c hc rest rfl
    have hdigit := h c (List.mem_cons_of_mem _ List.mem_cons_self)
    rw [hc] at hdigit
    exact Bool.false_ne_true hdigit
  unfold radixLiteral
  split
  · exact absurd rfl (letter 'x' rfl _)
  · exact absurd rfl (letter 'X' rfl _)
  · exact absurd rfl (letter 'o' rfl _)
  · exact absurd rfl (letter 'O' rfl _)
  · exact absurd rfl (letter 'b' rfl _)
  · exact absurd rfl (letter 'B' rfl _)
  · rfl

theorem digitsValue_of_isDigit {s : Text} (h : ∀ c ∈ s, c.isDigit) (hne : s ≠ []) :
    digitsValue 10 s = some (Nat.ofDigitChars 10 s 0) := by
  rw [digitsValue, if_neg (by simp [hne]), readDigits_of_isDigit h]

theorem skipSign_of_isDigit {s : Text} (h : ∀ c ∈ s, c.isDigit) (hne : s ≠ []) :
    skipSign s = (1, s) := by
  obtain ⟨c, rest, rfl⟩ := List.exists_cons_of_ne_nil hne
  exact skipSign_of_digit (value_of_isDigit (h c List.mem_cons_self))

/-- A text of decimal digits is the number it spells. -/
theorem parseBigInt_of_isDigit {s : Text} (h : ∀ c ∈ s, c.isDigit) (hne : s ≠ []) :
    parseBigInt s = some (Nat.ofDigitChars 10 s 0 : Int) := by
  have trimmed : trim s = s := by
    apply trim_of_no_whitespace
    intro c hc
    exact not_isWhitespace (value_of_isDigit (h c hc))
  simp only [parseBigInt, trimmed, List.isEmpty_iff, hne, if_false, radixLiteral_of_isDigit h,
    skipSign_of_isDigit h hne, digitsValue_of_isDigit h hne, Option.map_some, Int.one_mul]

theorem parseBigInt_toDigits (n : Nat) : parseBigInt (Nat.toDigits 10 n) = some (n : Int) := by
  have digits : ∀ c ∈ Nat.toDigits 10 n, c.isDigit := fun c hc =>
    Nat.isDigit_of_mem_toDigits (by decide) (by decide) hc
  have notEmpty : Nat.toDigits 10 n ≠ [] :=
    List.ne_nil_of_length_pos (Nat.length_toDigits_pos (b := 10) (n := n))
  rw [parseBigInt_of_isDigit digits notEmpty, Nat.ofDigitChars_ten_toDigits]

/-- `parseInt(s, 10)`, before its value is rounded to a double: white space and a sign are
skipped, and the longest run of digits is read; `none` is `NaN`. -/
def parseInt10 (s : Text) : Option Int :=
  let (sign, unsigned) := skipSign (s.dropWhile isWhitespace)
  (digitsValue 10 (unsigned.takeWhile Char.isDigit)).map fun n : Nat => sign * (n : Int)

theorem parseInt10_of_isDigit {s : Text} (h : ∀ c ∈ s, c.isDigit) (hne : s ≠ []) :
    parseInt10 s = some (Nat.ofDigitChars 10 s 0 : Int) := by
  have front : s.dropWhile isWhitespace = s := by
    obtain ⟨c, rest, rfl⟩ := List.exists_cons_of_ne_nil hne
    have hc := not_isWhitespace (value_of_isDigit (h c List.mem_cons_self))
    rw [List.dropWhile_cons_of_neg (by simp [hc])]
  have run : s.takeWhile Char.isDigit = s := List.takeWhile_eq_self_iff.mpr h
  simp only [parseInt10, front, skipSign_of_isDigit h hne, run, digitsValue_of_isDigit h hne,
    Option.map_some, Int.one_mul]

theorem bigIntToString_natCast (n : Nat) : bigIntToString n = Nat.toDigits 10 n := by
  rw [bigIntToString, if_neg (by omega), Int.natAbs_natCast]

theorem toDigits_injective : Function.Injective (Nat.toDigits 10) := by
  intro m n h
  have digits := congrArg (fun s => Nat.ofDigitChars 10 s 0) h
  simpa only [Nat.ofDigitChars_ten_toDigits] using digits

theorem mem_bigIntToString {c : Char} {n : Int} (h : c ∈ bigIntToString n) :
    c = '-' ∨ c.isDigit := by
  have digit : ∀ {m : Nat}, c ∈ Nat.toDigits 10 m → c.isDigit :=
    Nat.isDigit_of_mem_toDigits (by decide) (by decide)
  rw [bigIntToString] at h
  split at h
  · rcases List.mem_cons.mp h with sign | rest
    · exact Or.inl sign
    · exact Or.inr (digit rest)
  · exact Or.inr (digit h)

theorem bigIntToString_injective : Function.Injective bigIntToString := by
  have noSign : ∀ {m n : Nat}, Nat.toDigits 10 m ≠ '-' :: Nat.toDigits 10 n := by
    intro m n h
    have sign : '-' ∈ Nat.toDigits 10 m := by
      rw [h]
      exact List.mem_cons_self
    cases Nat.isDigit_of_mem_toDigits (by decide) (by decide) sign
  intro m n h
  rw [bigIntToString, bigIntToString] at h
  split at h
  · split at h
    · have abs := toDigits_injective (List.cons.inj h).2
      omega
    · exact absurd h.symm noSign
  · split at h
    · exact absurd h noSign
    · have abs := toDigits_injective h
      omega

/-- A template literal writes a number like `toString` does. -/
theorem toList_toString (n : Int) : (toString n).toList = bigIntToString n := by
  cases n with
  | ofNat m =>
      rw [Int.ofNat_eq_natCast, bigIntToString_natCast]
      exact String.toList_ofList
  | negSucc m =>
      have text : toString (Int.negSucc m) = "-" ++ String.ofList (Nat.toDigits 10 (m + 1)) := rfl
      rw [text, String.toList_append, String.toList_ofList, String.toList_ofList, bigIntToString,
        if_pos (Int.negSucc_lt_zero m), Int.natAbs_negSucc]
      rfl

/-- A text that starts like a product with zero is zero, or no number. -/
theorem exceeds_zero_mantissa {rest : Text} (h : ∀ c ∈ rest, isWhitespace c = false) (c : Nat) :
    (stringToNumber ('0' :: 'e' :: rest)).exceeds c = false := by
  have trimmed : trim ('0' :: 'e' :: rest) = '0' :: 'e' :: rest := by
    apply trim_of_no_whitespace
    intro d hd
    cases List.mem_cons.mp hd with
    | inl hd =>
        subst hd
        rfl
    | inr hd =>
        cases List.mem_cons.mp hd with
        | inl hd =>
            subst hd
            rfl
        | inr hd => exact h d hd
  have literal : ∀ m e, decimalLiteral ('0' :: 'e' :: rest) = some (m, e) → m = 0 := by
    intro m e hread
    have unfolded : decimalLiteral ('0' :: 'e' :: rest) =
        (exponentPart ('e' :: rest)).map fun exponent => (0, exponent - 0) := rfl
    rw [unfolded] at hread
    cases hexp : exponentPart ('e' :: rest) with
    | none => simp [hexp] at hread
    | some exponent =>
        rw [hexp, Option.map_some] at hread
        exact (congrArg Prod.fst (Option.some.inj hread)).symm
  have noRadix : radixLiteral ('0' :: 'e' :: rest) = none := rfl
  have noSign : skipSign ('0' :: 'e' :: rest) = (1, '0' :: 'e' :: rest) := rfl
  have finite : ('0' :: 'e' :: rest) ≠ "Infinity".toList := by
    intro he
    exact absurd (List.cons.inj he).1 (by decide)
  simp only [stringToNumber, trimmed, List.isEmpty_cons, Bool.false_eq_true, if_false, noRadix,
    noSign, finite]
  cases hread : decimalLiteral ('0' :: 'e' :: rest) with
  | none => rfl
  | some read =>
      obtain ⟨m, e⟩ := read
      obtain rfl := literal m e hread
      have notNegative : ∀ k, ¬ (c : Int) * 10 ^ k < 0 := by
        intro k
        have hcast : (c : Int) * 10 ^ k = ((c * 10 ^ k : Nat) : Int) := by push_cast; rfl
        omega
      simp only [Number.exceeds, Int.ofNat_zero, Int.mul_zero, Int.zero_mul]
      split
      · exact decide_eq_false (Int.not_lt.mpr (Int.natCast_nonneg c))
      · exact decide_eq_false (notNegative _)

end DuckPools.Js
