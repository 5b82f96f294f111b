import DuckPools.Language.NumberText
import Mathlib.Algebra.Order.Field.Rat
import Mathlib.Data.List.DropRight
import Mathlib.Tactic.FieldSimp

/-!
# Decimal numerals

Digits, and after a point at least one more digit. A numeral is canonical when no zero can be
dropped from it; equal canonical numerals have equal values because reading is a function.
-/

namespace DuckPools.Numerals

/-- The value of a numeral. -/
def value (s : Text) : Option ℚ :=
  match s.dropWhile (· != '.') with
  | [] => (Js.digitsValue 10 s).map fun whole : Nat => (whole : ℚ)
  | _ :: fraction => do
      let whole ← Js.digitsValue 10 (s.takeWhile (· != '.'))
      let part ← Js.digitsValue 10 fraction
      return whole + part / 10 ^ fraction.length

structure IsCanonical (s : Text) (x : ℚ) : Prop where
  value : value s = some x
  noLeadingZero : ∀ c rest, s = '0' :: c :: rest → c = '.'
  noTrailingZero : '.' ∈ s → s.getLast? ≠ some '0'

theorem IsCanonical.injective {s : Text} {x y : ℚ} (hx : IsCanonical s x) (hy : IsCanonical s y) :
    x = y :=
  Option.some.inj (hx.value.symm.trans hy.value)

/-- `s.replace(/0+$/, '')` -/
def trimZeros (s : Text) : Text := s.rdropWhile (· == '0')

variable {whole fraction s : Text}

theorem ne_point_of_isDigit (h : ∀ c ∈ s, c.isDigit) : ∀ c ∈ s, (c != '.') = true := by
  intro c member
  rw [bne_iff_ne]
  rintro rfl
  cases h '.' member

theorem value_of_isDigit (h : ∀ c ∈ s, c.isDigit) (hne : s ≠ []) :
    value s = some (Nat.ofDigitChars 10 s 0 : ℚ) := by
  have noPoint : s.dropWhile (· != '.') = [] :=
    List.dropWhile_eq_nil_iff.mpr (ne_point_of_isDigit h)
  rw [value, noPoint, Js.digitsValue_of_isDigit h hne]
  rfl

theorem value_append_point (hwhole : ∀ c ∈ whole, c.isDigit) (wholeNe : whole ≠ [])
    (hfraction : ∀ c ∈ fraction, c.isDigit) (fractionNe : fraction ≠ []) :
    value (whole ++ '.' :: fraction) =
      some ((Nat.ofDigitChars 10 whole 0 : ℚ) +
        (Nat.ofDigitChars 10 fraction 0 : ℚ) / 10 ^ fraction.length) := by
  have rest : (whole ++ '.' :: fraction).dropWhile (· != '.') = '.' :: fraction := by
    rw [List.dropWhile_append_of_pos (ne_point_of_isDigit hwhole)]
    rfl
  have front : (whole ++ '.' :: fraction).takeWhile (· != '.') = whole := by
    rw [List.takeWhile_append_of_pos (ne_point_of_isDigit hwhole)]
    exact List.append_nil whole
  rw [value, rest, front]
  simp only [Js.digitsValue_of_isDigit hwhole wholeNe,
    Js.digitsValue_of_isDigit hfraction fractionNe]
  rfl

theorem isDigit_of_mem_toDigits {n : Nat} : ∀ c ∈ Nat.toDigits 10 n, c.isDigit := fun _ =>
  Nat.isDigit_of_mem_toDigits (by decide) (by decide)

/-- A natural number is written without a leading zero. -/
theorem toDigits_noLeadingZero (n : Nat) : ∀ rest, Nat.toDigits 10 n = '0' :: rest → rest = [] := by
  induction n using Nat.strong_induction_on with
  | _ n ih =>
      intro rest h
      by_cases small : n < 10
      · rw [Nat.toDigits_of_lt_base small] at h
        exact (List.cons.inj h).2.symm
      · rw [Nat.toDigits_of_base_le (by decide) (by omega)] at h
        obtain ⟨c, front, hfront⟩ :=
          List.exists_cons_of_ne_nil (@Nat.toDigits_ne_nil (n / 10) 10)
        rw [hfront, List.cons_append] at h
        obtain ⟨rfl, rfl⟩ := List.cons.inj h
        have single := ih (n / 10) (by omega) front hfront
        subst single
        have zero : n / 10 = 0 := by
          have read := @Nat.ofDigitChars_ten_toDigits (n / 10)
          rw [hfront] at read
          exact read.symm
        omega

/-- The zeros that are dropped scale the value. -/
theorem ofDigitChars_trimZeros (s : Text) :
    Nat.ofDigitChars 10 s 0 =
      Nat.ofDigitChars 10 (trimZeros s) 0 * 10 ^ (s.length - (trimZeros s).length) := by
  induction s using List.reverseRecOn with
  | nil => rfl
  | append_singleton s c ih =>
      rw [trimZeros]
      by_cases zero : c = '0'
      · subst zero
        have shorter : (s.rdropWhile (· == '0')).length ≤ s.length :=
          (List.rdropWhile_prefix _ s).length_le
        rw [List.rdropWhile_concat_pos _ _ _ rfl, Nat.ofDigitChars_append, ih, trimZeros,
          List.length_append, List.length_singleton, Nat.sub_add_comm shorter, Nat.pow_succ]
        show 10 * _ + 0 = _
        rw [Nat.add_zero, Nat.mul_comm 10, Nat.mul_assoc]
      · rw [List.rdropWhile_concat_neg _ _ _ (by simpa using zero), Nat.sub_self, Nat.pow_zero,
          Nat.mul_one]

theorem mem_of_mem_trimZeros {c : Char} (h : c ∈ trimZeros s) : c ∈ s :=
  (List.rdropWhile_prefix _ s).subset h

theorem getLast_trimZeros : (trimZeros s).getLast? ≠ some '0' := by
  intro last
  have nonempty : trimZeros s ≠ [] := by
    intro empty
    rw [empty] at last
    cases last
  have kept := List.rdropWhile_last_not (· == '0') s nonempty
  rw [List.getLast?_eq_some_getLast nonempty] at last
  exact kept (beq_iff_eq.mpr (Option.some.inj last))

/-- A number written with `d` digits after the point, without the zeros at the end. -/
def fixedPoint (d n : Nat) : Text :=
  let whole := Nat.toDigits 10 (n / 10 ^ d)
  let fraction := trimZeros ((Nat.toDigits 10 (n % 10 ^ d)).leftpad d '0')
  if fraction = [] then whole else whole ++ '.' :: fraction

section FixedPoint

variable (d n : Nat)

/-- The digits after the point, before zeros are dropped. -/
def paddedFraction : Text := (Nat.toDigits 10 (n % 10 ^ d)).leftpad d '0'

theorem isDigit_paddedFraction : ∀ c ∈ paddedFraction d n, c.isDigit := by
  intro c member
  cases List.mem_append.mp member with
  | inl zero =>
      rw [List.eq_of_mem_replicate zero]
      rfl
  | inr digit => exact isDigit_of_mem_toDigits c digit

theorem ofDigitChars_paddedFraction :
    Nat.ofDigitChars 10 (paddedFraction d n) 0 = n % 10 ^ d := by
  rw [paddedFraction, List.leftpad, Nat.ofDigitChars_append, Nat.ofDigitChars_replicate_zero,
    Nat.mul_zero, Nat.ofDigitChars_ten_toDigits]

variable {d}

theorem length_paddedFraction (hd : 0 < d) : (paddedFraction d n).length = d := by
  have fits : (Nat.toDigits 10 (n % 10 ^ d)).length ≤ d :=
    (Nat.length_toDigits_le_iff (by decide) hd).mpr (Nat.mod_lt _ (Nat.pow_pos (by decide)))
  rw [paddedFraction, List.length_leftpad, Nat.max_eq_left fits]

variable (d)

/-- What is left after the point. -/
theorem value_trimmed :
    ((n % 10 ^ d : Nat) : ℚ) / 10 ^ d =
      (Nat.ofDigitChars 10 (trimZeros (paddedFraction d n)) 0 : ℚ) /
        10 ^ (trimZeros (paddedFraction d n)).length := by
  cases Nat.eq_zero_or_pos d with
  | inl zero =>
      subst zero
      have none : trimZeros (paddedFraction 0 n) = [] := by
        rw [paddedFraction, Nat.pow_zero, Nat.mod_one]
        rfl
      rw [none, Nat.pow_zero, Nat.mod_one]
      norm_num
  | inr positive =>
      have scaled := ofDigitChars_trimZeros (paddedFraction d n)
      have shorter : (trimZeros (paddedFraction d n)).length ≤ d := by
        have := (List.rdropWhile_prefix (· == '0') (paddedFraction d n)).length_le
        rwa [length_paddedFraction n positive] at this
      rw [ofDigitChars_paddedFraction, length_paddedFraction n positive] at scaled
      obtain ⟨k, split⟩ := Nat.exists_eq_add_of_le shorter
      rw [scaled, Nat.cast_mul, Nat.cast_pow, Nat.cast_ofNat]
      generalize (trimZeros (paddedFraction d n)).length = kept at split
      rw [split, Nat.add_sub_cancel_left, pow_add]
      field_simp

/-- No digit is lost and none is left over. -/
theorem fixedPoint_isCanonical : IsCanonical (fixedPoint d n) (n / 10 ^ d) := by
  have parts : (n : ℚ) / 10 ^ d = (n / 10 ^ d : Nat) + ((n % 10 ^ d : Nat) : ℚ) / 10 ^ d := by
    have whole : (n : ℚ) = ((10 ^ d * (n / 10 ^ d) + n % 10 ^ d : Nat) : ℚ) := by
      rw [Nat.div_add_mod]
    rw [whole, Nat.cast_add, Nat.cast_mul, Nat.cast_pow, Nat.cast_ofNat, add_div,
      mul_div_cancel_left₀ _ (pow_ne_zero d (by norm_num : (10 : ℚ) ≠ 0))]
  have wholeDigits := @isDigit_of_mem_toDigits (n / 10 ^ d)
  rw [parts, value_trimmed]
  show IsCanonical (if trimZeros (paddedFraction d n) = [] then _ else
    Nat.toDigits 10 (n / 10 ^ d) ++ '.' :: trimZeros (paddedFraction d n)) _
  split
  · rename_i none
    refine ⟨?_, ?_, ?_⟩
    · rw [value_of_isDigit wholeDigits Nat.toDigits_ne_nil, Nat.ofDigitChars_ten_toDigits, none]
      norm_num
    · intro c rest h
      cases toDigits_noLeadingZero _ _ h
    · intro point
      cases wholeDigits '.' point
  · rename_i some
    have fractionDigits : ∀ c ∈ trimZeros (paddedFraction d n), c.isDigit := fun c member =>
      isDigit_paddedFraction d n c (mem_of_mem_trimZeros member)
    refine ⟨?_, ?_, ?_⟩
    · rw [value_append_point wholeDigits Nat.toDigits_ne_nil fractionDigits some,
        Nat.ofDigitChars_ten_toDigits]
    · intro c rest h
      obtain ⟨first, front, hfront⟩ :=
        List.exists_cons_of_ne_nil (@Nat.toDigits_ne_nil (n / 10 ^ d) 10)
      rw [hfront, List.cons_append] at h
      obtain ⟨rfl, tail⟩ := List.cons.inj h
      rw [toDigits_noLeadingZero _ _ hfront, List.nil_append] at tail
      exact (List.cons.inj tail).1.symm
    · intro _ last
      rw [List.getLast?_append, List.getLast?_cons] at last
      have kept := @getLast_trimZeros (paddedFraction d n)
      rw [List.getLast?_eq_some_getLast some] at kept last
      exact kept last

end FixedPoint

end DuckPools.Numerals
