import DuckPools.Language.Python
import Mathlib.Algebra.Group.Nat.Defs
import Mathlib.Algebra.Ring.Int.Defs
import Mathlib.Data.List.DropRight
import Mathlib.Data.List.TakeWhile

/-!
# Python numbers as text

`s.strip()`, `int(s, base)` and `str(n)`. An integer literal may be surrounded by white
space, carry a sign, a radix prefix if the base is sixteen, and single underscores
between its digits; its digits may come from any script. The limit that the interpreter
sets on the number of digits is left out.
-/

namespace DuckPools.Py

/-- `c.isspace()` -/
def isWhitespace (c : Char) : Bool :=
  isSpace c || (0x1c ≤ c.toNat && c.toNat ≤ 0x1f) || c.toNat == 0x85 || c.toNat == 0xa0 ||
    c.toNat == 0x1680 || (0x2000 ≤ c.toNat && c.toNat ≤ 0x200a) || c.toNat == 0x2028 ||
    c.toNat == 0x2029 || c.toNat == 0x202f || c.toNat == 0x205f || c.toNat == 0x3000

/-- The text without the longest prefix and suffix of such characters. -/
def stripWhile (p : Char → Bool) (s : Text) : Text :=
  (s.dropWhile p).rdropWhile p

/-- `s.strip()` -/
def strip (s : Text) : Text := stripWhile isWhitespace s

/-- The zeros of the scripts with decimal digits, the nine other digits following each. -/
def decimalZeros : List Nat :=
  [0x660, 0x6f0, 0x7c0, 0x966, 0x9e6, 0xa66, 0xae6, 0xb66, 0xbe6, 0xc66, 0xce6, 0xd66, 0xde6,
    0xe50, 0xed0, 0xf20, 0x1040, 0x1090, 0x17e0, 0x1810, 0x1946, 0x19d0, 0x1a80, 0x1a90, 0x1b50,
    0x1bb0, 0x1c40, 0x1c50, 0xa620, 0xa8d0, 0xa900, 0xa9d0, 0xa9f0, 0xaa50, 0xabf0, 0xff10,
    0x104a0, 0x10d30, 0x11066, 0x110f0, 0x11136, 0x111d0, 0x112f0, 0x11450, 0x114d0, 0x11650,
    0x116c0, 0x11730, 0x118e0, 0x11950, 0x11c50, 0x11d50, 0x11da0, 0x11f50, 0x16a60, 0x16ac0,
    0x16b50, 0x1d7ce, 0x1d7d8, 0x1d7e2, 0x1d7ec, 0x1d7f6, 0x1e140, 0x1e2f0, 0x1e4f0, 0x1e950,
    0x1fbf0]

/-- White space and digits of other scripts become the ASCII ones, the rest is no digit. -/
def toAscii (c : Char) : Char :=
  if c.toNat < 127 then c
  else if isWhitespace c then ' '
  else
    match decimalZeros.find? fun z => z ≤ c.toNat && c.toNat < z + 10 with
    | some z => Hex.digit (c.toNat - z)
    | none => '?'

def skipSign : Text → Int × Text
  | '-' :: rest => (-1, rest)
  | '+' :: rest => (1, rest)
  | s => (1, s)

/-- The prefix `0x`, with the one underscore that may follow it. -/
def skipRadix : Text → Text
  | '0' :: 'x' :: '_' :: rest => rest
  | '0' :: 'X' :: '_' :: rest => rest
  | '0' :: 'x' :: rest => rest
  | '0' :: 'X' :: rest => rest
  | s => s

/-- Digits of the base with underscores between them. The flag says that a digit has to
come next: at the start and after an underscore. -/
def readDigits (base : Nat) : Bool → Text → Nat → Option Nat
  | expected, [], acc => if expected then none else some acc
  | expected, c :: rest, acc =>
      if c = '_' then
        if expected then none else readDigits base true rest acc
      else
        ((Hex.value c).filter (· < base)).bind fun d => readDigits base false rest (base * acc + d)

/-- `int(s, base)` for the bases ten and sixteen; `none` is its `ValueError`. -/
def int (base : Nat) (s : Text) : Option Int :=
  let (sign, unsigned) := skipSign (stripWhile isSpace (s.map toAscii))
  let digits := if base = 16 then skipRadix unsigned else unsigned
  (readDigits base true digits 0).map fun n : Nat => sign * (n : Int)

/-- `str(n)` -/
def str (n : Int) : Text :=
  if n < 0 then '-' :: Nat.toDigits 10 n.natAbs else Nat.toDigits 10 n.natAbs

theorem stripWhile_eq_self {p : Char → Bool} {s : Text} (h : ∀ c ∈ s, p c = false) :
    stripWhile p s = s := by
  have front : s.dropWhile p = s := by
    apply List.dropWhile_eq_self_iff.mpr
    intro hl
    simp [h _ (List.getElem_mem hl)]
  rw [stripWhile, front]
  apply List.rdropWhile_eq_self_iff.mpr
  intro hl
  simp [h _ (List.getLast_mem hl)]

/-- Stripping the end keeps the first character, which is not to be stripped. -/
theorem stripWhile_stripWhile (p : Char → Bool) (s : Text) :
    stripWhile p (stripWhile p s) = stripWhile p s := by
  have front : (stripWhile p s).dropWhile p = stripWhile p s := by
    apply List.dropWhile_eq_self_iff.mpr
    intro hl
    have kept := List.rdropWhile_prefix p (s.dropWhile p)
    have bound : 0 < (s.dropWhile p).length := Nat.lt_of_lt_of_le hl kept.length_le
    have first : (stripWhile p s)[0] = (s.dropWhile p)[0] := kept.getElem hl
    rw [first]
    exact List.dropWhile_eq_self_iff.mp (List.dropWhile_idempotent p s) bound
  calc stripWhile p (stripWhile p s)
      = ((stripWhile p s).dropWhile p).rdropWhile p := rfl
    _ = (stripWhile p s).rdropWhile p := by rw [front]
    _ = stripWhile p s := List.rdropWhile_idempotent p _

theorem strip_strip (s : Text) : strip (strip s) = strip s := stripWhile_stripWhile _ s

theorem toAscii_of_lt {c : Char} (h : c.toNat < 127) : toAscii c = c := if_pos h

theorem isDigit_range {c : Char} (h : c.isDigit) : 48 ≤ c.toNat ∧ c.toNat ≤ 57 := by
  simp only [Char.isDigit, ge_iff_le, Bool.and_eq_true, decide_eq_true_eq] at h
  exact h

theorem value_of_isDigit {c : Char} (h : c.isDigit) : Hex.value c = some (c.toNat - 48) := by
  rw [Hex.value, if_pos (isDigit_range h)]

/-- A digit is none of the characters that the reader of literals treats specially. -/
theorem ne_of_isDigit {c d : Char} (h : c.isDigit) (hd : d.isDigit = false) : c ≠ d := by
  rintro rfl
  rw [h] at hd
  exact Bool.false_ne_true hd.symm

theorem readDigits_of_isDigit {s : Text} (h : ∀ c ∈ s, c.isDigit) (acc : Nat) :
    readDigits 10 false s acc = some (Nat.ofDigitChars 10 s acc) := by
  induction s generalizing acc with
  | nil => rfl
  | cons c s ih =>
      have hc := h c List.mem_cons_self
      have hrange := isDigit_range hc
      have small : c.toNat - 48 < 10 := by omega
      rw [readDigits, if_neg (ne_of_isDigit hc rfl), value_of_isDigit hc, Option.filter_some,
        if_pos (by simpa using small), Option.bind_some,
        ih (fun d hd => h d (List.mem_cons_of_mem c hd)), Nat.ofDigitChars_cons]
      rfl

theorem map_toAscii_eq_self {s : Text} (h : ∀ c ∈ s, c.toNat < 127) : s.map toAscii = s := by
  rw [List.map_congr_left (g := id), List.map_id]
  intro c hc
  exact toAscii_of_lt (h c hc)

theorem skipSign_eq_self {s : Text} (hminus : '-' ∉ s) (hplus : '+' ∉ s) :
    skipSign s = (1, s) := by
  rw [skipSign.eq_3]
  · rintro rest rfl
    exact hminus List.mem_cons_self
  · rintro rest rfl
    exact hplus List.mem_cons_self

/-- A text of decimal digits is the number that it spells. -/
theorem int_of_isDigit {s : Text} (h : ∀ c ∈ s, c.isDigit) (hne : s ≠ []) :
    int 10 s = some (Nat.ofDigitChars 10 s 0 : Int) := by
  have ascii : s.map toAscii = s := by
    apply map_toAscii_eq_self
    intro c hc
    have hrange := isDigit_range (h c hc)
    omega
  have stripped : stripWhile isSpace s = s := by
    apply stripWhile_eq_self
    intro c hc
    exact not_isSpace (value_of_isDigit (h c hc))
  have noSign : skipSign s = (1, s) :=
    skipSign_eq_self (fun hc => Bool.false_ne_true (h _ hc)) fun hc => Bool.false_ne_true (h _ hc)
  have read : readDigits 10 true s 0 = some (Nat.ofDigitChars 10 s 0) := by
    have all := readDigits_of_isDigit h 0
    obtain ⟨c, rest, rfl⟩ := List.exists_cons_of_ne_nil hne
    have hc := h c List.mem_cons_self
    rw [readDigits, if_neg (ne_of_isDigit hc rfl)] at all ⊢
    exact all
  simp only [int, ascii, stripped, noSign, read, Option.map_some, Int.one_mul, Nat.reduceEqDiff,
    if_false]

/-- A number that was written out is read back. -/
theorem int_str (n : Nat) : int 10 (str n) = some (n : Int) := by
  have digits : ∀ c ∈ Nat.toDigits 10 n, c.isDigit := fun c hc =>
    Nat.isDigit_of_mem_toDigits (by decide) (by decide) hc
  have notEmpty : Nat.toDigits 10 n ≠ [] :=
    List.ne_nil_of_length_pos (Nat.length_toDigits_pos (b := 10) (n := n))
  rw [str, if_neg (by omega), Int.natAbs_natCast, int_of_isDigit digits notEmpty,
    Nat.ofDigitChars_ten_toDigits]

theorem ne_of_value {c d : Char} {n : Nat} (h : Hex.value c = some n) (hd : Hex.value d = none) :
    c ≠ d := by
  rintro rfl
  rw [h] at hd
  cases hd

theorem skipRadix_eq_self {s : Text} (hx : 'x' ∉ s) (hX : 'X' ∉ s) : skipRadix s = s := by
  unfold skipRadix
  split
  · simp at hx
  · simp at hX
  · simp at hx
  · simp at hX
  · rfl

theorem notMem_of_value {s : Text} (h : ∀ c ∈ s, ∃ n, Hex.value c = some n) {d : Char}
    (hd : Hex.value d = none) : d ∉ s := by
  intro mem
  obtain ⟨n, hn⟩ := h d mem
  exact ne_of_value hn hd rfl

/-- A text of digits alone is read as it is. -/
theorem int_of_value {s : Text} (h : ∀ c ∈ s, ∃ n, Hex.value c = some n) :
    int 16 s = (readDigits 16 true s 0).map fun n : Nat => (n : Int) := by
  have ascii : s.map toAscii = s := by
    apply map_toAscii_eq_self
    intro c hc
    obtain ⟨n, hn⟩ := h c hc
    have hrange := Hex.range_of_value hn
    omega
  have stripped : stripWhile isSpace s = s := by
    apply stripWhile_eq_self
    intro c hc
    obtain ⟨n, hn⟩ := h c hc
    exact not_isSpace hn
  have unsigned : skipSign s = (1, s) :=
    skipSign_eq_self (notMem_of_value h rfl) (notMem_of_value h rfl)
  have noRadix : skipRadix s = s :=
    skipRadix_eq_self (notMem_of_value h rfl) (notMem_of_value h rfl)
  simp only [int, ascii, stripped, unsigned, noRadix, if_true, Int.one_mul]

theorem readDigits_value {c : Char} {n : Nat} (hc : Hex.value c = some n) (expected : Bool)
    (rest : Text) (acc : Nat) :
    readDigits 16 expected (c :: rest) acc = readDigits 16 false rest (16 * acc + n) := by
  have small : n < 16 := (Hex.digit_of_value hc).1
  rw [readDigits, if_neg (ne_of_value hc rfl), hc, Option.filter_some,
    if_pos (by simpa using small), Option.bind_some]

/-- Two digits are the value of a byte. -/
theorem int_pair {hi lo : Char} {h l : Nat} (hh : Hex.value hi = some h)
    (hl : Hex.value lo = some l) : int 16 [hi, lo] = some ((16 * h + l : Nat) : Int) := by
  have digits : ∀ c ∈ [hi, lo], ∃ n, Hex.value c = some n := by
    intro c hc
    rcases List.mem_cons.mp hc with rfl | hc
    · exact ⟨h, hh⟩
    · rw [List.mem_singleton.mp hc]
      exact ⟨l, hl⟩
  rw [int_of_value digits, readDigits_value hh, readDigits_value hl, Nat.mul_zero, Nat.zero_add]
  rfl

theorem lt_of_isSpace {c : Char} (space : isSpace c = true) : c.toNat < 127 := by
  simp only [isSpace, Bool.or_eq_true, Bool.and_eq_true, decide_eq_true_eq, beq_iff_eq] at space
  omega

/-- White space in front is skipped. -/
theorem int_space {c : Char} (base : Nat) (rest : Text) (space : isSpace c = true) :
    int base (c :: rest) = int base rest := by
  have stripped : stripWhile isSpace ((c :: rest).map toAscii) =
      stripWhile isSpace (rest.map toAscii) := by
    rw [List.map_cons, toAscii_of_lt (lt_of_isSpace space), stripWhile, stripWhile,
      List.dropWhile_cons_of_pos space]
  rw [int, int, stripped]

theorem int_space_digit {c d : Char} {n : Nat} (space : isSpace c = true)
    (hd : Hex.value d = some n) : int 16 [c, d] = some (n : Int) := by
  have digits : ∀ e ∈ [d], ∃ n, Hex.value e = some n := by
    intro e he
    rw [List.mem_singleton.mp he]
    exact ⟨n, hd⟩
  rw [int_space 16 [d] space, int_of_value digits, readDigits_value hd, Nat.mul_zero, Nat.zero_add]
  rfl

/-- White space alone is no number. -/
theorem int_spaces {c d : Char} (hc : isSpace c = true) (hd : isSpace d = true) :
    int 16 [c, d] = none := by
  rw [int_space 16 [d] hc, int_space 16 [] hd]
  rfl

/-- What a literal may contain besides digits: signs, underscores, white space, and digits of
other scripts. -/
def isExtra (c : Char) : Bool :=
  c == '+' || c == '-' || c == '_' || isSpace c || 127 ≤ c.toNat

theorem not_isExtra_iff {c : Char} :
    isExtra c = false ↔
      c ≠ '+' ∧ c ≠ '-' ∧ c ≠ '_' ∧ isSpace c = false ∧ c.toNat < 127 := by
  simp only [isExtra, Bool.or_eq_false_iff, beq_eq_false_iff_ne, decide_eq_false_iff_not,
    Nat.not_le, ne_eq, and_assoc]

theorem not_isExtra_of_value {c : Char} {n : Nat} (h : Hex.value c = some n) :
    isExtra c = false := by
  have hrange := Hex.range_of_value h
  refine not_isExtra_iff.mpr ⟨?_, ?_, ?_, not_isSpace h, by omega⟩
  · exact ne_of_value h rfl
  · exact ne_of_value h rfl
  · exact ne_of_value h rfl

theorem value_of_mem_readDigits {base : Nat} {s : Text} (plain : '_' ∉ s) {expected : Bool}
    {acc n : Nat} (h : readDigits base expected s acc = some n) {c : Char} (hc : c ∈ s) :
    ∃ d, Hex.value c = some d ∧ d < base := by
  induction s generalizing expected acc with
  | nil => cases hc
  | cons first rest ih =>
      obtain ⟨hfirst, hrest⟩ := not_or.mp (mt List.mem_cons.mpr plain)
      rw [readDigits, if_neg (Ne.symm hfirst)] at h
      obtain ⟨d, digit, h⟩ := Option.bind_eq_some_iff.mp h
      obtain ⟨value, small⟩ := Option.filter_eq_some_iff.mp digit
      cases List.mem_cons.mp hc with
      | inl same =>
          rw [same]
          exact ⟨d, value, by simpa using small⟩
      | inr later => exact ih hrest h later

/-- A literal without them consists of digits. -/
theorem value_of_mem_int {base : Nat} {s : Text} {n : Int} (h : int base s = some n)
    (plain : ∀ c ∈ s, isExtra c = false) (hx : base = 16 → 'x' ∉ s ∧ 'X' ∉ s) {c : Char}
    (hc : c ∈ s) : ∃ d, Hex.value c = some d ∧ d < base := by
  have ascii : s.map toAscii = s :=
    map_toAscii_eq_self fun c hc => (not_isExtra_iff.mp (plain c hc)).2.2.2.2
  have stripped : stripWhile isSpace s = s :=
    stripWhile_eq_self fun c hc => (not_isExtra_iff.mp (plain c hc)).2.2.2.1
  have noSign : skipSign s = (1, s) := by
    apply skipSign_eq_self
    · exact fun hc => (not_isExtra_iff.mp (plain _ hc)).2.1 rfl
    · exact fun hc => (not_isExtra_iff.mp (plain _ hc)).1 rfl
  have noRadix : (if base = 16 then skipRadix s else s) = s := by
    split
    · rename_i hbase
      exact skipRadix_eq_self (hx hbase).1 (hx hbase).2
    · rfl
  simp only [int, ascii, stripped, noSign, noRadix] at h
  obtain ⟨value, read, _⟩ := Option.map_eq_some_iff.mp h
  exact value_of_mem_readDigits (fun hc => (not_isExtra_iff.mp (plain _ hc)).2.2.1 rfl) read hc

example : int 10 " 1_000\n".toList = some 1000 := rfl

end DuckPools.Py
