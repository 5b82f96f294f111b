import DuckPools.Codec.Hex

/-!
# JavaScript built-ins

The library functions that the TypeScript sources call on strings and byte arrays.
A string is the sequence of its characters; all strings that reach these functions
are built from the basic plane, where characters and code units coincide.

None of them rejects its input: a malformed digit becomes `NaN` and then the byte 0,
an index outside the array is clamped or the write is dropped, a hex decoder stops at
the first bad pair. On well-formed text every decoder is `Hex.decode`.
-/

namespace DuckPools.Js

/-- An index of `slice`: negative ones count from the end, all are clamped. -/
def clampIndex (length : Nat) (i : Int) : Nat :=
  if i < 0 then (length + i).toNat else min i.toNat length

/-- `xs.slice(start, stop)`, on strings and typed arrays alike. -/
def slice {α : Type} (xs : List α) (start stop : Int) : List α :=
  (xs.drop (clampIndex xs.length start)).take
    (clampIndex xs.length stop - clampIndex xs.length start)

theorem clampIndex_natCast (length i : Nat) : clampIndex length (i : Int) = min i length := by
  rw [clampIndex, if_neg (by omega), Int.toNat_natCast]

theorem slice_natCast {α : Type} {xs : List α} {start stop : Nat} (h : stop ≤ xs.length) :
    slice xs start stop = (xs.drop start).take (stop - start) := by
  rw [slice, clampIndex_natCast, clampIndex_natCast, Nat.min_eq_left h]
  by_cases hstart : start ≤ xs.length
  · rw [Nat.min_eq_left hstart]
  · rw [Nat.min_eq_right (by omega), List.drop_length, List.drop_of_length_le (by omega),
      List.take_nil, List.take_nil]

theorem slice_eq_nil {α : Type} {xs : List α} {start : Nat} (stop : Int)
    (h : xs.length ≤ start) : slice xs start stop = [] := by
  rw [slice, clampIndex_natCast, Nat.min_eq_right h, List.drop_length, List.take_nil]

theorem slice_append {α : Type} (front xs : List α) :
    slice (front ++ xs) (front.length : Nat) (front.length + xs.length : Nat) = xs := by
  rw [slice_natCast (by simp)]
  simp

theorem slice_between {α : Type} (front xs back : List α) :
    slice (front ++ (xs ++ back)) (front.length : Nat) (front.length + xs.length : Nat) = xs := by
  rw [slice_natCast (by simp only [List.length_append]; omega)]
  simp

/-- A slice behind `front` that asks for more than what is there is all of it. -/
theorem slice_take {α : Type} (front xs : List α) (count : Nat) :
    slice (front ++ xs) (front.length : Nat) (front.length + count : Nat) = xs.take count := by
  have start : min front.length (front ++ xs).length = front.length := by
    rw [List.length_append]
    omega
  rw [slice, clampIndex_natCast, clampIndex_natCast, start, List.drop_left, List.length_append,
    Nat.add_min_add_left, Nat.add_sub_cancel_left, ← List.take_eq_take_min]

/-- A slice behind `front` that asks for less than what is there is shorter, also if the
number of elements it asks for is negative. -/
theorem length_slice_lt {α : Type} (front : List α) {xs : List α} {count : Int} (h : xs ≠ [])
    (hcount : count < xs.length) :
    (slice (front ++ xs) (front.length : Nat) (front.length + count)).length < xs.length := by
  have hpos := List.length_pos_of_ne_nil h
  have start : min front.length (front ++ xs).length = front.length := by
    rw [List.length_append]
    omega
  have stop : clampIndex (front ++ xs).length (front.length + count) <
      front.length + xs.length := by
    rw [clampIndex, List.length_append]
    split <;> omega
  rw [slice, clampIndex_natCast, start, List.length_take]
  omega

/-- `StrWhiteSpaceChar` -/
def isWhitespace (c : Char) : Bool :=
  (0x09 ≤ c.toNat && c.toNat ≤ 0x0d) || c.toNat == 0x20 || c.toNat == 0xa0 ||
    c.toNat == 0x1680 || (0x2000 ≤ c.toNat && c.toNat ≤ 0x200a) || c.toNat == 0x2028 ||
    c.toNat == 0x2029 || c.toNat == 0x202f || c.toNat == 0x205f || c.toNat == 0x3000 ||
    c.toNat == 0xfeff

def skipSign : Text → Int × Text
  | '-' :: rest => (-1, rest)
  | '+' :: rest => (1, rest)
  | s => (1, s)

def skipRadix : Text → Text
  | '0' :: 'x' :: rest => rest
  | '0' :: 'X' :: rest => rest
  | s => s

/-- The values of the longest prefix of digits. -/
def leadingDigits : Text → List Nat
  | [] => []
  | c :: rest =>
      match Hex.value c with
      | some d => d :: leadingDigits rest
      | none => []

/-- `parseInt(s, 16)`: white space, a sign and `0x` are skipped, and the longest run of
digits is read; `none` is `NaN`. -/
def parseIntHex (s : Text) : Option Int :=
  let (sign, unsigned) := skipSign (s.dropWhile isWhitespace)
  match leadingDigits (skipRadix unsigned) with
  | [] => none
  | digits => some (sign * (digits.foldl (fun n d => 16 * n + d) 0 : Nat))

/-- The conversion of an element written to a `Uint8Array`. -/
def toUint8 : Option Int → Byte
  | none => 0
  | some n => BitVec.ofInt 8 n

/-- `Array.from(bytes).map(b => b.toString(16).padStart(2, '0')).join('')` -/
def bytesToHex (bytes : Bytes) : Text := Hex.encode bytes

/-- `b.toString(16)`, without padding. -/
def byteToString16 (b : Byte) : Text :=
  if b.toNat < 16 then [Hex.digit b.toNat] else Hex.ofByte b

/-- `s.toLowerCase()`, on text whose letters are ASCII. -/
def toLowerCase (s : Text) : Text := s.map Char.toLower

/-- `Buffer.from(s, 'hex')`: the pairs before the first malformed one. -/
def bufferFromHex : Text → Bytes
  | hi :: lo :: rest =>
      match Hex.value hi, Hex.value lo with
      | some h, some l => Hex.pair h l :: bufferFromHex rest
      | _, _ => []
  | _ => []

/-- `Buffer.from(s, 'utf8')` -/
def bufferFromUtf8 (s : Text) : Bytes :=
  s.flatMap fun c => (String.utf8EncodeChar c).map UInt8.toBitVec

/-- A digit is neither white space nor a sign nor the `x` of a radix prefix. -/
theorem not_isWhitespace {c : Char} {n : Nat} (h : Hex.value c = some n) :
    isWhitespace c = false := by
  have hrange := Hex.range_of_value h
  simp only [isWhitespace, Bool.or_eq_false_iff, Bool.and_eq_false_iff, decide_eq_false_iff_not,
    beq_eq_false_iff_ne]
  omega

theorem ne_of_value {c d : Char} {n : Nat} (h : Hex.value c = some n)
    (hd : d ∈ ['-', '+', 'x', 'X']) : c ≠ d := by
  have hrange := Hex.range_of_value h
  rintro rfl
  simp only [List.mem_cons, List.not_mem_nil, or_false] at hd
  rcases hd with rfl | rfl | rfl | rfl <;> simp at hrange

theorem skipSign_of_digit {c : Char} {n : Nat} {rest : Text} (h : Hex.value c = some n) :
    skipSign (c :: rest) = (1, c :: rest) := by
  have hminus : c ≠ '-' := ne_of_value h (by decide)
  have hplus : c ≠ '+' := ne_of_value h (by decide)
  unfold skipSign
  split
  · next he => exact absurd (List.cons.inj he).1 hminus
  · next he => exact absurd (List.cons.inj he).1 hplus
  · rfl

theorem skipRadix_of_digit {c d : Char} {n : Nat} {rest : Text} (h : Hex.value d = some n) :
    skipRadix (c :: d :: rest) = c :: d :: rest := by
  have hx : d ≠ 'x' := ne_of_value h (by decide)
  have hX : d ≠ 'X' := ne_of_value h (by decide)
  unfold skipRadix
  split
  · next he => exact absurd (List.cons.inj (List.cons.inj he).2).1 hx
  · next he => exact absurd (List.cons.inj (List.cons.inj he).2).1 hX
  · rfl

/-- Two digits parse to the number they spell. -/
theorem parseIntHex_pair {hi lo : Char} {h l : Nat} (hh : Hex.value hi = some h)
    (hl : Hex.value lo = some l) : parseIntHex [hi, lo] = some ((16 * h + l : Nat) : Int) := by
  have hspace : [hi, lo].dropWhile isWhitespace = [hi, lo] := by
    simp [not_isWhitespace hh]
  have digits : leadingDigits [hi, lo] = [h, l] := by
    simp only [leadingDigits, hh, hl]
  simp only [parseIntHex, hspace, skipSign_of_digit hh, skipRadix_of_digit hl, digits,
    List.foldl_cons, List.foldl_nil, Int.one_mul, Nat.mul_zero, Nat.zero_add]

theorem toUint8_pair (h l : Nat) : toUint8 (some ((16 * h + l : Nat) : Int)) = Hex.pair h l :=
  BitVec.ofInt_natCast 8 (16 * h + l)

theorem bufferFromHex_of_decode {s : Text} {bs : Bytes} (h : Hex.decode s = some bs) :
    bufferFromHex s = bs := by
  induction h using Hex.decode_induction with
  | nil => rfl
  | byte hh hl ht ih => rw [bufferFromHex, hh, hl, ih]

@[simp] theorem bufferFromHex_encode (bs : Bytes) : bufferFromHex (Hex.encode bs) = bs :=
  bufferFromHex_of_decode (Hex.decode_encode bs)

/-- A byte takes two characters. -/
theorem length_bufferFromHex_le : ∀ s : Text, 2 * (bufferFromHex s).length ≤ s.length
  | [] => Nat.zero_le _
  | [_] => Nat.zero_le _
  | hi :: lo :: rest => by
      have ih := length_bufferFromHex_le rest
      rw [bufferFromHex]
      split
      · simp only [List.length_cons]
        omega
      · exact Nat.zero_le _

/-- ASCII text is one byte a character. -/
theorem length_bufferFromUtf8 {s : Text} (h : ∀ c ∈ s, c.toNat < 128) :
    (bufferFromUtf8 s).length = s.length := by
  induction s with
  | nil => rfl
  | cons c s ih =>
      have hc : c.toNat < 128 := h c List.mem_cons_self
      have hrest := ih fun d hd => h d (List.mem_cons_of_mem c hd)
      have hone : (String.utf8EncodeChar c).length = 1 := by
        rw [String.length_utf8EncodeChar, Char.utf8Size_eq_one_iff]
        exact UInt32.le_iff_toNat_le.mpr (by simpa using Nat.le_of_lt_succ hc)
      simp only [bufferFromUtf8] at hrest ⊢
      rw [List.flatMap_cons, List.length_append, List.length_map, hone, hrest, List.length_cons,
        Nat.add_comm]

end DuckPools.Js
