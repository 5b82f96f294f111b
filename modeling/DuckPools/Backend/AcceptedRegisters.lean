import DuckPools.Backend.VlqErrors

/-!
# Which register values the backend accepts

A register value is well formed if behind the tag there is one number, or one length and
as many bytes, in digits and to the end. `deserialize_value` returns values of other texts
as well.

A number is taken from the groups there are: it may lack the byte that ends it, there may be
bytes behind it, and it may have any size. A length may lack its end as well, as long as
it is zero. And whatever is read as bytes may have white space between them.

The scan for the length converts each pair of characters with `int`, which takes more than
digits. Nothing comes of it, because the text that was scanned is read as bytes afterwards.
-/

namespace DuckPools.Backend.VLQSerializer

/-- A number from `-bound` to below `bound`, folded, and nothing else. -/
def IsNumber (bound : Nat) (digits : Text) (value : Int) : Prop :=
  (-(bound : Int) ≤ value ∧ value < bound) ∧
    ∃ bytes, Hex.decode digits = some bytes ∧
      Vlq.decode bytes = some (Vlq.zigzag value, [])

/-- A length, as many bytes, and nothing else. -/
def IsCollection (digits : Text) (data : Bytes) : Prop :=
  ∃ bytes, Hex.decode digits = some bytes ∧ Vlq.decode bytes = some (data.length, data)

/-- The whole of the text spells `value`, which is of the type of its tag. -/
def WellFormed (hex_str : Text) (value : RawValue) : Prop :=
  match detect_type hex_str, value with
  | some .INT, .number n => IsNumber (2 ^ 31) (hex_str.drop 2) n
  | some .LONG, .number n => IsNumber (2 ^ 63) (hex_str.drop 2) n
  | some .COLL_BYTE, .bytes data =>
      IsCollection (hex_str.drop 2) data ∨
        ∃ digits, hex_str.drop 2 = COLL_BYTE_ELEM_TAG ++ digits ∧ IsCollection digits data
  | some .SIGMA_PROP, .bytes key => key.length = 33 ∧ Hex.decode (hex_str.drop 4) = some key
  | _, _ => False

/-- The text is rejected with a `VLQError`, or it is well formed. -/
def Sound (hex_str : Text) : Prop :=
  (∃ message, Raising.deserialize_value hex_str = .error (.VLQError message)) ∨
    ∃ value, Raising.deserialize_value hex_str = .ok value ∧ WellFormed hex_str value

/-- Bytes that are read although there is white space, the end of the number is missing, there
is something behind it, or it is too large. -/
def SlippedNumber (bound : Nat) (payload : Text) : Prop :=
  ∃ bytes, Py.bytesFromhex payload = some bytes ∧
    ((∃ c ∈ payload, Py.isSpace c = true) ∨ (∀ b ∈ bytes, 128 ≤ b.toNat) ∨
      Vlq.behind bytes ≠ [] ∨ 2 * bound ≤ Vlq.value (Vlq.groups bytes))

/-- No length, or part of a zero, with at most one white space behind it. -/
def NoLength (payload : Text) : Prop :=
  ∃ digits bytes rest, payload = digits ++ rest ∧ Hex.decode digits = some bytes ∧
    (∀ b ∈ bytes, b = 0x80) ∧ rest.length ≤ 1 ∧ ∀ c ∈ rest, Py.isSpace c = true

/-- A length and bytes with white space, which is counted with them. -/
def SpacedData (payload : Text) : Prop :=
  ∃ digits bytes rest data, payload = digits ++ rest ∧ Hex.decode digits = some bytes ∧
    Vlq.decode bytes = some (rest.length / 2, []) ∧ Py.bytesFromhex rest = some data ∧
    ∃ c ∈ rest, Py.isSpace c = true

/-- A text as long as a key, in which there is white space in place of a byte. -/
def SpacedKey (payload : Text) : Prop :=
  payload.length = 66 ∧ (∃ key, Py.bytesFromhex payload = some key) ∧
    ∃ c ∈ payload, Py.isSpace c = true

/-- The texts that are read although they are not well formed. -/
def Slips (hex_str : Text) : Prop :=
  match detect_type hex_str with
  | some .INT => SlippedNumber (2 ^ 31) (hex_str.drop 2)
  | some .LONG => SlippedNumber (2 ^ 63) (hex_str.drop 2)
  | some .COLL_BYTE =>
      NoLength (behindElement (hex_str.drop 2)) ∨ SpacedData (behindElement (hex_str.drop 2))
  | some .SIGMA_PROP => SpacedKey (hex_str.drop 4)
  | none => False

section Scan

/-- The groups are those of a number, or they are all of what is there, but for one character. -/
def Ends (bytes : Bytes) (rest : Text) : Prop :=
  (∃ n, Vlq.decode bytes = some (n, [])) ∨ (∀ b ∈ bytes, 128 ≤ b.toNat) ∧ rest.length ≤ 1

theorem ends_nil_iff {rest : Text} : Ends [] rest ↔ rest.length ≤ 1 := by
  constructor
  · rintro (⟨n, read⟩ | ⟨_, short⟩)
    · cases read
    · exact short
  · intro short
    exact .inr ⟨fun b hb => absurd hb List.not_mem_nil, short⟩

theorem ends_last_iff {b : Byte} {bytes : Bytes} {rest : Text} (last : b.toNat < 128) :
    Ends (b :: bytes) rest ↔ bytes = [] := by
  constructor
  · rintro (⟨n, read⟩ | ⟨continues, _⟩)
    · rw [Vlq.decode, if_pos last] at read
      exact (Prod.mk.inj (Option.some.inj read)).2
    · exact absurd (continues b List.mem_cons_self) (by omega)
  · rintro rfl
    exact .inl ⟨b.toNat, by rw [Vlq.decode, if_pos last]⟩

theorem ends_more_iff {b : Byte} {bytes : Bytes} {rest : Text} (more : ¬ b.toNat < 128) :
    Ends (b :: bytes) rest ↔ Ends bytes rest := by
  have head : 128 ≤ b.toNat := Nat.not_lt.mp more
  rw [Ends, Ends, List.forall_mem_cons, and_iff_right head]
  apply or_congr_left
  rw [Vlq.decode, if_neg more]
  constructor
  · rintro ⟨n, read⟩
    obtain ⟨⟨m, left⟩, read, same⟩ := Option.map_eq_some_iff.mp read
    obtain ⟨_, rfl⟩ := Prod.mk.inj same
    exact ⟨m, read⟩
  · rintro ⟨m, read⟩
    rw [read]
    exact ⟨_, rfl⟩

/-- The scan goes through the groups and stops behind them. -/
theorem length_hex_append {digits : Text} {bytes : Bytes} {rest : Text}
    (decoded : Hex.decode digits = some bytes) (ends : Ends bytes rest) :
    length_hex (digits ++ rest) = some digits := by
  induction decoded using Hex.decode_induction with
  | nil =>
      match rest, ends_nil_iff.mp ends with
      | [], _ => rfl
      | [_], _ => rfl
  | byte hh hl htail ih =>
      rename_i digits h l tail
      rw [List.cons_append, List.cons_append, length_hex_pair _ hh hl]
      by_cases last : (Hex.pair h l).toNat < 128
      · obtain rfl := (ends_last_iff last).mp ends
        have empty : digits = [] := by
          have length := Hex.length_of_decode htail
          exact List.eq_nil_of_length_eq_zero length
        rw [if_pos last, empty]
      · rw [if_neg last, ih ((ends_more_iff last).mp ends)]
        rfl

/-- A pair that is scanned and read as part of a byte string is a pair of digits. White space
would make it a number below sixteen, where the scan stops, and one digit is no byte. -/
theorem digits_of_scanned {hi lo : Char} {rest scanned : Text} {bytes : Bytes}
    (scan : length_hex (hi :: lo :: rest) = some scanned)
    (read : Py.bytesFromhex scanned = some bytes) :
    ∃ h l, Hex.value hi = some h ∧ Hex.value lo = some l := by
  rw [length_hex] at scan
  obtain ⟨byte, number, scan⟩ := Option.bind_eq_some_iff.mp scan
  obtain ⟨more, rfl, stops⟩ : ∃ more, scanned = hi :: lo :: more ∧
      (Int.land byte 0x80 = 0 → more = []) := by
    by_cases last : Int.land byte 0x80 = 0
    · rw [if_pos last] at scan
      exact ⟨[], (Option.some.inj scan).symm, fun _ => rfl⟩
    · rw [if_neg last] at scan
      obtain ⟨more, _, scan⟩ := Option.bind_eq_some_iff.mp scan
      exact ⟨more, (Option.some.inj scan).symm, fun h => absurd h last⟩
  cases front : Py.isSpace hi with
  | false =>
      obtain ⟨_, h, l, _, _, same, hh, hl, _, _⟩ := Py.bytesFromhex_cons front read
      rw [(List.cons.inj same).1]
      exact ⟨h, l, hh, hl⟩
  | true =>
      rw [Py.bytesFromhex_space _ front] at read
      cases back : Py.isSpace lo with
      | true =>
          rw [Py.int_spaces front back] at number
          cases number
      | false =>
          obtain ⟨_, l, _, _, _, rfl, hl, _, _, _⟩ := Py.bytesFromhex_cons back read
          rw [Py.int_space_digit front hl] at number
          obtain rfl := Option.some.inj number
          have small : ∀ n < 16, Int.land ((n : Nat) : Int) 0x80 = 0 := by decide
          cases stops (small l (Hex.digit_of_value hl).1)

/-- What is scanned and read is digits, up to the end of a number or of the text. -/
theorem exists_scanned : ∀ {remaining scanned : Text} {bytes : Bytes},
    length_hex remaining = some scanned → Py.bytesFromhex scanned = some bytes →
      ∃ rest, remaining = scanned ++ rest ∧ Hex.decode scanned = some bytes ∧ Ends bytes rest
  | [], _, _, scan, read => by
      obtain rfl := Option.some.inj scan
      obtain rfl := Option.some.inj read
      exact ⟨[], rfl, rfl, ends_nil_iff.mpr (Nat.zero_le 1)⟩
  | [c], _, _, scan, read => by
      obtain rfl := Option.some.inj scan
      obtain rfl := Option.some.inj read
      exact ⟨[c], rfl, rfl, ends_nil_iff.mpr (Nat.le_refl 1)⟩
  | hi :: lo :: remaining, scanned, bytes, scan, read => by
      obtain ⟨h, l, hh, hl⟩ := digits_of_scanned scan read
      rw [length_hex_pair remaining hh hl] at scan
      by_cases last : (Hex.pair h l).toNat < 128
      · rw [if_pos last] at scan
        obtain rfl := Option.some.inj scan
        have decoded : Hex.decode [hi, lo] = some [Hex.pair h l] :=
          Hex.decode_cons_iff.mpr ⟨h, l, [], hh, hl, rfl, rfl⟩
        rw [Py.bytesFromhex_of_decode decoded] at read
        obtain rfl := Option.some.inj read
        exact ⟨remaining, rfl, decoded, (ends_last_iff last).mpr rfl⟩
      · rw [if_neg last] at scan
        obtain ⟨more, later, rfl⟩ := Option.map_eq_some_iff.mp scan
        obtain ⟨_, h', l', tail, _, ⟨⟩, hh', hl', htail, rfl⟩ :=
          Py.bytesFromhex_cons (Py.not_isSpace hh) read
        obtain ⟨rest, rfl, decoded, ends⟩ := exists_scanned later htail
        rw [hh] at hh'
        rw [hl] at hl'
        obtain rfl := Option.some.inj hh'
        obtain rfl := Option.some.inj hl'
        exact ⟨rest, rfl, Hex.decode_cons_iff.mpr ⟨h, l, tail, hh, hl, decoded, rfl⟩,
          (ends_more_iff last).mpr ends⟩

end Scan

theorem read_coll_byte_iff {remaining : Text} {data : Bytes} :
    read_coll_byte remaining = .ok data ↔
      ∃ digits bytes rest, remaining = digits ++ rest ∧ Hex.decode digits = some bytes ∧
        Ends bytes rest ∧ rest.length / 2 = Vlq.value (Vlq.groups bytes) ∧
        Py.bytesFromhex rest = some data := by
  rw [read_coll_byte_eq_ok_iff]
  constructor
  · rintro ⟨digits, bytes, scan, read, counts, readData⟩
    obtain ⟨rest, rfl, decoded, ends⟩ := exists_scanned scan read
    rw [List.drop_left] at counts readData
    exact ⟨digits, bytes, rest, rfl, decoded, ends, counts, readData⟩
  · rintro ⟨digits, bytes, rest, rfl, decoded, ends, counts, readData⟩
    refine ⟨digits, bytes, length_hex_append decoded ends, Py.bytesFromhex_of_decode decoded, ?_⟩
    rw [List.drop_left]
    exact ⟨counts, readData⟩

/-- A number that ends is followed by as many bytes as it says; one that does not is zero. -/
theorem ends_and_counts_iff {bytes : Bytes} {rest : Text} :
    Ends bytes rest ∧ rest.length / 2 = Vlq.value (Vlq.groups bytes) ↔
      Vlq.decode bytes = some (rest.length / 2, []) ∨
        (∀ b ∈ bytes, b = 0x80) ∧ rest.length ≤ 1 := by
  constructor
  · rintro ⟨⟨n, read⟩ | ⟨continues, short⟩, counts⟩
    · obtain ⟨_, number, _⟩ := Vlq.decode_eq_some_iff.mp read
      rw [number, ← counts] at read
      exact .inl read
    · rw [Vlq.groups_of_ge continues] at counts
      exact .inr ⟨(Vlq.value_eq_zero_iff continues).mp (by omega), short⟩
  · rintro (read | ⟨zero, short⟩)
    · obtain ⟨_, number, _⟩ := Vlq.decode_eq_some_iff.mp read
      exact ⟨.inl ⟨_, read⟩, number⟩
    · have continues := Vlq.continues_of_zeros zero
      refine ⟨.inr ⟨continues, short⟩, ?_⟩
      rw [Vlq.groups_of_ge continues, (Vlq.value_eq_zero_iff continues).mpr zero]
      omega

/-- What is read is a collection, or it is one of the two exceptions. -/
theorem read_coll_byte_cases {remaining : Text} {data : Bytes}
    (read : read_coll_byte remaining = .ok data) :
    IsCollection remaining data ∨ NoLength remaining ∨ SpacedData remaining := by
  obtain ⟨digits, bytes, rest, rfl, decoded, ends, counts, readData⟩ := read_coll_byte_iff.mp read
  rcases ends_and_counts_iff.mp ⟨ends, counts⟩ with number | ⟨zero, short⟩
  · by_cases spaced : ∃ c ∈ rest, Py.isSpace c = true
    · exact .inr (.inr ⟨digits, bytes, rest, data, rfl, decoded, number, readData, spaced⟩)
    · have strict := Py.decode_eq_some_iff.mpr ⟨readData, spaced⟩
      have length := Hex.length_of_decode strict
      refine .inl ⟨bytes ++ data, Hex.decode_append decoded strict, ?_⟩
      rw [Vlq.decode_append number, List.nil_append, length, Nat.mul_div_cancel_left _ (by decide)]
  · refine .inr (.inl ⟨digits, bytes, rest, rfl, decoded, zero, short, ?_⟩)
    match rest, short with
    | [], _ => exact fun c hc => absurd hc List.not_mem_nil
    | [c], _ =>
        intro d hd
        rw [List.mem_singleton.mp hd]
        by_contra notSpace
        obtain ⟨_, _, _, _, _, same, _⟩ :=
          Py.bytesFromhex_cons (Bool.eq_false_iff.mpr notSpace) readData
        cases same

/-- Both exceptions are read, and they are no collections. -/
theorem exists_read_coll_byte {remaining : Text}
    (slips : NoLength remaining ∨ SpacedData remaining) :
    ∃ data, read_coll_byte remaining = .ok data ∧ ∀ data', ¬ IsCollection remaining data' := by
  rcases slips with ⟨digits, bytes, rest, rfl, decoded, zero, short, space⟩ |
    ⟨digits, bytes, rest, data, rfl, decoded, number, readData, c, hc, space⟩
  · obtain ⟨ends, counts⟩ := ends_and_counts_iff.mpr (.inr ⟨zero, short⟩)
    have readData : Py.bytesFromhex rest = some [] := by
      match rest, short, space with
      | [], _, _ => rfl
      | [c], _, space => rw [Py.bytesFromhex_space [] (space c List.mem_cons_self)]; rfl
    refine ⟨[], read_coll_byte_iff.mpr
      ⟨digits, bytes, rest, rfl, decoded, ends, counts, readData⟩, ?_⟩
    rintro data' ⟨all, strict, read⟩
    have none : rest = [] := by
      apply List.eq_nil_iff_forall_not_mem.mpr
      intro c hc
      exact (Py.decode_eq_some_iff.mp strict).2 ⟨c, List.mem_append_right digits hc, space c hc⟩
    rw [none, List.append_nil, decoded] at strict
    obtain rfl := Option.some.inj strict
    obtain ⟨⟨b, hb, lt⟩, _, _⟩ := Vlq.decode_eq_some_iff.mp read
    rw [zero b hb] at lt
    exact absurd lt (by decide)
  · obtain ⟨ends, counts⟩ := ends_and_counts_iff.mpr (.inl number)
    refine ⟨data, read_coll_byte_iff.mpr
      ⟨digits, bytes, rest, rfl, decoded, ends, counts, readData⟩, ?_⟩
    rintro data' ⟨all, strict, _⟩
    exact (Py.decode_eq_some_iff.mp strict).2 ⟨c, List.mem_append_right digits hc, space⟩

/-- The length takes some of the text. -/
theorem length_lt_of_read {remaining : Text} {data : Bytes}
    (read : read_coll_byte remaining = .ok data) (hne : data ≠ []) :
    2 * data.length < remaining.length := by
  obtain ⟨digits, bytes, rest, rfl, decoded, ends, _, readData⟩ := read_coll_byte_iff.mp read
  have enough := Py.length_of_bytesFromhex readData
  have notEmpty := List.length_pos_of_ne_nil hne
  have taken : 0 < digits.length := by
    apply List.length_pos_of_ne_nil
    rintro rfl
    obtain rfl := Option.some.inj decoded
    have short := ends_nil_iff.mp ends
    omega
  rw [List.length_append]
  omega

/-- An element type is read as such: where it could also be the length of a collection of one
byte, nothing is read. -/
theorem isCollection_behindElement_iff {payload : Text} {data : Bytes}
    (read : read_coll_byte (behindElement payload) = .ok data) :
    (IsCollection payload data ∨
        ∃ digits, payload = COLL_BYTE_ELEM_TAG ++ digits ∧ IsCollection digits data) ↔
      IsCollection (behindElement payload) data := by
  by_cases element : COLL_BYTE_ELEM_TAG.isPrefixOf payload = true
  · obtain ⟨digits, rfl⟩ := List.isPrefixOf_iff_prefix.mp element
    have behind : behindElement (COLL_BYTE_ELEM_TAG ++ digits) = digits := by
      rw [behindElement, if_pos element]
      rfl
    rw [behind] at read ⊢
    constructor
    · rintro (⟨bytes, decoded, number⟩ | ⟨digits', same, collection⟩)
      · exfalso
        obtain ⟨h, l, tail, hh, hl, htail, rfl⟩ := Hex.decode_cons_iff.mp decoded
        obtain rfl : 0 = h := Option.some.inj hh
        obtain rfl : 1 = l := Option.some.inj hl
        have one : Vlq.decode (Hex.pair 0 1 :: tail) = some (1, tail) := rfl
        rw [one, Option.some.injEq, Prod.mk.injEq] at number
        obtain ⟨single, rfl⟩ := number
        have length : digits.length = 2 * tail.length := Hex.length_of_decode htail
        have longer := length_lt_of_read read (List.ne_nil_of_length_pos (by omega))
        omega
      · rw [List.append_cancel_left same]
        exact collection
    · intro collection
      exact .inr ⟨digits, rfl, collection⟩
  · have behind : behindElement payload = payload := if_neg element
    rw [behind]
    apply or_iff_left
    rintro ⟨digits, rfl, _⟩
    exact element (isPrefixOf_append _ _)

theorem deserialize_eq_ok_iff {name : String} {tag hex_str : Text} {n : Int}
    (tagged : tag.isPrefixOf hex_str = true) :
    deserialize name tag hex_str = .ok n ↔
      ∃ bytes, Py.bytesFromhex (hex_str.drop 2) = some bytes ∧
        n = Vlq.unzigzag (Vlq.value (Vlq.groups bytes)) := by
  simp only [deserialize, tagged, Bool.not_true, Bool.false_eq_true, if_false,
    Exceptions.bind_eq_ok_iff, decode_vlq_eq_ok_iff, Exceptions.pure_eq_ok_iff]
  constructor
  · rintro ⟨_, ⟨bytes, read, rfl⟩, rfl⟩
    exact ⟨bytes, read, Integers.zigzagDecode_natCast _⟩
  · rintro ⟨bytes, read, rfl⟩
    exact ⟨_, ⟨bytes, read, rfl⟩, Integers.zigzagDecode_natCast _⟩

theorem deserialize_sigma_prop_eq_ok_iff {hex_str : Text} {key : Bytes}
    (tagged : SIGMA_PROP_TAG.isPrefixOf hex_str = true) :
    deserialize_sigma_prop hex_str = .ok key ↔
      (hex_str.drop 4).length = 66 ∧ Py.bytesFromhex (hex_str.drop 4) = some key := by
  simp only [deserialize_sigma_prop, tagged, Bool.not_true, Bool.false_eq_true, if_false,
    Exceptions.ite_throw_eq_ok_iff, not_not]
  apply and_congr_right
  intro _
  cases Py.bytesFromhex (hex_str.drop 4) with
  | none => exact iff_of_false (fun h => by cases h) (fun h => by cases h)
  | some key' => rw [Exceptions.pure_eq_ok_iff, Option.some.injEq]

/-- What `deserialize_value` returns on a text of each type. -/
def Returned (hex_str : Text) (value : RawValue) : Prop :=
  match detect_type hex_str with
  | some .INT | some .LONG =>
      ∃ bytes, Py.bytesFromhex (hex_str.drop 2) = some bytes ∧
        value = .number (Vlq.unzigzag (Vlq.value (Vlq.groups bytes)))
  | some .COLL_BYTE =>
      ∃ data, read_coll_byte (behindElement (hex_str.drop 2)) = .ok data ∧ value = .bytes data
  | some .SIGMA_PROP =>
      ∃ key, (hex_str.drop 4).length = 66 ∧ Py.bytesFromhex (hex_str.drop 4) = some key ∧
        value = .bytes key
  | none => False

theorem deserialize_value_eq_ok_iff {hex_str : Text} {value : RawValue} :
    deserialize_value hex_str = .ok value ↔ Returned hex_str value := by
  have number : ∀ {name : String} {tag : Text}, tag.isPrefixOf hex_str = true →
      ((deserialize name tag hex_str).map RawValue.number = .ok value ↔
        ∃ bytes, Py.bytesFromhex (hex_str.drop 2) = some bytes ∧
          value = .number (Vlq.unzigzag (Vlq.value (Vlq.groups bytes)))) := by
    intro name tag tagged
    simp only [Exceptions.map_eq_ok_iff, deserialize_eq_ok_iff tagged]
    constructor
    · rintro ⟨_, ⟨bytes, read, rfl⟩, rfl⟩
      exact ⟨bytes, read, rfl⟩
    · rintro ⟨bytes, read, rfl⟩
      exact ⟨_, ⟨bytes, read, rfl⟩, rfl⟩
  rw [deserialize_value, Exceptions.mapError_eq_ok_iff, Returned, detect_type]
  split_ifs with int long coll sigma
  · exact number int
  · exact number long
  · simp only [Exceptions.map_eq_ok_iff, deserialize_coll_byte_eq_ok_iff, coll, true_and]
    exact exists_congr fun data => and_congr_right fun _ => eq_comm
  · simp only [Exceptions.map_eq_ok_iff, deserialize_sigma_prop_eq_ok_iff sigma, and_assoc]
    exact exists_congr fun key => and_congr_right fun _ => and_congr_right fun _ => eq_comm
  · exact iff_of_false (fun h => by cases h) id

/-- Exceptions apart, soundness is about what is returned. -/
theorem sound_iff {hex_str : Text} :
    Sound hex_str ↔ ∀ value, Returned hex_str value → WellFormed hex_str value := by
  simp only [← deserialize_value_eq_ok_iff]
  rw [Sound, raising_deserialize_value]
  cases deserialize_value hex_str with
  | error message =>
      exact iff_of_true (.inl ⟨message, rfl⟩) (fun value h => by cases h)
  | ok value =>
      constructor
      · rintro (⟨_, ⟨⟩⟩ | ⟨_, ⟨⟩, wellFormed⟩) _ ⟨⟩
        exact wellFormed
      · intro h
        exact .inr ⟨value, rfl, h value rfl⟩

/-- A number that is read is one exactly if nothing has slipped. -/
theorem isNumber_iff {bound : Nat} {payload : Text} {bytes : Bytes}
    (read : Py.bytesFromhex payload = some bytes) :
    IsNumber bound payload (Vlq.unzigzag (Vlq.value (Vlq.groups bytes))) ↔
      ¬ SlippedNumber bound payload := by
  rw [IsNumber, Vlq.unzigzag_lt_iff, Vlq.zigzag_unzigzag]
  constructor
  · rintro ⟨small, bytes', strict, number⟩ ⟨bytes'', read', slip⟩
    rw [read] at read'
    obtain rfl := Option.some.inj read'
    obtain ⟨same, plain⟩ := Py.decode_eq_some_iff.mp strict
    rw [read] at same
    obtain rfl := Option.some.inj same
    obtain ⟨⟨b, hb, ends⟩, _, left⟩ := Vlq.decode_eq_some_iff.mp number
    rcases slip with spaced | continues | more | large
    · exact plain spaced
    · exact absurd (continues b hb) (by omega)
    · exact more left.symm
    · omega
  · intro sound
    have no : ∀ {slip : Prop}, (slip → (∃ c ∈ payload, Py.isSpace c = true) ∨
        (∀ b ∈ bytes, 128 ≤ b.toNat) ∨ Vlq.behind bytes ≠ [] ∨
          2 * bound ≤ Vlq.value (Vlq.groups bytes)) → ¬ slip :=
      fun kind slip => sound ⟨bytes, read, kind slip⟩
    have ends : ∃ b ∈ bytes, b.toNat < 128 :=
      (Vlq.ends_or_continues bytes).resolve_right (no fun h => .inr (.inl h))
    have left : Vlq.behind bytes = [] := not_not.mp (no fun h => .inr (.inr (.inl h)))
    have small : Vlq.value (Vlq.groups bytes) < 2 * bound :=
      Nat.not_le.mp (no fun h => .inr (.inr (.inr h)))
    exact ⟨small, bytes, Py.decode_eq_some_iff.mpr ⟨read, no .inl⟩,
      Vlq.decode_eq_some_iff.mpr ⟨ends, rfl, left.symm⟩⟩

/-- Of a type whose values are these numbers, all that are returned are well formed exactly if
nothing has slipped. -/
theorem numbers_sound_iff {bound : Nat} {payload : Text} {good : RawValue → Prop}
    (spec : ∀ n, good (.number n) ↔ IsNumber bound payload n) :
    (∀ value, (∃ bytes, Py.bytesFromhex payload = some bytes ∧
        value = .number (Vlq.unzigzag (Vlq.value (Vlq.groups bytes)))) → good value) ↔
      ¬ SlippedNumber bound payload := by
  constructor
  · rintro all ⟨bytes, read, slip⟩
    have isNumber := (spec _).mp (all _ ⟨bytes, read, rfl⟩)
    exact (isNumber_iff read).mp isNumber ⟨bytes, read, slip⟩
  · rintro sound value ⟨bytes, read, rfl⟩
    exact (spec _).mpr ((isNumber_iff read).mpr sound)

/-- A key that is read is one exactly if there is no white space in it. -/
theorem isKey_iff {payload : Text} {key : Bytes} (length : payload.length = 66)
    (read : Py.bytesFromhex payload = some key) :
    (key.length = 33 ∧ Hex.decode payload = some key) ↔ ¬ SpacedKey payload := by
  constructor
  · rintro ⟨_, strict⟩ ⟨_, _, spaced⟩
    exact (Py.decode_eq_some_iff.mp strict).2 spaced
  · intro plain
    have strict : Hex.decode payload = some key := by
      apply Py.decode_eq_some_iff.mpr
      exact ⟨read, fun spaced => plain ⟨length, ⟨key, read⟩, spaced⟩⟩
    have pairs := Hex.length_of_decode strict
    exact ⟨by omega, strict⟩

/-- `deserialize_value` returns well-formed values only, and raises nothing but a `VLQError`,
exactly on the texts that are none of these exceptions. -/
theorem deserialize_value_sound_iff (hex_str : Text) : Sound hex_str ↔ ¬ Slips hex_str := by
  rw [sound_iff]
  cases type : detect_type hex_str with
  | none =>
      simp only [Returned, Slips, type]
      exact iff_of_true (fun _ h => h.elim) id
  | some type' =>
      cases type' with
      | INT =>
          have spec : ∀ n, WellFormed hex_str (.number n) ↔
              IsNumber (2 ^ 31) (hex_str.drop 2) n := by
            intro n
            simp only [WellFormed, type]
          simp only [Returned, Slips, type]
          exact numbers_sound_iff spec
      | LONG =>
          have spec : ∀ n, WellFormed hex_str (.number n) ↔
              IsNumber (2 ^ 63) (hex_str.drop 2) n := by
            intro n
            simp only [WellFormed, type]
          simp only [Returned, Slips, type]
          exact numbers_sound_iff spec
      | COLL_BYTE =>
          simp only [Returned, WellFormed, Slips, type]
          constructor
          · intro all slips
            obtain ⟨data, read, notCollection⟩ := exists_read_coll_byte slips
            have wellFormed := all _ ⟨data, read, rfl⟩
            exact notCollection data ((isCollection_behindElement_iff read).mp wellFormed)
          · rintro sound value ⟨data, read, rfl⟩
            apply (isCollection_behindElement_iff read).mpr
            exact (read_coll_byte_cases read).resolve_right sound
      | SIGMA_PROP =>
          simp only [Returned, WellFormed, Slips, type]
          constructor
          · rintro all ⟨length, ⟨key, read⟩, spaced⟩
            exact (isKey_iff length read).mp (all _ ⟨key, length, read, rfl⟩)
              ⟨length, ⟨key, read⟩, spaced⟩
          · rintro sound value ⟨key, length, read, rfl⟩
            exact (isKey_iff length read).mpr sound

/-- A tag alone is read as the number zero. -/
theorem lone_tag_accepted : ¬ ∀ hex_str, Sound hex_str := by
  intro all
  obtain ⟨message, raised⟩ | ⟨value, _, wellFormed⟩ := all INT_TAG
  · cases raised
  · cases value with
    | number n =>
        obtain ⟨_, bytes, decoded, number⟩ := wellFormed
        obtain rfl : [] = bytes := Option.some.inj decoded
        cases number
    | bytes data => exact wellFormed

end DuckPools.Backend.VLQSerializer
