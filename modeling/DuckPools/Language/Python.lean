import DuckPools.Codec.Hex

/-!
# Python built-ins

`bytes.fromhex` and `str.lower`, the only conversions between text and bytes that the
random number module of the backend uses. The first one skips white space between
bytes and raises on anything else that is not a pair of digits.
-/

namespace DuckPools.Py

/-- ASCII white space. -/
def isSpace (c : Char) : Bool := (0x09 ≤ c.toNat && c.toNat ≤ 0x0d) || c.toNat == 0x20

/-- `bytes.fromhex(s)`; `none` is its `ValueError`. -/
def bytesFromhex : Text → Option Bytes
  | [] => some []
  | c :: rest =>
      if isSpace c then bytesFromhex rest
      else
        match rest with
        | [] => none
        | d :: rest => do
            let h ← Hex.value c
            let l ← Hex.value d
            let tail ← bytesFromhex rest
            return Hex.pair h l :: tail

/-- `s.lower()`, on text whose letters are ASCII. -/
def lower (s : Text) : Text := s.map Char.toLower

theorem toLower_of_not {c : Char} (h : ¬ (c.val ≥ 'A'.val ∧ c.val ≤ 'Z'.val)) : c.toLower = c :=
  dif_neg h

theorem val_toLower {c : Char} (h : c.val ≥ 'A'.val ∧ c.val ≤ 'Z'.val) :
    c.toLower.val = c.val + 32 := congrArg Char.val (dif_pos h)

theorem toNat_toLower {c : Char} (h : c.val ≥ 'A'.val ∧ c.val ≤ 'Z'.val) :
    c.toLower.toNat = c.toNat + 32 ∧ 65 ≤ c.toNat ∧ c.toNat ≤ 90 := by
  have bounds : 65 ≤ c.val.toNat ∧ c.val.toNat ≤ 90 := h
  refine ⟨?_, bounds⟩
  have small : c.val.toNat + 32 < 2 ^ 32 := by omega
  have value : c.toLower.val.toNat = (c.val.toNat + 32) % 2 ^ 32 := by
    rw [val_toLower h, UInt32.toNat_add]
    rfl
  exact value.trans (Nat.mod_eq_of_lt small)

/-- A letter in lower case is none of the letters that are changed. -/
theorem toLower_toLower (c : Char) : c.toLower.toLower = c.toLower := by
  by_cases upper : c.val ≥ 'A'.val ∧ c.val ≤ 'Z'.val
  · obtain ⟨value, low, _⟩ := toNat_toLower upper
    apply toLower_of_not
    rintro ⟨_, le⟩
    have above : c.toLower.toNat ≤ 90 := le
    omega
  · rw [toLower_of_not upper, toLower_of_not upper]

theorem lower_lower (s : Text) : lower (lower s) = lower s := by
  rw [lower, lower, List.map_map]
  apply List.map_congr_left
  intro c _
  exact toLower_toLower c

theorem not_isSpace {c : Char} {n : Nat} (h : Hex.value c = some n) : isSpace c = false := by
  have hrange := Hex.range_of_value h
  simp only [isSpace, Bool.or_eq_false_iff, Bool.and_eq_false_iff, decide_eq_false_iff_not,
    beq_eq_false_iff_ne]
  omega

theorem bytesFromhex_of_decode {s : Text} {bs : Bytes} (h : Hex.decode s = some bs) :
    bytesFromhex s = some bs := by
  induction h using Hex.decode_induction with
  | nil => rfl
  | byte hh hl ht ih =>
      rw [bytesFromhex, if_neg (by simp [not_isSpace hh])]
      simp [hh, hl, ih]

/-- Written bytes are read, and then what follows them. -/
theorem bytesFromhex_encode_append (bs : Bytes) (follow : Text) :
    bytesFromhex (Hex.encode bs ++ follow) = (bytesFromhex follow).map (bs ++ ·) := by
  induction bs with
  | nil => exact Option.map_id'.symm
  | cons b bs ih =>
      have hb := b.isLt
      have high : Hex.value (Hex.digit (b.toNat / 16)) = some (b.toNat / 16) :=
        Hex.value_digit (by omega)
      have low : Hex.value (Hex.digit (b.toNat % 16)) = some (b.toNat % 16) :=
        Hex.value_digit (by omega)
      have text : Hex.encode (b :: bs) ++ follow =
          Hex.digit (b.toNat / 16) :: Hex.digit (b.toNat % 16) :: (Hex.encode bs ++ follow) := rfl
      rw [text, bytesFromhex, if_neg (by simp [not_isSpace high])]
      simp only [high, low, ih, Option.bind_eq_bind, Option.bind_some, Hex.pair_halves]
      cases bytesFromhex follow <;> rfl

theorem bytesFromhex_space {c : Char} (rest : Text) (space : isSpace c = true) :
    bytesFromhex (c :: rest) = bytesFromhex rest := by
  rw [bytesFromhex.eq_def]
  exact if_pos space

/-- A character that is no white space is the first digit of a byte. -/
theorem bytesFromhex_cons {c : Char} {rest : Text} {bs : Bytes} (space : isSpace c = false)
    (read : bytesFromhex (c :: rest) = some bs) :
    ∃ d h l tail more, rest = d :: more ∧ Hex.value c = some h ∧ Hex.value d = some l ∧
      bytesFromhex more = some tail ∧ bs = Hex.pair h l :: tail := by
  cases rest with
  | nil => simp [bytesFromhex, space] at read
  | cons d more =>
      rw [bytesFromhex, if_neg (by simp [space])] at read
      simp only [Option.bind_eq_bind, Option.bind_eq_some_iff, Option.pure_def,
        Option.some.injEq] at read
      obtain ⟨h, hh, l, hl, tail, ht, rfl⟩ := read
      exact ⟨d, h, l, tail, more, rfl, hh, hl, ht, rfl⟩

theorem decode_of_bytesFromhex {s : Text} {bs : Bytes} (read : bytesFromhex s = some bs)
    (plain : ∀ c ∈ s, isSpace c = false) : Hex.decode s = some bs := by
  induction s using bytesFromhex.induct generalizing bs with
  | case1 => exact read
  | case2 c rest space ih =>
      rw [plain c List.mem_cons_self] at space
      cases space
  | case3 c space => simp [bytesFromhex, space] at read
  | case4 c space d rest ih =>
      obtain ⟨_, h, l, tail, _, ⟨⟩, hh, hl, ht, rfl⟩ :=
        bytesFromhex_cons (Bool.eq_false_iff.mpr space) read
      have later : ∀ e ∈ rest, isSpace e = false := fun e he =>
        plain e (List.mem_cons_of_mem c (List.mem_cons_of_mem d he))
      exact Hex.decode_cons_iff.mpr ⟨h, l, tail, hh, hl, ih ht later, rfl⟩

/-- What is read strictly has no white space in it. -/
theorem not_isSpace_of_decode {s : Text} {bs : Bytes} (h : Hex.decode s = some bs) {c : Char}
    (hc : c ∈ s) : isSpace c = false := by
  obtain ⟨n, hn⟩ := Hex.value_of_mem_decode h hc
  exact not_isSpace hn

/-- A strict reading is one without white space. -/
theorem decode_eq_some_iff {s : Text} {bs : Bytes} :
    Hex.decode s = some bs ↔ bytesFromhex s = some bs ∧ ¬ ∃ c ∈ s, isSpace c = true := by
  constructor
  · intro strict
    refine ⟨bytesFromhex_of_decode strict, ?_⟩
    rintro ⟨c, hc, space⟩
    rw [not_isSpace_of_decode strict hc] at space
    cases space
  · rintro ⟨read, spaced⟩
    apply decode_of_bytesFromhex read
    intro c hc
    exact Bool.eq_false_iff.mpr fun space => spaced ⟨c, hc, space⟩

/-- A byte takes two characters. -/
theorem length_of_bytesFromhex {s : Text} {bs : Bytes} (read : bytesFromhex s = some bs) :
    2 * bs.length ≤ s.length := by
  induction s using bytesFromhex.induct generalizing bs with
  | case1 =>
      obtain rfl : [] = bs := Option.some.inj read
      exact Nat.le_refl _
  | case2 c rest space ih =>
      rw [bytesFromhex_space rest space] at read
      have shorter := ih read
      rw [List.length_cons]
      omega
  | case3 c space => simp [bytesFromhex, space] at read
  | case4 c space d rest ih =>
      obtain ⟨_, _, _, tail, _, ⟨⟩, _, _, ht, rfl⟩ :=
        bytesFromhex_cons (Bool.eq_false_iff.mpr space) read
      have shorter := ih ht
      simp only [List.length_cons]
      omega

end DuckPools.Py
