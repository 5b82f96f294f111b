import DuckPools.Codec.Hex
import Mathlib.Data.Nat.Bitwise

/-!
# Variable-length quantities

Little-endian base-128 groups: seven payload bits a byte, and the top bit set on
every byte but the last. Sigma constants use the same code for collection lengths
and, behind a zigzag step, for signed integers.

`merge32` is the law that lets a reader with a 32-bit accumulator be compared with
the unbounded writer: putting the low group in place and the remaining groups seven
bits higher is the whole number, as long as nothing is shifted out.
-/

namespace DuckPools.Vlq

/-- The groups of `n`, low group first. -/
def encode (n : Nat) : Bytes :=
  if n < 128 then [BitVec.ofNat 8 n]
  else BitVec.ofNat 8 (n % 128 + 128) :: encode (n / 128)
termination_by n

/-- Signed numbers folded onto the naturals: 0, -1, 1, -2, ... -/
def zigzag (n : Int) : Nat := if 0 ≤ n then (2 * n).toNat else (-2 * n - 1).toNat

def unzigzag (n : Nat) : Int := if n % 2 = 0 then (n / 2 : Nat) else -((n / 2 : Nat) : Int) - 1

/-- The number with these groups, whether or not the last of them ends it. -/
def value : Bytes → Nat
  | [] => 0
  | b :: rest => b.toNat % 128 + 128 * value rest

/-- The bytes up to the first one without the top bit. -/
def groups : Bytes → Bytes
  | [] => []
  | b :: rest => if b.toNat < 128 then [b] else b :: groups rest

/-- The bytes after that one. -/
def behind : Bytes → Bytes
  | [] => []
  | b :: rest => if b.toNat < 128 then rest else behind rest

/-- Reads one number; the bytes after it are left over. -/
def decode : Bytes → Option (Nat × Bytes)
  | [] => none
  | b :: rest =>
      if b.toNat < 128 then some (b.toNat, rest)
      else (decode rest).map fun (n, left) => (b.toNat % 128 + 128 * n, left)

@[simp] theorem unzigzag_zigzag (n : Int) : unzigzag (zigzag n) = n := by
  rw [zigzag, unzigzag]
  by_cases h : 0 ≤ n
  · rw [if_pos h]
    split <;> omega
  · rw [if_neg h]
    split <;> omega

@[simp] theorem zigzag_unzigzag (n : Nat) : zigzag (unzigzag n) = n := by
  rw [zigzag, unzigzag]
  split <;> split <;> omega

/-- Folding takes the numbers of one sign bit more to those below a power of two. -/
theorem unzigzag_lt_iff (n bound : Nat) :
    (-(bound : Int) ≤ unzigzag n ∧ unzigzag n < bound) ↔ n < 2 * bound := by
  rw [unzigzag]
  split <;> omega

theorem toNat_lastGroup {n : Nat} (h : n < 128) : (BitVec.ofNat 8 n).toNat = n := by
  rw [BitVec.toNat_ofNat]
  omega

theorem toNat_group (n : Nat) : (BitVec.ofNat 8 (n % 128 + 128)).toNat = n % 128 + 128 := by
  rw [BitVec.toNat_ofNat]
  omega

theorem encode_of_lt {n : Nat} (h : n < 128) : encode n = [BitVec.ofNat 8 n] := by
  rw [encode, if_pos h]

theorem encode_of_ge {n : Nat} (h : 128 ≤ n) :
    encode n = BitVec.ofNat 8 (n % 128 + 128) :: encode (n / 128) := by
  rw [encode, if_neg (by omega)]

/-- The first byte of a code is the number itself exactly for one-byte codes. -/
theorem head_encode_eq_one_iff (n : Nat) : (encode n).head? = some 1#8 ↔ n = 1 := by
  by_cases h : n < 128
  · rw [encode_of_lt h, List.head?_cons, Option.some.injEq]
    constructor
    · intro he
      have hn := congrArg BitVec.toNat he
      simp only [BitVec.toNat_ofNat] at hn
      omega
    · rintro rfl
      rfl
  · rw [encode_of_ge (by omega), List.head?_cons, Option.some.injEq]
    constructor
    · intro he
      have hn := congrArg BitVec.toNat he
      simp only [BitVec.toNat_ofNat] at hn
      omega
    · omega

theorem encode_ne_nil (n : Nat) : encode n ≠ [] := by
  rw [encode]
  split <;> simp

/-- A written number reads back, whatever follows it. -/
@[simp] theorem decode_encode_append (n : Nat) (rest : Bytes) :
    decode (encode n ++ rest) = some (n, rest) := by
  induction n using encode.induct with
  | case1 n h =>
      rw [encode_of_lt h, List.singleton_append, decode, toNat_lastGroup h, if_pos h]
  | case2 n h ih =>
      rw [encode_of_ge (by omega), List.cons_append, decode, toNat_group, if_neg (by omega), ih]
      simp only [Option.map_some, Option.some.injEq, Prod.mk.injEq, and_true]
      omega

@[simp] theorem groups_append_behind (bs : Bytes) : groups bs ++ behind bs = bs := by
  induction bs with
  | nil => rfl
  | cons b rest ih =>
      rw [groups, behind]
      split
      · rfl
      · rw [List.cons_append, ih]

@[simp] theorem groups_groups (bs : Bytes) : groups (groups bs) = groups bs := by
  induction bs with
  | nil => rfl
  | cons b rest ih =>
      rw [groups]
      split
      · rename_i last
        rw [groups, if_pos last]
      · rename_i more
        rw [groups, if_neg more, ih]

/-- Either one of the bytes ends a number, or all of them have the top bit. -/
theorem ends_or_continues (bs : Bytes) :
    (∃ b ∈ bs, b.toNat < 128) ∨ ∀ b ∈ bs, 128 ≤ b.toNat := by
  by_cases ends : ∃ b ∈ bs, b.toNat < 128
  · exact .inl ends
  · right
    intro b hb
    by_contra lt
    exact ends ⟨b, hb, Nat.not_le.mp lt⟩

theorem continues_of_zeros {bs : Bytes} (h : ∀ b ∈ bs, b = 0x80) : ∀ b ∈ bs, 128 ≤ b.toNat := by
  intro b hb
  rw [h b hb]
  decide

/-- Bytes that all have the top bit are the groups of a number without an end. -/
theorem groups_of_ge {bs : Bytes} (h : ∀ b ∈ bs, 128 ≤ b.toNat) : groups bs = bs := by
  induction bs with
  | nil => rfl
  | cons b rest ih =>
      have hb := h b List.mem_cons_self
      rw [groups, if_neg (by omega), ih fun c hc => h c (List.mem_cons_of_mem b hc)]

theorem behind_of_ge {bs : Bytes} (h : ∀ b ∈ bs, 128 ≤ b.toNat) : behind bs = [] := by
  have all := groups_append_behind bs
  rw [groups_of_ge h] at all
  exact List.append_right_eq_self.mp all

/-- A number is read exactly if one of the bytes ends it, and then it is that of its groups. -/
theorem decode_eq_some_iff {bs : Bytes} {n : Nat} {left : Bytes} :
    decode bs = some (n, left) ↔
      (∃ b ∈ bs, b.toNat < 128) ∧ n = value (groups bs) ∧ left = behind bs := by
  induction bs generalizing n left with
  | nil => simp [decode]
  | cons b rest ih =>
      rw [decode, groups, behind]
      by_cases last : b.toNat < 128
      · have payload : value [b] = b.toNat := by
          rw [value, value]
          omega
        rw [if_pos last, if_pos last, if_pos last, payload, Option.some.injEq, Prod.mk.injEq]
        constructor
        · rintro ⟨rfl, rfl⟩
          exact ⟨⟨b, List.mem_cons_self, last⟩, rfl, rfl⟩
        · rintro ⟨_, rfl, rfl⟩
          exact ⟨rfl, rfl⟩
      · rw [if_neg last, if_neg last, if_neg last, value, Option.map_eq_some_iff]
        constructor
        · rintro ⟨⟨m, left'⟩, read, same⟩
          obtain ⟨⟨c, hc, ends⟩, rfl, rfl⟩ := ih.mp read
          obtain ⟨rfl, rfl⟩ := Prod.mk.inj same
          exact ⟨⟨c, List.mem_cons_of_mem b hc, ends⟩, rfl, rfl⟩
        · rintro ⟨⟨c, hc, ends⟩, rfl, rfl⟩
          have later : c ∈ rest := (List.mem_cons.mp hc).resolve_left fun same =>
            last (same ▸ ends)
          exact ⟨(value (groups rest), behind rest), ih.mpr ⟨⟨c, later, ends⟩, rfl, rfl⟩, rfl⟩

theorem decode_eq_none_iff {bs : Bytes} : decode bs = none ↔ ∀ b ∈ bs, 128 ≤ b.toNat := by
  rw [Option.eq_none_iff_forall_ne_some]
  constructor
  · intro h b hb
    by_contra ends
    exact h _ (decode_eq_some_iff.mpr ⟨⟨b, hb, Nat.not_le.mp ends⟩, rfl, rfl⟩)
  · rintro h ⟨n, left⟩ read
    obtain ⟨⟨b, hb, ends⟩, _, _⟩ := decode_eq_some_iff.mp read
    exact absurd (h b hb) (by omega)

/-- What follows a number is left over. -/
theorem decode_append {bs : Bytes} {n : Nat} {left : Bytes} (h : decode bs = some (n, left))
    (more : Bytes) : decode (bs ++ more) = some (n, left ++ more) := by
  induction bs generalizing n left with
  | nil => cases h
  | cons b rest ih =>
      rw [List.cons_append, decode]
      rw [decode] at h
      by_cases last : b.toNat < 128
      · rw [if_pos last] at h ⊢
        obtain ⟨rfl, rfl⟩ := Prod.mk.inj (Option.some.inj h)
        rfl
      · rw [if_neg last] at h ⊢
        obtain ⟨⟨m, left'⟩, read, same⟩ := Option.map_eq_some_iff.mp h
        obtain ⟨rfl, rfl⟩ := Prod.mk.inj same
        rw [ih read]
        rfl

theorem groups_encode_append (n : Nat) (rest : Bytes) :
    value (groups (encode n ++ rest)) = n ∧ behind (encode n ++ rest) = rest := by
  obtain ⟨_, number, left⟩ := decode_eq_some_iff.mp (decode_encode_append n rest)
  exact ⟨number.symm, left.symm⟩

/-- Groups with the top bit are worth nothing exactly if they have no other bit. -/
theorem value_eq_zero_iff {bs : Bytes} (h : ∀ b ∈ bs, 128 ≤ b.toNat) :
    value bs = 0 ↔ ∀ b ∈ bs, b = 0x80 := by
  induction bs with
  | nil => simp [value]
  | cons b rest ih =>
      have hb := h b List.mem_cons_self
      have lt := b.isLt
      have only : b.toNat % 128 = 0 ↔ b = 0x80 := by
        rw [← BitVec.toNat_inj]
        show b.toNat % 128 = 0 ↔ b.toNat = 128
        omega
      have hrest := ih fun c hc => h c (List.mem_cons_of_mem b hc)
      rw [value, List.forall_mem_cons, ← only, ← hrest]
      omega

/-- The number counts the bytes after it: either it is there and does, or there is only the
beginning of a zero. -/
theorem counts_iff {bs : Bytes} :
    (behind bs).length = value (groups bs) ↔
      (∃ left, decode bs = some (left.length, left)) ∨ ∀ b ∈ bs, b = 0x80 := by
  cases ends_or_continues bs with
  | inl ends =>
      have notZero : ¬ ∀ b ∈ bs, b = 0x80 := by
        intro zeros
        obtain ⟨b, hb, lt⟩ := ends
        exact absurd (continues_of_zeros zeros b hb) (by omega)
      rw [or_iff_left notZero]
      constructor
      · intro counts
        exact ⟨behind bs, decode_eq_some_iff.mpr ⟨ends, counts, rfl⟩⟩
      · rintro ⟨left, read⟩
        obtain ⟨_, number, rfl⟩ := decode_eq_some_iff.mp read
        exact number
  | inr continues =>
      have notRead : ¬ ∃ left, decode bs = some (left.length, left) := by
        rintro ⟨left, read⟩
        rw [decode_eq_none_iff.mpr continues] at read
        cases read
      rw [or_iff_right notRead, groups_of_ge continues, behind_of_ge continues,
        ← value_eq_zero_iff continues]
      exact eq_comm

/-- The top bit is set on every byte but the last, and the last one is not zero unless it is the
only one. -/
def Canonical (bs : Bytes) : Prop :=
  ∃ front last, bs = front ++ [last] ∧ (∀ b ∈ front, 128 ≤ b.toNat) ∧ last.toNat < 128 ∧
    (last = 0 → front = [])

@[simp] theorem value_encode (n : Nat) : value (encode n) = n := by
  induction n using encode.induct with
  | case1 n h =>
      rw [encode_of_lt h, value, value, toNat_lastGroup h]
      omega
  | case2 n h ih =>
      rw [encode_of_ge (by omega), value, toNat_group, ih]
      omega

/-- Only zero is written with a zero in the end. -/
theorem exists_last_encode (n : Nat) :
    ∃ front last, encode n = front ++ [last] ∧ (∀ b ∈ front, 128 ≤ b.toNat) ∧
      last.toNat < 128 ∧ (last = 0 ↔ n = 0) := by
  induction n using encode.induct with
  | case1 n h =>
      have hn := toNat_lastGroup h
      refine ⟨[], BitVec.ofNat 8 n, encode_of_lt h, by simp, by omega, ?_⟩
      rw [← BitVec.toNat_inj, hn]
      rfl
  | case2 n h ih =>
      obtain ⟨front, last, code, continues, ends, zero⟩ := ih
      refine ⟨BitVec.ofNat 8 (n % 128 + 128) :: front, last, ?_, ?_, ends, ?_⟩
      · rw [encode_of_ge (by omega), code, List.cons_append]
      · intro b hb
        obtain rfl | hb := List.mem_cons.mp hb
        · rw [toNat_group]
          omega
        · exact continues b hb
      · rw [zero]
        omega

theorem value_pos {front : Bytes} {last : Byte} (ends : last.toNat < 128) (h : last ≠ 0) :
    0 < value (front ++ [last]) := by
  induction front with
  | nil =>
      have positive : last.toNat ≠ 0 := fun zero => h (BitVec.eq_of_toNat_eq zero)
      rw [List.nil_append, value, value]
      omega
  | cons b rest ih =>
      rw [List.cons_append, value]
      omega

/-- A number has no other canonical code than the one that is written. -/
theorem encode_value {bs : Bytes} (h : Canonical bs) : encode (value bs) = bs := by
  obtain ⟨front, last, rfl, continues, ends, zero⟩ := h
  induction front with
  | nil =>
      have payload : value [last] = last.toNat := by
        rw [value, value]
        omega
      rw [List.nil_append, payload, encode_of_lt ends, BitVec.ofNat_toNat, BitVec.setWidth_eq]
  | cons b rest ih =>
      have hb := continues b List.mem_cons_self
      have hlt := b.isLt
      have nonzero : last ≠ 0 := fun hlast => by cases zero hlast
      have positive := @value_pos rest last ends nonzero
      have digit : BitVec.ofNat 8 (b.toNat % 128 + 128) = b := by
        apply BitVec.eq_of_toNat_eq
        rw [BitVec.toNat_ofNat]
        omega
      have low : (b.toNat % 128 + 128 * value (rest ++ [last])) % 128 = b.toNat % 128 := by omega
      have high : (b.toNat % 128 + 128 * value (rest ++ [last])) / 128 =
          value (rest ++ [last]) := by omega
      rw [List.cons_append, value, encode_of_ge (by omega), low, high, digit,
        ih (fun c hc => continues c (List.mem_cons_of_mem b hc)) fun hlast => absurd hlast nonzero]

/-- The top bit is clear in the bytes that end a number. -/
theorem and_top_eq_zero_iff (b : Byte) : b &&& 0x80 = 0 ↔ b.toNat < 128 := by
  have all : ∀ n < 256, BitVec.ofNat 8 n &&& 0x80 = 0 ↔ (BitVec.ofNat 8 n).toNat < 128 := by
    decide +kernel
  have byte := all b.toNat b.isLt
  rwa [BitVec.ofNat_toNat, BitVec.setWidth_eq] at byte

/-- The payload of a byte. -/
theorem payload32 (b : Byte) :
    ((b &&& 0x7f).setWidth 32 : BitVec 32) = BitVec.ofNat 32 (b.toNat % 128) := by
  have lt := b.isLt
  have low : (b &&& 0x7f).toNat = b.toNat % 128 :=
    (BitVec.toNat_and b 0x7f).trans (Nat.and_two_pow_sub_one_eq_mod b.toNat 7)
  apply BitVec.eq_of_toNat_eq
  rw [BitVec.toNat_setWidth, BitVec.toNat_ofNat, low]

theorem or_continuation {n : Nat} (h : n < 128) :
    BitVec.ofNat 8 n ||| 0x80 = BitVec.ofNat 8 (n + 128) := by
  have all : ∀ n < 128, BitVec.ofNat 8 n ||| 0x80 = BitVec.ofNat 8 (n + 128) := by decide
  exact all n h

/-- A number is its low seven bits together with the rest, seven bits higher. -/
theorem ofNat_split (n : Nat) :
    BitVec.ofNat 32 n = BitVec.ofNat 32 (n % 128) ||| BitVec.ofNat 32 (n / 128) <<< 7 := by
  apply BitVec.eq_of_getLsbD_eq
  intro i hi
  simp only [BitVec.getLsbD_ofNat, BitVec.getLsbD_or, BitVec.getLsbD_shiftLeft]
  have low : (n % 128).testBit i = (decide (i < 7) && n.testBit i) :=
    Nat.testBit_mod_two_pow n 7 i
  rw [low]
  by_cases h : i < 7
  · simp [h, hi]
  · have high : (n / 128).testBit (i - 7) = n.testBit i := by
      rw [show (128 : Nat) = 2 ^ 7 from rfl, Nat.testBit_div_two_pow]
      congr 1
      omega
    have hi' : i - 7 < 32 := by omega
    simp [h, hi, hi', high]

theorem merge32 (acc : BitVec 32) (n shift : Nat) :
    (acc ||| BitVec.ofNat 32 (n % 128) <<< shift) ||| BitVec.ofNat 32 (n / 128) <<< (shift + 7) =
      acc ||| BitVec.ofNat 32 n <<< shift := by
  rw [ofNat_split n, BitVec.shiftLeft_or_distrib, BitVec.or_assoc, Nat.add_comm shift 7,
    BitVec.shiftLeft_add]

end DuckPools.Vlq
