import DuckPools.Language.Exceptions
import DuckPools.Language.JavaScript
import DuckPools.Language.WordCounts
import Mathlib.Algebra.BigOperators.Field
import Mathlib.Analysis.SpecialFunctions.Pow.Real
import Mathlib.Data.FinEnum

/-!
# Plinko: `frontend/src/utils/plinko.ts`

The slot is the number of odd bytes among the first ones of a digest. The multiplier of a
slot is a power of its probability, scaled so that the average over all slots is what the
house leaves. The functions are written for any numbers; the statements are about exact ones.
-/

namespace DuckPools.Plinko

open Exceptions

/-- The functions of `Math` that are used. -/
structure Math (F : Type) where
  pow : F → F → F
  floor : F → Int

section Source

variable {F : Type} [IntCast F] [NatCast F] [Add F] [Sub F] [Mul F] [Div F] (math : Math F)

/-- `0.03` -/
def PLINKO_HOUSE_EDGE : F := ((3 : Nat) : F) / ((100 : Nat) : F)

/-- `result` after so many rounds of the loop. -/
def binomialResult (n : Int) : Nat → F
  | 0 => ((1 : Nat) : F)
  | i + 1 => binomialResult n i * ((n - i : Int) : F) / ((i + 1 : Nat) : F)

def binomialCoefficient (n k : Int) : F :=
  if k < 0 ∨ k > n then ((0 : Nat) : F)
  else if k = 0 ∨ k = n then ((1 : Nat) : F)
  else binomialResult n (min k (n - k)).toNat

def getPlinkoSlotProbability (rows slot : Int) : Except String F :=
  if slot < 0 ∨ slot > rows then
    throw s!"Slot {slot} out of range for {rows} rows (must be 0-{rows})"
  else return binomialCoefficient rows slot / math.pow ((2 : Nat) : F) (rows : F)

/-- A loop over the slots that adds up what `term` gives. -/
def sumSlots (rows : Int) (term : Int → Except String F) : Except String F :=
  (List.range (rows + 1).toNat).foldlM (fun sum (slot : Nat) => do return sum + (← term slot))
    ((0 : Nat) : F)

def getPlinkoSlotMultiplier (rows slot : Int) : Except String F := do
  let probability ← getPlinkoSlotProbability math rows slot
  let alpha : F := ((1 : Nat) : F) / ((2 : Nat) : F)
  let denom ← sumSlots rows fun s => do
    return math.pow (← getPlinkoSlotProbability math rows s) (((1 : Nat) : F) - alpha)
  let A := (((1 : Nat) : F) - PLINKO_HOUSE_EDGE) / denom
  return A * math.pow (((1 : Nat) : F) / probability) alpha

def calculatePlinkoPayout (betNanoErg : F) (rows slot : Int) : Except String Int := do
  let multiplier ← getPlinkoSlotMultiplier math rows slot
  return math.floor (betNanoErg * multiplier)

def computePlinkoExpectedReturn (betNanoErg : F) (rows : Int) : Except String Int := do
  let expectedPayout ← sumSlots rows fun slot => do
    let probability ← getPlinkoSlotProbability math rows slot
    let multiplier ← getPlinkoSlotMultiplier math rows slot
    let payout := betNanoErg * multiplier
    return probability * payout
  return math.floor expectedPayout

/-- `byte & 0x01`, where a byte that is missing counts as zero. -/
def turnsRight (byte : Option Byte) : Bool := byte.getD 0 &&& 0x01 != 0

def computePlinkoRng {L : Nat} (sha256 : Bytes → List.Vector Byte L) (blockHash : Text)
    (secretBytes : Bytes) (rows : Int) : Int :=
  let blockHashBuffer := Js.bufferFromUtf8 blockHash
  let rngInput := blockHashBuffer ++ secretBytes
  let rngHash := (sha256 rngInput).toList
  let slot : Nat := (List.range rows.toNat).foldl
    (fun slot i => if turnsRight rngHash[i % rngHash.length]? then slot + 1 else slot) 0
  min slot rows

end Source

section Binomial

variable {F : Type} [Field F] [CharZero F]

/-- Every division of the loop is exact. -/
theorem binomialResult_eq_choose {n i : Nat} (h : i ≤ n) :
    (binomialResult n i : F) = n.choose i := by
  induction i with
  | zero => rw [binomialResult, Nat.choose_zero_right]
  | succ i ih =>
      have division : n.choose (i + 1) * (i + 1) = n.choose i * (n - i) :=
        Nat.choose_succ_right_eq n i
      have nonzero : ((i + 1 : Nat) : F) ≠ 0 := Nat.cast_ne_zero.mpr (Nat.succ_ne_zero i)
      rw [binomialResult, ih (by omega), div_eq_iff nonzero,
        show ((n : Int) - (i : Int) : Int) = ((n - i : Nat) : Int) by omega, Int.cast_natCast,
        ← Nat.cast_mul, ← Nat.cast_mul, division]

theorem binomialCoefficient_eq_choose (n k : Nat) :
    (binomialCoefficient n k : F) = n.choose k := by
  rw [binomialCoefficient]
  split_ifs with outside ends
  · rw [Nat.choose_eq_zero_of_lt (by omega)]
  · obtain zero | full := ends
    · rw [Int.natCast_eq_zero.mp zero, Nat.choose_zero_right]
    · rw [Int.natCast_inj.mp full, Nat.choose_self]
  · obtain small | large := Nat.le_total k (n - k)
    · rw [show (min (k : Int) ((n : Int) - k)).toNat = k by omega,
        binomialResult_eq_choose (by omega)]
    · rw [show (min (k : Int) ((n : Int) - k)).toNat = n - k by omega,
        binomialResult_eq_choose (by omega), Nat.choose_symm (by omega)]

end Binomial

section Slots

/-- The odd ones among the first bytes. -/
def oddBytes (r : Nat) (digest : Bytes) : Nat :=
  (digest.take r).countP fun byte => turnsRight (some byte)

theorem oddBytes_le (r : Nat) (digest : Bytes) : oddBytes r digest ≤ r :=
  List.countP_le_length.trans (List.length_take_le r digest)

/-- Going through the first bytes counts the odd ones. -/
theorem foldl_turnsRight {digest : Bytes} {rows : Nat} (h : rows ≤ digest.length) :
    (List.range rows).foldl
        (fun slot i => if turnsRight digest[i % digest.length]? then slot + 1 else slot) 0 =
      oddBytes rows digest := by
  induction rows with
  | zero => rfl
  | succ rows ih =>
      have inside : rows < digest.length := by omega
      rw [List.range_succ, List.foldl_append, ih (by omega), List.foldl_cons, List.foldl_nil,
        Nat.mod_eq_of_lt inside, oddBytes, oddBytes, List.take_add_one, List.countP_append,
        List.getElem?_eq_getElem inside, Option.toList_some, List.countP_singleton]
      split <;> rfl

theorem ofKind_turnsRight : Words.ofKind (fun byte => turnsRight (some byte)) = 128 := by
  decide +kernel

theorem others_turnsRight : Words.others (fun byte => turnsRight (some byte)) = 128 := by
  decide +kernel

variable {L r : Nat} (sha256 : Bytes → List.Vector Byte L) (blockHash : Text) (secretBytes : Bytes)

theorem computePlinkoRng_eq (hr : r ≤ L) :
    computePlinkoRng sha256 blockHash secretBytes r =
      oddBytes r (sha256 (Js.bufferFromUtf8 blockHash ++ secretBytes)).toList := by
  rw [computePlinkoRng]
  have length := List.Vector.toList_length (sha256 (Js.bufferFromUtf8 blockHash ++ secretBytes))
  generalize (sha256 (Js.bufferFromUtf8 blockHash ++ secretBytes)).toList = digest at length
  rw [Int.toNat_natCast, foldl_turnsRight (length ▸ hr)]
  exact min_eq_left (Int.ofNat_le.mpr (oddBytes_le r digest))

theorem card_byte : Fintype.card Byte = 2 ^ 8 := by decide +kernel

/-- The digests of a slot. -/
theorem card_slot (hr : r ≤ L) (k : Nat) :
    (Words.count L fun digest => oddBytes r digest = k) = r.choose k * 2 ^ (8 * L - r) := by
  obtain ⟨m, rfl⟩ := Nat.exists_eq_add_of_le hr
  have counted : (Words.count (r + m) fun digest => oddBytes r digest = k) = _ :=
    Words.count_take_countP (fun byte => turnsRight (some byte)) r m k
  rw [counted, ofKind_turnsRight, others_turnsRight, card_byte]
  by_cases h : k ≤ r
  · obtain ⟨d, rfl⟩ := Nat.exists_eq_add_of_le h
    rw [Nat.add_sub_cancel_left, mul_assoc, mul_assoc]
    congr 1
    rw [show (128 : Nat) = 2 ^ 7 from rfl, ← pow_mul, ← pow_mul, ← pow_mul, ← pow_add, ← pow_add]
    congr 1
    omega
  · rw [Nat.choose_eq_zero_of_lt (by omega), Nat.zero_mul, Nat.zero_mul, Nat.zero_mul,
      Nat.zero_mul]

end Slots

section Return

/-- Exact numbers. -/
noncomputable def realMath : Math ℝ where
  pow x y := x ^ y
  floor x := ⌊x⌋

/-- The share of the digests in slot `k`. -/
noncomputable def share (r k : Nat) : ℝ := r.choose k / 2 ^ r

/-- The normalisation constant `denom`. -/
noncomputable def rootSum (r : Nat) : ℝ := ∑ k ∈ Finset.range (r + 1), √(share r k)

noncomputable def multiplier (r k : Nat) : ℝ := (1 - 3 / 100) / rootSum r * √(1 / share r k)

theorem share_pos {r k : Nat} (h : k ≤ r) : 0 < share r k :=
  div_pos (Nat.cast_pos.mpr (Nat.choose_pos h)) (pow_pos two_pos r)

theorem rootSum_pos (r : Nat) : 0 < rootSum r := by
  apply Finset.sum_pos
  · intro k member
    exact Real.sqrt_pos.mpr (share_pos (Nat.lt_succ_iff.mp (Finset.mem_range.mp member)))
  · exact ⟨0, Finset.mem_range.mpr r.succ_pos⟩

theorem sumSlots_of_ok {r : Nat} {term : Int → Except String ℝ} {f : Nat → ℝ}
    (h : ∀ k ≤ r, term k = .ok (f k)) :
    sumSlots r term = .ok (∑ k ∈ Finset.range (r + 1), f k) := by
  rw [sumSlots, show ((r : Int) + 1).toNat = r + 1 by omega]
  generalize hn : r + 1 = n
  replace h : ∀ k < n, term k = .ok (f k) := fun k hk => h k (by omega)
  clear hn
  induction n with
  | zero =>
      rw [Finset.range_zero, Finset.sum_empty, List.range_zero, List.foldlM_nil, Nat.cast_zero]
      rfl
  | succ n ih =>
      rw [List.range_succ, List.foldlM_append, ih fun k hk => h k (by omega), ok_bind,
        List.foldlM_cons, h n n.lt_succ_self, Finset.sum_range_succ]
      rfl

variable {r k : Nat}

theorem getPlinkoSlotProbability_eq (h : k ≤ r) :
    getPlinkoSlotProbability realMath r k = .ok (share r k) := by
  have power : realMath.pow ((2 : Nat) : ℝ) ((r : Int) : ℝ) = 2 ^ r := by
    show ((2 : Nat) : ℝ) ^ ((r : Int) : ℝ) = 2 ^ r
    rw [Int.cast_natCast, Real.rpow_natCast, Nat.cast_ofNat]
  rw [getPlinkoSlotProbability, if_neg (by omega), binomialCoefficient_eq_choose, power]
  rfl

theorem pow_half (x : ℝ) : realMath.pow x (((1 : Nat) : ℝ) / ((2 : Nat) : ℝ)) = √x := by
  rw [Real.sqrt_eq_rpow, Nat.cast_one, Nat.cast_ofNat]
  rfl

theorem getPlinkoSlotMultiplier_eq (h : k ≤ r) :
    getPlinkoSlotMultiplier realMath r k = .ok (multiplier r k) := by
  have complement : ((1 : Nat) : ℝ) - ((1 : Nat) : ℝ) / ((2 : Nat) : ℝ) =
      ((1 : Nat) : ℝ) / ((2 : Nat) : ℝ) := by
    rw [Nat.cast_one, Nat.cast_ofNat]
    norm_num
  have denom : (sumSlots r fun s => do
      return realMath.pow (← getPlinkoSlotProbability realMath r s)
        (((1 : Nat) : ℝ) - ((1 : Nat) : ℝ) / ((2 : Nat) : ℝ))) = .ok (rootSum r) := by
    apply sumSlots_of_ok
    intro s hs
    rw [getPlinkoSlotProbability_eq hs, ok_bind, complement, pow_half]
    rfl
  rw [getPlinkoSlotMultiplier, getPlinkoSlotProbability_eq h, ok_bind]
  simp only [denom, ok_bind]
  rw [pow_half, PLINKO_HOUSE_EDGE, Nat.cast_one, Nat.cast_ofNat, Nat.cast_ofNat]
  rfl

/-- What a slot contributes to the average. -/
theorem share_mul_multiplier (r k : Nat) :
    share r k * multiplier r k = (1 - 3 / 100) / rootSum r * √(share r k) := by
  have root : share r k * √(1 / share r k) = √(share r k) := by
    rw [Real.sqrt_div zero_le_one, Real.sqrt_one, mul_one_div, Real.div_sqrt]
  rw [multiplier, mul_left_comm, root]

theorem sum_share_mul_multiplier (r : Nat) :
    ∑ k ∈ Finset.range (r + 1), share r k * multiplier r k = 1 - 3 / 100 := by
  rw [Finset.sum_congr rfl fun k _ => share_mul_multiplier r k, ← Finset.mul_sum]
  exact div_mul_cancel₀ _ (rootSum_pos r).ne'

theorem computePlinkoExpectedReturn_eq (betNanoErg : ℝ) (r : Nat) :
    computePlinkoExpectedReturn realMath betNanoErg r =
      .ok ⌊betNanoErg * (1 - PLINKO_HOUSE_EDGE)⌋ := by
  have sum : (sumSlots r fun slot => do
      let probability ← getPlinkoSlotProbability realMath r slot
      let multiplier ← getPlinkoSlotMultiplier realMath r slot
      let payout := betNanoErg * multiplier
      return probability * payout) =
      .ok (∑ k ∈ Finset.range (r + 1), betNanoErg * (share r k * multiplier r k)) := by
    apply sumSlots_of_ok
    intro k hk
    rw [getPlinkoSlotProbability_eq hk, getPlinkoSlotMultiplier_eq hk, ok_bind, ok_bind]
    exact congrArg Except.ok (mul_left_comm _ _ _)
  rw [computePlinkoExpectedReturn, sum, ok_bind, ← Finset.mul_sum, sum_share_mul_multiplier,
    PLINKO_HOUSE_EDGE, Nat.cast_ofNat, Nat.cast_ofNat]
  rfl

end Return

section Average

variable {L r : Nat} (blockHash : Text) (secretBytes : Bytes)

/-- The slot a digest is mapped to. -/
def slotOf (r : Nat) (digest : List.Vector Byte L) : Int :=
  computePlinkoRng (fun _ => digest) blockHash secretBytes r

variable {blockHash secretBytes}

theorem slotOf_eq (hr : r ≤ L) (digest : List.Vector Byte L) :
    slotOf blockHash secretBytes r digest = oddBytes r digest.toList :=
  computePlinkoRng_eq (fun _ => digest) blockHash secretBytes hr

theorem card_slotOf (hr : r ≤ L) (k : Nat) :
    Fintype.card {digest : List.Vector Byte L // slotOf blockHash secretBytes r digest = k} =
      r.choose k * 2 ^ (8 * L - r) := by
  rw [← card_slot hr]
  apply Fintype.card_congr
  apply Equiv.subtypeEquivRight
  intro digest
  rw [slotOf_eq hr, Int.natCast_inj]

theorem card_digests (L : Nat) : (Fintype.card (List.Vector Byte L) : ℝ) = 2 ^ (8 * L) := by
  rw [card_vector, card_byte, ← pow_mul, Nat.cast_pow, Nat.cast_ofNat]

theorem average_multiplier (hr : r ≤ L) :
    (∑ digest : List.Vector Byte L, multiplier r (oddBytes r digest.toList)) /
      Fintype.card (List.Vector Byte L) = 1 - 3 / 100 := by
  have power : (2 : ℝ) ^ (8 * L) = 2 ^ (8 * L - r) * 2 ^ r := by
    rw [← pow_add, Nat.sub_add_cancel (by omega)]
  rw [Words.sum_by_value (fun digest _ => oddBytes_le r digest), card_digests, Finset.sum_div,
    ← sum_share_mul_multiplier r]
  apply Finset.sum_congr rfl
  intro k _
  rw [card_slot hr k, nsmul_eq_mul, Nat.cast_mul, Nat.cast_pow, Nat.cast_ofNat, power, share]
  field_simp

end Average

/-- The binomial distribution of the slots, and what the multipliers make of it. -/
theorem plinko_pays_its_stated_return {L r : Nat} (hr : r ≤ L) (blockHash : Text)
    (secretBytes : Bytes) :
    (∀ k : Nat,
      Fintype.card {digest : List.Vector Byte L // slotOf blockHash secretBytes r digest = k} =
        r.choose k * 2 ^ (8 * L - r)) ∧
    (∀ k ≤ r, (binomialCoefficient r k : ℝ) = r.choose k ∧
      ∀ i ≤ min k (r - k), ∃ result product : Int, (binomialResult r i : ℝ) = result ∧
        (binomialResult r i : ℝ) * ((r - i : Int) : ℝ) = product) ∧
    (∃ paid : Int → ℝ,
      (∀ digest : List.Vector Byte L,
        getPlinkoSlotMultiplier realMath r (slotOf blockHash secretBytes r digest) =
          .ok (paid (slotOf blockHash secretBytes r digest))) ∧
      (∑ digest : List.Vector Byte L, paid (slotOf blockHash secretBytes r digest)) /
        Fintype.card (List.Vector Byte L) = 1 - PLINKO_HOUSE_EDGE) ∧
    ∀ betNanoErg : ℝ, computePlinkoExpectedReturn realMath betNanoErg r =
      .ok ⌊betNanoErg * (1 - PLINKO_HOUSE_EDGE)⌋ := by
  refine ⟨card_slotOf hr, ?_, ⟨fun slot => multiplier r slot.toNat, ?_, ?_⟩,
    fun betNanoErg => computePlinkoExpectedReturn_eq betNanoErg r⟩
  · intro k _
    refine ⟨binomialCoefficient_eq_choose r k, ?_⟩
    intro i hi
    refine ⟨r.choose i, r.choose i * (r - i), ?_, ?_⟩
    · rw [binomialResult_eq_choose (by omega), Int.cast_natCast]
    · rw [binomialResult_eq_choose (by omega), Int.cast_mul, Int.cast_natCast]
  · intro digest
    rw [slotOf_eq hr]
    exact getPlinkoSlotMultiplier_eq (oddBytes_le r digest.toList)
  · have slots (digest : List.Vector Byte L) :
        multiplier r (slotOf blockHash secretBytes r digest).toNat =
          multiplier r (oddBytes r digest.toList) := by
      rw [slotOf_eq hr, Int.toNat_natCast]
    rw [Finset.sum_congr rfl fun digest _ => slots digest, average_multiplier hr,
      PLINKO_HOUSE_EDGE, Nat.cast_ofNat, Nat.cast_ofNat]

/-- The default number of rows, on digests of 32 bytes. -/
theorem plinko_pays_its_stated_return_twelve_rows :
    (∀ k : Nat, Fintype.card {digest : List.Vector Byte 32 // slotOf [] [] 12 digest = k} =
        Nat.choose 12 k * 2 ^ (8 * 32 - 12)) ∧
    (∀ k ≤ (12 : Nat), (binomialCoefficient (12 : Nat) k : ℝ) = Nat.choose 12 k ∧
      ∀ i ≤ min k (12 - k), ∃ result product : Int, (binomialResult (12 : Nat) i : ℝ) = result ∧
        (binomialResult (12 : Nat) i : ℝ) * (((12 : Nat) - i : Int) : ℝ) = product) ∧
    (∃ paid : Int → ℝ,
      (∀ digest : List.Vector Byte 32,
        getPlinkoSlotMultiplier realMath (12 : Nat) (slotOf [] [] 12 digest) =
          .ok (paid (slotOf [] [] 12 digest))) ∧
      (∑ digest : List.Vector Byte 32, paid (slotOf [] [] 12 digest)) /
        Fintype.card (List.Vector Byte 32) = 1 - PLINKO_HOUSE_EDGE) ∧
    ∀ betNanoErg : ℝ, computePlinkoExpectedReturn realMath betNanoErg (12 : Nat) =
      .ok ⌊betNanoErg * (1 - PLINKO_HOUSE_EDGE)⌋ :=
  plinko_pays_its_stated_return (show 12 ≤ 32 by decide) [] []

end DuckPools.Plinko
