import DuckPools.Coinflip.Contract

/-!
# Which choice a flip lets win

`flipResult` is the remainder of a signed byte, so besides 0 and 1 it takes the value
-1, on every first byte that is odd and at least 128 when read unsigned. No choice
equals -1: on a quarter of the hash space the flip is lost whatever was chosen.
-/

namespace DuckPools.CoinflipV2

variable {Point : Type} (H : Blake2b)

/-- The remainder the script computes, by the unsigned value of the byte. -/
theorem signed_remainder (b : Byte) :
    b.toInt.tmod 2 = if b.toNat % 2 = 0 then 0 else if b.toNat < 128 then 1 else -1 := by
  have all : ∀ n < 256, (BitVec.ofNat 8 n).toInt.tmod 2 =
      if (BitVec.ofNat 8 n).toNat % 2 = 0 then 0
      else if (BitVec.ofNat 8 n).toNat < 128 then 1 else -1 := by decide +kernel
  simpa only [BitVec.ofNat_toNat, BitVec.setWidth_eq] using all b.toNat b.isLt

theorem playerWins_zero_iff (blockSeed playerSecret : Bytes) :
    playerWins H blockSeed playerSecret 0 = true ↔
      (firstByte (rngHash H blockSeed playerSecret)).toNat % 2 = 0 := by
  simp only [playerWins, flipResult, signed_remainder, beq_iff_eq, Int32.toInt_zero]
  split_ifs <;> simp_all

theorem playerWins_one_iff (blockSeed playerSecret : Bytes) :
    playerWins H blockSeed playerSecret 1 = true ↔
      (firstByte (rngHash H blockSeed playerSecret)).toNat % 2 = 1 ∧
        (firstByte (rngHash H blockSeed playerSecret)).toNat < 128 := by
  simp only [playerWins, flipResult, signed_remainder, beq_iff_eq, Int32.toInt_one]
  split_ifs <;> simp_all

/-- The first hash bytes on which `choice` wins. -/
def winningByte (choice : Int32) (first : Byte) : Prop :=
  (choice = 0 ∧ first.toNat % 2 = 0) ∨
    (choice = 1 ∧ first.toNat % 2 = 1 ∧ first.toNat < 128)

instance (choice : Int32) (first : Byte) : Decidable (winningByte choice first) :=
  inferInstanceAs (Decidable (_ ∨ _))

theorem playerWins_iff_winningByte {choice : Int32} (hchoice : choice = 0 ∨ choice = 1)
    (blockSeed playerSecret : Bytes) :
    playerWins H blockSeed playerSecret choice = true ↔
      winningByte choice (firstByte (rngHash H blockSeed playerSecret)) := by
  have heads : ¬ (0 : Int32) = 1 := by decide
  rcases hchoice with rfl | rfl
  · simp only [playerWins_zero_iff, winningByte, heads, false_and, or_false, true_and]
  · simp only [playerWins_one_iff, winningByte, Ne.symm heads, false_and, false_or, true_and]

/-- Exactly one of the two choices wins, unless the first hash byte is odd and has
its top bit set; then neither does. -/
theorem exactly_one_choice_wins_iff (bet : Bet Point) (parentId : Bytes) :
    (∃! choice : Int32, (choice = 0 ∨ choice = 1) ∧
        ({ bet with playerChoice := choice } : Bet Point).playerWins H parentId = true) ↔
      ¬ ((firstByte (rngHash H parentId bet.playerSecret)).toNat % 2 = 1 ∧
          128 ≤ (firstByte (rngHash H parentId bet.playerSecret)).toNat) := by
  have zero := playerWins_zero_iff H parentId bet.playerSecret
  have one := playerWins_one_iff H parentId bet.playerSecret
  simp only [Bet.playerWins]
  constructor
  · rintro ⟨choice, ⟨rfl | rfl, wins⟩, _⟩ ⟨odd, high⟩
    · have even := zero.mp wins
      omega
    · have low := (one.mp wins).2
      omega
  · intro h
    by_cases even : (firstByte (rngHash H parentId bet.playerSecret)).toNat % 2 = 0
    · refine ⟨0, ⟨Or.inl rfl, zero.mpr even⟩, ?_⟩
      rintro choice ⟨rfl | rfl, wins⟩
      · rfl
      · have odd := (one.mp wins).1
        omega
    · refine ⟨1, ⟨Or.inr rfl, one.mpr (by omega)⟩, ?_⟩
      rintro choice ⟨rfl | rfl, wins⟩
      · exact absurd (zero.mp wins) even
      · rfl

/-- A hash whose first byte is 0xff leaves both choices losing. -/
theorem neither_choice_wins :
    ¬ ∀ (H : Blake2b) (bet : Bet Unit) (parentId : Bytes),
      ∃! choice : Int32, (choice = 0 ∨ choice = 1) ∧
        ({ bet with playerChoice := choice } : Bet Unit).playerWins H parentId = true := by
  intro h
  obtain ⟨choice, ⟨hchoice, wins⟩, _⟩ :=
    h ⟨fun n _ => Vector.replicate n 0xff⟩ ⟨(), (), [], 0, 0, []⟩ []
  rcases hchoice with rfl | rfl
  · exact absurd ((playerWins_zero_iff _ _ _).mp wins) (by decide)
  · exact absurd ((playerWins_one_iff _ _ _).mp wins) (by decide)

end DuckPools.CoinflipV2
