import Mathlib.Algebra.Order.Ring.Basic
import Mathlib.Logic.Relation
import Mathlib.Tactic.Ring
import Mathlib.Tactic.Linarith

/-!
# Value per share of a common fund

A fund is a value and a number of shares. `NotDiluted a b` compares the value per
share of two funds without dividing, so it is meaningful over any ordered commutative
semiring and for rounded integer amounts alike. Positive supplies make it transitive,
which carries it from the steps of a run to its ends.

For natural numbers the comparison of one step is the floor of the proportional
amount: minting is fair up to `d * S / V` shares, paying out up to `b * V / S`.
-/

namespace DuckPools

structure Backing (α : Type*) where
  value : α
  supply : α

namespace Backing

/-- A share of `b` is worth at least a share of `a`. -/
def NotDiluted {α : Type*} [Mul α] [LE α] (a b : Backing α) : Prop :=
  a.value * b.supply ≤ b.value * a.supply

section Order

variable {α : Type*} [CommSemiring α] [LinearOrder α] [IsStrictOrderedRing α]

theorem NotDiluted.trans {a b c : Backing α} (ha : 0 ≤ a.supply) (hb : 0 < b.supply)
    (hc : 0 ≤ c.supply) (hab : NotDiluted a b) (hbc : NotDiluted b c) : NotDiluted a c := by
  refine le_of_mul_le_mul_right ?_ hb
  calc a.value * c.supply * b.supply
      = a.value * b.supply * c.supply := by ring
    _ ≤ b.value * a.supply * c.supply := mul_le_mul_of_nonneg_right hab hc
    _ = b.value * c.supply * a.supply := by ring
    _ ≤ c.value * b.supply * a.supply := mul_le_mul_of_nonneg_right hbc ha
    _ = c.value * a.supply * b.supply := by ring

/-- A run whose steps do not dilute does not dilute. -/
theorem NotDiluted.of_run {σ : Type*} {step : σ → σ → Prop} {backing : σ → Backing α}
    (pos : ∀ s, 0 < (backing s).supply)
    (each : ∀ s t, step s t → NotDiluted (backing s) (backing t)) {s t : σ}
    (run : Relation.ReflTransGen step s t) : NotDiluted (backing s) (backing t) := by
  induction run with
  | refl => exact le_refl _
  | tail _ last ih => exact ih.trans (pos _).le (pos _) (pos _).le (each _ _ last)

end Order

/-- Minting `m` shares for `d` of value keeps the value per share exactly up to the
proportional number of shares, rounded down. -/
theorem notDiluted_mint_iff {V S d m : Nat} (hV : 0 < V) :
    NotDiluted ⟨V, S⟩ ⟨V + d, S + m⟩ ↔ m ≤ d * S / V := by
  rw [Nat.le_div_iff_mul_le hV, NotDiluted]
  show V * (S + m) ≤ (V + d) * S ↔ m * V ≤ d * S
  rw [Nat.mul_add, Nat.add_mul, Nat.mul_comm m V, Nat.add_le_add_iff_left]

/-- Burning `b` shares for a payment of `w` keeps the value per share exactly up to
the proportional payment, rounded down. -/
theorem notDiluted_burn_iff {V S w b : Nat} (hS : 0 < S) (hw : w ≤ V) (hb : b ≤ S) :
    NotDiluted ⟨V, S⟩ ⟨V - w, S - b⟩ ↔ w ≤ b * V / S := by
  rw [Nat.le_div_iff_mul_le hS, NotDiluted]
  show V * (S - b) ≤ (V - w) * S ↔ w * S ≤ b * V
  obtain ⟨v, rfl⟩ := Nat.exists_eq_add_of_le hw
  obtain ⟨s, rfl⟩ := Nat.exists_eq_add_of_le hb
  rw [Nat.add_sub_cancel_left, Nat.add_sub_cancel_left, Nat.add_mul w v s, Nat.mul_add v b s,
    Nat.mul_add w b s, Nat.mul_add b w v, Nat.mul_comm b w, Nat.mul_comm b v]
  omega

end Backing
end DuckPools
