import Mathlib.Logic.Function.Iterate

/-!
# While loops

A loop is its guard and its body, as functions of the variables that the body changes. That
a loop ends is part of what is stated of it: `Ends` names the number of rounds.
-/

namespace DuckPools

structure Loop (σ : Type*) where
  guard : σ → Bool
  body : σ → σ

namespace Loop

variable {σ : Type*} {loop : Loop σ} {Post : σ → Prop}

/-- The loop ends, and what it leaves behind satisfies `Post`. -/
def Ends (loop : Loop σ) (Post : σ → Prop) (s : σ) : Prop :=
  ∃ rounds, (∀ i < rounds, loop.guard (loop.body^[i] s) = true) ∧
    loop.guard (loop.body^[rounds] s) = false ∧ Post (loop.body^[rounds] s)

theorem ends_of_done {s : σ} (done : loop.guard s = false) (post : Post s) : loop.Ends Post s :=
  ⟨0, fun i h => absurd h (Nat.not_lt_zero i), done, post⟩

theorem ends_of_round {s : σ} (more : loop.guard s = true) (rest : loop.Ends Post (loop.body s)) :
    loop.Ends Post s := by
  obtain ⟨rounds, running, done, post⟩ := rest
  refine ⟨rounds + 1, ?_, done, post⟩
  intro i hi
  cases i with
  | zero => exact more
  | succ i => exact running i (Nat.lt_of_succ_lt_succ hi)

/-- An invariant that holds at the end gives `Post`, and the loop ends because `variant` falls. -/
theorem ends_of_invariant (Inv : σ → Prop) (variant : σ → Nat)
    (kept : ∀ s, Inv s → loop.guard s = true →
      Inv (loop.body s) ∧ variant (loop.body s) < variant s)
    (post : ∀ s, Inv s → loop.guard s = false → Post s) {s : σ} (start : Inv s) :
    loop.Ends Post s := by
  induction h : variant s using Nat.strongRecOn generalizing s with
  | ind k ih =>
      cases running : loop.guard s with
      | false => exact ends_of_done running (post s start running)
      | true =>
          obtain ⟨next, falls⟩ := kept s start running
          exact ends_of_round running (ih _ (h ▸ falls) next rfl)

end Loop
end DuckPools
