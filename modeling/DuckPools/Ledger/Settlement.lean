import Mathlib.Algebra.Order.BigOperators.Group.List
import Mathlib.Tactic.Linarith

/-!
# Claims and the outputs that settle them

A `Payment` is an amount together with its payee. The same type describes what a
transaction pays and what is owed to somebody, so "every claim is settled" is one
comparison per payee (`Covers`).

The second half treats claims that are checked one at a time against a single
shared output. Such checks bound the output by the largest claim (`peak`), while
settling the claims needs their sum (`total`). The two agree only when at most one
claim is positive, which is the arithmetic behind double satisfaction.
-/

namespace DuckPools

structure Payment (Payee : Type*) where
  payee : Payee
  amount : Nat

namespace Payment

variable {Payee : Type*}

/-- The sum of all amounts, whoever receives them. -/
def total (ps : List (Payment Payee)) : Nat := (ps.map amount).sum

/-- The largest single amount. -/
def peak : List (Payment Payee) → Nat
  | [] => 0
  | p :: ps => max p.amount (peak ps)

/-- The sum of the amounts going to `payee`. -/
def dueTo [DecidableEq Payee] (ps : List (Payment Payee)) (payee : Payee) : Nat :=
  total (ps.filter (fun p => p.payee = payee))

/-- Every payee receives at least what is claimed for it. -/
def Covers [DecidableEq Payee] (paid claims : List (Payment Payee)) : Prop :=
  ∀ payee, dueTo claims payee ≤ dueTo paid payee

@[simp] theorem total_nil : total ([] : List (Payment Payee)) = 0 := rfl

@[simp] theorem total_cons (p : Payment Payee) (ps : List (Payment Payee)) :
    total (p :: ps) = p.amount + total ps := by
  simp [total]

@[simp] theorem total_append (ps qs : List (Payment Payee)) :
    total (ps ++ qs) = total ps + total qs := by
  rw [total, List.map_append, List.sum_append]
  rfl

theorem amount_le_peak {p : Payment Payee} {ps : List (Payment Payee)} (h : p ∈ ps) :
    p.amount ≤ peak ps := by
  induction ps with
  | nil => cases h
  | cons q ps ih =>
      rcases List.mem_cons.mp h with rfl | h
      · exact Nat.le_max_left _ _
      · exact Nat.le_trans (ih h) (Nat.le_max_right _ _)

theorem peak_le_iff {ps : List (Payment Payee)} {bound : Nat} :
    peak ps ≤ bound ↔ ∀ p ∈ ps, p.amount ≤ bound := by
  induction ps with
  | nil => simp [peak]
  | cons q ps ih => simp [peak, ih]

/-- The peak is attained, so it inherits every property of the amounts. -/
theorem exists_amount_eq_peak {ps : List (Payment Payee)} (h : ps ≠ []) :
    ∃ p ∈ ps, p.amount = peak ps := by
  induction ps with
  | nil => exact absurd rfl h
  | cons q ps ih =>
      by_cases hps : ps = []
      · subst hps
        exact ⟨q, List.mem_cons_self, by simp [peak]⟩
      · obtain ⟨p, hp, hpeak⟩ := ih hps
        cases Nat.le_total (peak ps) q.amount with
        | inl hle => exact ⟨q, List.mem_cons_self, (Nat.max_eq_left hle).symm⟩
        | inr hle =>
            refine ⟨p, List.mem_cons_of_mem q hp, ?_⟩
            rw [hpeak, peak, Nat.max_eq_right hle]

theorem amount_le_total {p : Payment Payee} {ps : List (Payment Payee)} (h : p ∈ ps) :
    p.amount ≤ total ps := by
  apply List.single_le_sum
  · intro n _
    exact Nat.zero_le n
  · exact List.mem_map_of_mem h

theorem peak_le_total (ps : List (Payment Payee)) : peak ps ≤ total ps := by
  apply peak_le_iff.mpr
  intro p hp
  exact amount_le_total hp

/-- With positive amounts the peak settles the sum exactly when there is at most
one claim. -/
theorem total_le_peak_iff {ps : List (Payment Payee)} (pos : ∀ p ∈ ps, 0 < p.amount) :
    total ps ≤ peak ps ↔ ps.length ≤ 1 := by
  match ps with
  | [] => simp [peak]
  | [p] => simp [peak]
  | p :: q :: ps =>
      have hp : 0 < p.amount := pos p (by simp)
      have hq : 0 < q.amount := pos q (by simp)
      have hrest : peak ps ≤ total ps := peak_le_total ps
      simp only [total_cons, peak, List.length_cons]
      omega

section Payees

variable [DecidableEq Payee]

@[simp] theorem dueTo_nil (payee : Payee) : dueTo ([] : List (Payment Payee)) payee = 0 := rfl

theorem dueTo_cons (p : Payment Payee) (ps : List (Payment Payee)) (payee : Payee) :
    dueTo (p :: ps) payee = (if p.payee = payee then p.amount else 0) + dueTo ps payee := by
  simp only [dueTo]
  by_cases h : p.payee = payee <;> simp [h]

/-- One output can serve any number of claims checked against it, but is counted once. -/
theorem amount_le_dueTo {p : Payment Payee} {ps : List (Payment Payee)} (h : p ∈ ps) :
    p.amount ≤ dueTo ps p.payee := by
  apply amount_le_total
  exact List.mem_filter.mpr ⟨h, decide_eq_true rfl⟩

theorem dueTo_append (ps qs : List (Payment Payee)) (payee : Payee) :
    dueTo (ps ++ qs) payee = dueTo ps payee + dueTo qs payee := by
  simp [dueTo]

theorem covers_nil (paid : List (Payment Payee)) : Covers paid [] := fun _ => Nat.zero_le _

/-- What covers its claims apart covers them together. -/
theorem Covers.append {paid paid' claims claims' : List (Payment Payee)}
    (h : Covers paid claims) (h' : Covers paid' claims') :
    Covers (paid ++ paid') (claims ++ claims') := by
  intro payee
  rw [dueTo_append, dueTo_append]
  exact Nat.add_le_add (h payee) (h' payee)

theorem dueTo_eq_total {ps : List (Payment Payee)} {payee : Payee}
    (h : ∀ p ∈ ps, p.payee = payee) : dueTo ps payee = total ps := by
  rw [dueTo, List.filter_eq_self.mpr]
  intro p hp
  simpa using h p hp

theorem dueTo_eq_zero {ps : List (Payment Payee)} {payee : Payee}
    (h : ∀ p ∈ ps, p.payee ≠ payee) : dueTo ps payee = 0 := by
  rw [dueTo, List.filter_eq_nil_iff.mpr]
  · rfl
  · intro p hp
    simpa using h p hp

theorem dueTo_le_total (ps : List (Payment Payee)) (payee : Payee) :
    dueTo ps payee ≤ total ps := by
  induction ps with
  | nil => exact Nat.le_refl 0
  | cons p ps ih =>
      rw [dueTo_cons, total_cons]
      split <;> omega

/-- Claims of one payee are covered by an output to that payee worth their sum. -/
theorem covers_of_total_le {paid claims : List (Payment Payee)} {out : Payment Payee}
    (mem : out ∈ paid) (payees : ∀ c ∈ claims, c.payee = out.payee)
    (le : total claims ≤ out.amount) : Covers paid claims := by
  intro payee
  by_cases h : payee = out.payee
  · subst h
    rw [dueTo_eq_total payees]
    exact Nat.le_trans le (amount_le_dueTo mem)
  · rw [dueTo_eq_zero]
    · exact Nat.zero_le _
    · intro c hc he
      exact h (he.symm.trans (payees c hc))

/-- Where the shared output alone goes to its payee, coverage is a bound on the sum. -/
theorem total_le_of_covers_cons {others claims : List (Payment Payee)} {out : Payment Payee}
    (payees : ∀ c ∈ claims, c.payee = out.payee) (apart : ∀ p ∈ others, p.payee ≠ out.payee)
    (covers : Covers (out :: others) claims) : total claims ≤ out.amount := by
  have h := covers out.payee
  rw [dueTo_eq_total payees, dueTo_cons, if_pos rfl, dueTo_eq_zero apart] at h
  exact h

end Payees
end Payment
end DuckPools
