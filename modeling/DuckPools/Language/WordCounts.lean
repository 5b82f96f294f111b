import Mathlib.Algebra.BigOperators.Ring.Finset
import Mathlib.Algebra.Group.Action.Defs
import Mathlib.Algebra.Order.BigOperators.Group.Finset
import Mathlib.Data.Fintype.BigOperators
import Mathlib.Data.Fintype.Vector
import Mathlib.Data.Nat.Choose.Basic
import Mathlib.Tactic.Ring

/-!
# Counting words over a finite alphabet

How many words of a length have a property, by the first letter. Two scans are counted:
the first letter that is accepted, and the number of letters of a kind among the first ones.
-/

namespace DuckPools.Words

variable {α β : Type} [Fintype α]

/-- The number of words of length `n` with the property. -/
def count (n : Nat) (P : List α → Prop) [DecidablePred P] : Nat :=
  Fintype.card {w : List.Vector α n // P w.toList}

/-- A word that is not empty is its first letter and the rest. -/
def consEquiv (n : Nat) (P : List α → Prop) :
    {w : List.Vector α (n + 1) // P w.toList} ≃
      Σ a : α, {w : List.Vector α n // P (a :: w.toList)} where
  toFun w := ⟨w.1.head, w.1.tail, by
    rw [← List.Vector.toList_cons, List.Vector.cons_head_tail]
    exact w.2⟩
  invFun w := ⟨w.1 ::ᵥ w.2.1, by
    rw [List.Vector.toList_cons]
    exact w.2.2⟩
  left_inv w := Subtype.ext (List.Vector.cons_head_tail w.1)
  right_inv _ := rfl

section Rules

variable (P Q : List α → Prop) [DecidablePred P] [DecidablePred Q]

theorem count_zero : count 0 P = if P [] then 1 else 0 := by
  have only (w : List.Vector α 0) : w.toList = [] := by rw [List.Vector.eq_nil w]; rfl
  split
  · rename_i h
    exact Fintype.card_eq_one_iff.mpr ⟨⟨List.Vector.nil, h⟩,
      fun w => Subtype.ext (List.Vector.eq_nil w.1)⟩
  · rename_i h
    exact Fintype.card_eq_zero_iff.mpr ⟨fun w => h (only w.1 ▸ w.2)⟩

theorem count_succ (n : Nat) : count (n + 1) P = ∑ a : α, count n fun w => P (a :: w) := by
  rw [count, Fintype.card_congr (consEquiv n P), Fintype.card_sigma]
  rfl

variable {P Q}

theorem count_congr {n : Nat} (h : ∀ w : List α, w.length = n → (P w ↔ Q w)) :
    count n P = count n Q :=
  Fintype.card_congr (Equiv.subtypeEquivRight fun w => h w.toList w.toList_length)

theorem count_of_forall_not {n : Nat} (h : ∀ w : List α, ¬ P w) : count n P = 0 :=
  Fintype.card_eq_zero_iff.mpr ⟨fun w => h _ w.2⟩

theorem count_true (n : Nat) : (count n fun _ : List α => True) = Fintype.card α ^ n := by
  rw [count, Fintype.card_congr (Equiv.subtypeUnivEquiv fun _ => trivial), card_vector]

end Rules

/-- A sum over the words, by a value of theirs. -/
theorem sum_by_value {M : Type} [AddCommMonoid M] {g : List α → Nat} {n r : Nat}
    (bound : ∀ w : List α, w.length = n → g w ≤ r) (f : Nat → M) :
    ∑ w : List.Vector α n, f (g w.toList) =
      ∑ k ∈ Finset.range (r + 1), (count n fun w => g w = k) • f k := by
  have inside : ∀ w ∈ (Finset.univ : Finset (List.Vector α n)),
      g w.toList ∈ Finset.range (r + 1) := fun w _ =>
    Finset.mem_range.mpr (Nat.lt_succ_iff.mpr (bound w.toList w.toList_length))
  rw [← Finset.sum_fiberwise_of_maps_to inside]
  apply Finset.sum_congr rfl
  intro k _
  rw [count, Fintype.card_subtype, ← Finset.sum_const]
  apply Finset.sum_congr rfl
  intro w member
  rw [(Finset.mem_filter.mp member).2]

/-- Words with a value among the first ones, value by value. -/
theorem count_lt {P : List α → Prop} [DecidablePred P] (f : List α → Nat) (n t : Nat) :
    (count n fun w => P w ∧ f w < t) = ∑ i ∈ Finset.range t, count n fun w => P w ∧ f w = i := by
  induction t with
  | zero => exact count_of_forall_not fun w h => Nat.not_lt_zero _ h.2
  | succ t ih =>
      rw [Finset.sum_range_succ, ← ih]
      have split : (count n fun w => P w ∧ f w < t + 1) =
          count n fun w => (P w ∧ f w < t) ∨ (P w ∧ f w = t) := by
        apply count_congr
        intro w _
        rw [← and_or_left, Nat.lt_succ_iff_lt_or_eq]
      have disjoint : Disjoint (fun w : List.Vector α n => P w.toList ∧ f w.toList < t)
          (fun w : List.Vector α n => P w.toList ∧ f w.toList = t) := by
        apply Pi.disjoint_iff.mpr
        intro w
        rw [Prop.disjoint_iff]
        rintro ⟨⟨-, below⟩, -, at_t⟩
        omega
      rw [split]
      exact Fintype.card_subtype_or_disjoint _ _ disjoint

section Rejection

variable [DecidableEq β] (f : α → Option β)

/-- Letters that are rejected. -/
def rejected : Nat := Fintype.card {a : α // f a = none}

/-- Letters accepted with the value `b`. -/
def accepted (b : β) : Nat := Fintype.card {a : α // f a = some b}

/-- The first accepted letter has the value `b`: it is the first letter, or the first
letter is rejected. -/
theorem count_findSome_succ (n : Nat) (b : β) :
    (count (n + 1) fun w => w.findSome? f = some b) =
      rejected f * (count n fun w => w.findSome? f = some b) +
        accepted f b * Fintype.card α ^ n := by
  have letter (a : α) : (count n fun w => (a :: w).findSome? f = some b) =
      (if f a = none then count n fun w => w.findSome? f = some b else 0) +
        if f a = some b then Fintype.card α ^ n else 0 := by
    cases hfa : f a with
    | none =>
        rw [if_pos rfl, if_neg (by simp), Nat.add_zero]
        apply count_congr
        intro w _
        rw [List.findSome?_cons, hfa]
    | some c =>
        rw [if_neg (by simp), Nat.zero_add]
        split
        · rename_i same
          rw [← count_true n]
          apply count_congr
          intro w _
          rw [List.findSome?_cons, hfa]
          exact ⟨fun _ => trivial, fun _ => same⟩
        · rename_i other
          apply count_of_forall_not
          intro w
          rw [List.findSome?_cons, hfa]
          exact other
  rw [count_succ, Finset.sum_congr rfl fun a _ => letter a, Finset.sum_add_distrib,
    ← Finset.sum_filter, ← Finset.sum_filter, Finset.sum_const, Finset.sum_const, smul_eq_mul,
    smul_eq_mul, rejected, accepted, Fintype.card_subtype, Fintype.card_subtype]

/-- Rejection does not disturb the shares: values with equally many letters are found in
equally many words. -/
theorem count_findSome_eq {b c : β} (h : accepted f b = accepted f c) (n : Nat) :
    (count n fun w => w.findSome? f = some b) = count n fun w => w.findSome? f = some c := by
  induction n with
  | zero => rw [count_zero, count_zero, if_neg (by simp), if_neg (by simp)]
  | succ n ih => rw [count_findSome_succ, count_findSome_succ, ih, h]

theorem count_findSome_pos {b : β} (h : 0 < accepted f b) {n : Nat} (hn : 0 < n) :
    0 < count n fun w => w.findSome? f = some b := by
  obtain ⟨n, rfl⟩ := Nat.exists_eq_add_one_of_ne_zero hn.ne'
  rw [count_findSome_succ]
  obtain ⟨⟨a, -⟩⟩ := Fintype.card_pos_iff.mp h
  exact Nat.add_pos_right _ (Nat.mul_pos h (Nat.pow_pos (Fintype.card_pos_iff.mpr ⟨a⟩)))

end Rejection

section Binomial

variable (p : α → Bool)

/-- Letters of the kind `p`, and the others. -/
def ofKind : Nat := Fintype.card {a : α // p a = true}

def others : Nat := Fintype.card {a : α // p a = false}

/-- A sum that depends on the kind of the letter only. -/
theorem sum_kind (x y : Nat) :
    (∑ a : α, if p a then x else y) = ofKind p * x + others p * y := by
  rw [Finset.sum_ite, Finset.sum_const, Finset.sum_const, smul_eq_mul, smul_eq_mul, ofKind, others,
    Fintype.card_subtype, Fintype.card_subtype]
  simp only [Bool.not_eq_true]

/-- Among the first `r` letters of a word, exactly `k` are of the kind. -/
theorem count_take_countP (r m k : Nat) :
    (count (r + m) fun w : List α => (w.take r).countP p = k) =
      r.choose k * ofKind p ^ k * others p ^ (r - k) * Fintype.card α ^ m := by
  induction r generalizing k with
  | zero =>
      rw [Nat.zero_add, Nat.zero_sub, Nat.pow_zero, Nat.mul_one]
      cases k with
      | zero =>
          rw [Nat.choose_self, Nat.pow_zero, Nat.mul_one, Nat.one_mul, ← count_true]
          exact count_congr fun w _ => ⟨fun _ => trivial, fun _ => rfl⟩
      | succ k =>
          rw [Nat.choose_zero_succ, Nat.zero_mul, Nat.zero_mul]
          exact count_of_forall_not fun w h => Nat.succ_ne_zero k h.symm
  | succ r ih =>
      have letter (a : α) : (count (r + m) fun w => ((a :: w).take (r + 1)).countP p = k) =
          if p a then (count (r + m) fun w => (w.take r).countP p + 1 = k)
          else count (r + m) fun w => (w.take r).countP p = k := by
        split
        · rename_i h
          exact count_congr fun w _ => by rw [List.take_succ_cons, List.countP_cons_of_pos h]
        · rename_i h
          exact count_congr fun w _ => by rw [List.take_succ_cons, List.countP_cons_of_neg h]
      rw [Nat.add_right_comm, count_succ, Finset.sum_congr rfl fun a _ => letter a, sum_kind, ih]
      cases k with
      | zero =>
          rw [count_of_forall_not fun w h => Nat.succ_ne_zero _ h, Nat.choose_zero_right,
            Nat.choose_zero_right, Nat.sub_zero, Nat.sub_zero, Nat.pow_succ]
          ring
      | succ k =>
          have shift : (count (r + m) fun w : List α => (w.take r).countP p + 1 = k + 1) =
              count (r + m) fun w => (w.take r).countP p = k :=
            count_congr fun w _ => Nat.succ_inj
          rw [shift, ih, Nat.choose_succ_succ, Nat.add_sub_add_right]
          by_cases h : k < r
          · obtain ⟨d, rfl⟩ := Nat.exists_eq_add_of_lt h
            rw [show k + d + 1 - (k + 1) = d by omega, show k + d + 1 - k = d + 1 by omega]
            ring
          · rw [Nat.choose_eq_zero_of_lt (show r < k + 1 by omega)]
            ring

end Binomial

end DuckPools.Words
