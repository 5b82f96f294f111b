import Mathlib.Data.List.DropRight
import Mathlib.Data.List.Induction
import Mathlib.Order.Bounds.Basic

/-!
# Runs of equal elements

The elements of a list fall into runs. A run of an element is a block of copies of it, so
its longest run is the greatest block found in the list, and the last run of the list is the
greatest block at its end. Both are followed from the front, one element at a time.
-/

namespace DuckPools.Runs

variable {α : Type} {a b : α} {xs : List α} {k : Nat}

/-- How many copies of `a` the list ends in. -/
def trailing [DecidableEq α] (a : α) (xs : List α) : Nat :=
  (xs.rtakeWhile fun b => decide (b = a)).length

/-- `k` is the length of the longest run of `a`. -/
def Longest (a : α) (xs : List α) (k : Nat) : Prop :=
  IsGreatest {k | List.replicate k a <:+: xs} k

/-- `k` is the length of the longest suffix whose elements are all the same. -/
def LastRun (xs : List α) (k : Nat) : Prop :=
  IsGreatest {k | ∃ s, s <:+ xs ∧ s.length = k ∧ ∀ b ∈ s, ∀ c ∈ s, b = c} k

theorem Longest.nil (a : α) : Longest a [] 0 := by
  refine ⟨List.nil_infix, ?_⟩
  intro k hk
  have length := List.IsInfix.length_le hk
  rw [List.length_replicate] at length
  exact length

theorem Longest.eq_zero_iff (h : Longest a xs k) : k = 0 ↔ a ∉ xs := by
  constructor
  · rintro rfl found
    obtain ⟨front, back, rfl⟩ := List.append_of_mem found
    have single : List.replicate 1 a <:+: front ++ a :: back := ⟨front, back, by simp⟩
    exact absurd (h.2 single) (by decide)
  · intro absent
    by_contra positive
    apply absent
    apply (List.IsInfix.sublist h.1).subset
    exact List.mem_replicate.mpr ⟨positive, rfl⟩

theorem LastRun.nil : LastRun ([] : List α) 0 := by
  constructor
  · exact ⟨[], List.nil_suffix, rfl, fun b hb => absurd hb List.not_mem_nil⟩
  · rintro k ⟨s, suffix, rfl, _⟩
    exact suffix.length_le

variable [DecidableEq α]

@[simp] theorem trailing_nil (a : α) : trailing a [] = 0 := rfl

@[simp] theorem trailing_concat_self (a : α) (xs : List α) :
    trailing a (xs ++ [a]) = trailing a xs + 1 := by
  rw [trailing, List.rtakeWhile_concat, if_pos (decide_eq_true rfl), List.length_append, trailing]
  rfl

theorem trailing_concat_of_ne (h : b ≠ a) : trailing a (xs ++ [b]) = 0 := by
  rw [trailing, List.rtakeWhile_concat, if_neg (by simpa using h), List.length_nil]

theorem replicate_suffix_iff : List.replicate k a <:+ xs ↔ k ≤ trailing a xs := by
  induction xs using List.reverseRecOn generalizing k with
  | nil =>
      rw [List.suffix_nil, List.replicate_eq_nil_iff, trailing_nil]
      exact Nat.le_zero.symm
  | append_singleton xs b ih =>
      cases k with
      | zero => exact iff_of_true (List.nil_suffix) (Nat.zero_le _)
      | succ k =>
          rw [List.replicate_succ', List.suffix_concat_iff]
          by_cases h : b = a
          · subst h
            rw [trailing_concat_self, Nat.succ_le_succ_iff, ← ih]
            constructor
            · rintro (nil | ⟨front, same, suffix⟩)
              · simp at nil
              · rwa [List.append_cancel_right same]
            · intro suffix
              exact Or.inr ⟨_, rfl, suffix⟩
          · rw [trailing_concat_of_ne h]
            apply iff_of_false
            · rintro (nil | ⟨front, same, _⟩)
              · simp at nil
              · exact h (List.singleton_inj.mp (List.append_inj' same rfl).2).symm
            · exact Nat.not_succ_le_zero k

/-- One more element can only lengthen the run that it ends. -/
theorem Longest.concat (h : Longest a xs k) (b : α) :
    Longest a (xs ++ [b]) (max k (trailing a (xs ++ [b]))) := by
  constructor
  · rw [Set.mem_ofPred_eq, List.infix_concat_iff, replicate_suffix_iff]
    cases Nat.le_total k (trailing a (xs ++ [b])) with
    | inl le => exact Or.inl (Nat.max_eq_right le).le
    | inr le =>
        rw [Nat.max_eq_left le]
        exact Or.inr h.1
  · intro j hj
    cases List.infix_concat_iff.mp hj with
    | inl suffix => exact (replicate_suffix_iff.mp suffix).trans (Nat.le_max_right _ _)
    | inr earlier => exact (h.2 earlier).trans (Nat.le_max_left _ _)

theorem Longest.concat_of_ne (h : Longest a xs k) (hb : b ≠ a) : Longest a (xs ++ [b]) k := by
  have next := h.concat b
  rwa [trailing_concat_of_ne hb, Nat.max_zero] at next

/-- The run that `a` is added to was no longer than the longest one. -/
theorem Longest.concat_self (h : Longest a xs k) :
    Longest a (xs ++ [a]) (max k (trailing a xs + 1)) := by
  have next := h.concat a
  rwa [trailing_concat_self] at next

theorem LastRun.concat (a : α) (xs : List α) :
    LastRun (xs ++ [a]) (trailing a (xs ++ [a])) := by
  constructor
  · refine ⟨_, replicate_suffix_iff.mpr le_rfl, List.length_replicate, ?_⟩
    intro b hb c hc
    rw [List.eq_of_mem_replicate hb, List.eq_of_mem_replicate hc]
  · rintro k ⟨s, suffix, rfl, constant⟩
    cases List.suffix_concat_iff.mp suffix with
    | inl nil =>
        rw [nil]
        exact Nat.zero_le _
    | inr parts =>
        obtain ⟨t, rfl, _⟩ := parts
        have last : a ∈ t ++ [a] := List.mem_append_right t List.mem_cons_self
        have copies := List.eq_replicate_of_mem fun b hb => constant b hb a last
        rw [copies] at suffix
        exact replicate_suffix_iff.mp suffix

end DuckPools.Runs
