import Mathlib.Data.List.Basic
import Mathlib.Algebra.Ring.Int.Defs

/-!
# Prefix notation with an optional operand

Trees of leaves, optional values and pairs, in prefix notation: an option is a mark,
followed by its value if it has one. The mark does not say whether it has one and
nothing marks the end of a value, so one word can spell several trees.

`Unambiguous` is the exact condition: if the left component of a pair has an empty option, then
neither component has a full one. If a tree has both, an empty option in front of
another value can absorb that value, or a full one can let go of its own. If it has
not, the boundaries of the components are fixed: a tree without empty options closes its
word at the first place where leaves outnumber pairs (`balance`), and a tree without
full options is spelled by no tree that has one.
-/

namespace DuckPools

inductive OptionTree (α : Type) where
  | leaf (a : α)
  | none
  | some (t : OptionTree α)
  | pair (l r : OptionTree α)

namespace OptionTree

inductive Token (α : Type) where
  | leaf (a : α)
  | option
  | pair

variable {α β : Type}

def tokens : OptionTree α → List (Token α)
  | leaf a => [.leaf a]
  | none => [.option]
  | some t => .option :: t.tokens
  | pair l r => .pair :: (l.tokens ++ r.tokens)

/-- The number of empty options. -/
def nones : OptionTree α → Nat
  | leaf _ => 0
  | none => 1
  | some t => t.nones
  | pair l r => l.nones + r.nones

/-- The number of full options. -/
def somes : OptionTree α → Nat
  | leaf _ => 0
  | none => 0
  | some t => t.somes + 1
  | pair l r => l.somes + r.somes

/-- No pair has an empty option on its left together with a full one on either side. -/
def Unambiguous : OptionTree α → Prop
  | leaf _ => True
  | none => True
  | some t => t.Unambiguous
  | pair l r => (0 < l.nones → l.somes = 0 ∧ r.somes = 0) ∧ r.Unambiguous

def map (f : α → β) : OptionTree α → OptionTree β
  | leaf a => leaf (f a)
  | none => none
  | some t => some (t.map f)
  | pair l r => pair (l.map f) (r.map f)

@[simp] theorem nones_map (f : α → β) (t : OptionTree α) : (t.map f).nones = t.nones := by
  induction t with
  | leaf a => rfl
  | none => rfl
  | some t ih => exact ih
  | pair l r ihl ihr => rw [map, nones, nones, ihl, ihr]

@[simp] theorem somes_map (f : α → β) (t : OptionTree α) : (t.map f).somes = t.somes := by
  induction t with
  | leaf a => rfl
  | none => rfl
  | some t ih => rw [map, somes, somes, ih]
  | pair l r ihl ihr => rw [map, somes, somes, ihl, ihr]

/-- Ambiguity is a matter of shape. -/
@[simp] theorem unambiguous_map (f : α → β) (t : OptionTree α) :
    (t.map f).Unambiguous ↔ t.Unambiguous := by
  induction t with
  | leaf a => exact Iff.rfl
  | none => exact Iff.rfl
  | some t ih => exact ih
  | pair l r ihl ihr => rw [map, Unambiguous, Unambiguous, nones_map, somes_map, somes_map, ihr]

theorem tokens_ne_nil (t : OptionTree α) : t.tokens ≠ [] := by
  cases t <;> simp [tokens]

section Uniform

/-- Where an option is known to be empty, or known to be full, the word is read in one
way only. -/
theorem tokens_append_inj {s t : OptionTree α} {a b : List (Token α)}
    (huniform : (s.nones = 0 ∧ t.nones = 0) ∨ (s.somes = 0 ∧ t.somes = 0))
    (h : s.tokens ++ a = t.tokens ++ b) : s = t ∧ a = b := by
  induction s generalizing t a b with
  | leaf x =>
      cases t with
      | leaf y =>
          obtain ⟨hhead, htail⟩ := List.cons.inj h
          exact ⟨congrArg leaf (Token.leaf.inj hhead), htail⟩
      | none => simp [tokens] at h
      | some t => simp [tokens] at h
      | pair l r => simp [tokens] at h
  | none =>
      cases t with
      | leaf y => simp [tokens] at h
      | none => exact ⟨rfl, (List.cons.inj h).2⟩
      | some t =>
          simp only [nones, somes] at huniform
          omega
      | pair l r => simp [tokens] at h
  | some s ih =>
      cases t with
      | leaf y => simp [tokens] at h
      | none =>
          simp only [nones, somes] at huniform
          omega
      | some t =>
          simp only [nones, somes] at huniform
          obtain ⟨rfl, htail⟩ := ih (by omega) (List.cons.inj h).2
          exact ⟨rfl, htail⟩
      | pair l r => simp [tokens] at h
  | pair l r ihl ihr =>
      cases t with
      | leaf y => simp [tokens] at h
      | none => simp [tokens] at h
      | some t => simp [tokens] at h
      | pair l' r' =>
          simp only [nones, somes] at huniform
          have htail : (l.tokens ++ r.tokens) ++ a = (l'.tokens ++ r'.tokens) ++ b :=
            (List.cons.inj h).2
          rw [List.append_assoc, List.append_assoc] at htail
          obtain ⟨rfl, hright⟩ := ihl (by omega) htail
          obtain ⟨rfl, hrest⟩ := ihr (by omega) hright
          exact ⟨rfl, hrest⟩

theorem tokens_inj_of_uniform {s t : OptionTree α}
    (huniform : (s.nones = 0 ∧ t.nones = 0) ∨ (s.somes = 0 ∧ t.somes = 0))
    (h : s.tokens = t.tokens) : s = t :=
  (tokens_append_inj (a := []) (b := []) huniform (by rw [h])).1

end Uniform

section Counting

/-- Leaves minus pairs. -/
def balance : List (Token α) → Int
  | [] => 0
  | .leaf _ :: ts => balance ts + 1
  | .option :: ts => balance ts
  | .pair :: ts => balance ts - 1

def options : List (Token α) → Nat
  | [] => 0
  | .option :: ts => options ts + 1
  | _ :: ts => options ts

theorem balance_append (xs ys : List (Token α)) :
    balance (xs ++ ys) = balance xs + balance ys := by
  induction xs with
  | nil => simp [balance]
  | cons x xs ih =>
      cases x <;> simp only [List.cons_append, balance, ih] <;> omega

theorem options_append (xs ys : List (Token α)) :
    options (xs ++ ys) = options xs + options ys := by
  induction xs with
  | nil => simp [options]
  | cons x xs ih =>
      cases x <;> simp only [List.cons_append, options, ih]
      omega

/-- An empty option is a leaf that is not counted. -/
theorem balance_tokens (t : OptionTree α) : balance t.tokens = 1 - t.nones := by
  induction t with
  | leaf a => rfl
  | none => rfl
  | some t ih => exact ih
  | pair l r ihl ihr =>
      simp only [tokens, balance, balance_append, ihl, ihr, nones]
      omega

theorem options_tokens (t : OptionTree α) : options t.tokens = t.nones + t.somes := by
  induction t with
  | leaf a => rfl
  | none => rfl
  | some t ih =>
      simp only [tokens, options, ih, nones, somes]
      omega
  | pair l r ihl ihr =>
      simp only [tokens, options, options_append, ihl, ihr, nones, somes]
      omega

/-- The leaves of an unfinished word do not outnumber its pairs. -/
theorem balance_le_zero {t : OptionTree α} {front back : List (Token α)} (hback : back ≠ [])
    (h : t.tokens = front ++ back) : balance front ≤ 0 := by
  induction t generalizing front back with
  | leaf a =>
      cases front with
      | nil => exact Int.le_refl 0
      | cons x front => simp [tokens, hback] at h
  | none =>
      cases front with
      | nil => exact Int.le_refl 0
      | cons x front => simp [tokens, hback] at h
  | some t ih =>
      cases front with
      | nil => exact Int.le_refl 0
      | cons x front =>
          obtain ⟨rfl, htail⟩ : x = .option ∧ t.tokens = front ++ back := by
            simpa [tokens, eq_comm] using h
          have hbalance : balance front ≤ 0 := ih hback htail
          exact hbalance
  | pair l r ihl ihr =>
      cases front with
      | nil => exact Int.le_refl 0
      | cons x front =>
          obtain ⟨rfl, htail⟩ : x = .pair ∧ l.tokens ++ r.tokens = front ++ back := by
            simpa [tokens, eq_comm] using h
          simp only [balance]
          -- The word ends in the left component, or in the right one.
          cases List.append_eq_append_iff.mp htail with
          | inl hright =>
              obtain ⟨q, rfl, hq⟩ := hright
              have hbalance := ihr hback hq
              rw [balance_append, balance_tokens]
              omega
          | inr hleft =>
              obtain ⟨q, hq, hback'⟩ := hleft
              cases q with
              | nil =>
                  rw [List.append_nil] at hq
                  rw [← hq, balance_tokens]
                  omega
              | cons y q =>
                  have hbalance := ihl (List.cons_ne_nil y q) hq
                  omega

theorem nones_eq_of_tokens_eq {s t : OptionTree α} (h : s.tokens = t.tokens) :
    s.nones = t.nones := by
  have hbalance := congrArg balance h
  rw [balance_tokens, balance_tokens] at hbalance
  omega

theorem somes_eq_of_tokens_eq {s t : OptionTree α} (h : s.tokens = t.tokens) :
    s.somes = t.somes := by
  have hoptions := congrArg options h
  rw [options_tokens, options_tokens, nones_eq_of_tokens_eq h] at hoptions
  omega

end Counting

section Unique

/-- A left component without empty options has one end. -/
theorem left_tokens_eq {l r l' r' : OptionTree α} (hl : l.nones = 0)
    (h : l'.tokens ++ r'.tokens = l.tokens ++ r.tokens) : l'.tokens = l.tokens := by
  have full : balance l.tokens = 1 := by
    rw [balance_tokens, hl]
    rfl
  cases List.append_eq_append_iff.mp h with
  | inl hshort =>
      obtain ⟨q, hq, hr'⟩ := hshort
      cases q with
      | nil => rw [hq, List.append_nil]
      | cons y q =>
          -- What `l'` leaves over is unfinished in `r'`, so `l'` has no empty option either.
          have hrest : balance (y :: q) ≤ 0 := balance_le_zero (tokens_ne_nil r) hr'
          have hshort : balance l'.tokens ≤ 0 := balance_le_zero (List.cons_ne_nil y q) hq
          rw [hq, balance_append] at full
          rw [balance_tokens] at full hshort
          omega
  | inr hlong =>
      obtain ⟨q, hq, _⟩ := hlong
      cases q with
      | nil => rw [hq, List.append_nil]
      | cons y q =>
          have hopen : balance l.tokens ≤ 0 := balance_le_zero (List.cons_ne_nil y q) hq
          omega

theorem eq_of_unambiguous {s t : OptionTree α} (ht : t.Unambiguous) (h : s.tokens = t.tokens) :
    s = t := by
  induction t generalizing s with
  | leaf a =>
      cases s with
      | leaf b => simpa [tokens] using h
      | none => simp [tokens] at h
      | some s => simp [tokens] at h
      | pair l r => simp [tokens] at h
  | none =>
      cases s with
      | leaf b => simp [tokens] at h
      | none => rfl
      | some s => simp [tokens, tokens_ne_nil s] at h
      | pair l r => simp [tokens] at h
  | some t ih =>
      cases s with
      | leaf b => simp [tokens] at h
      | none => exact absurd (List.cons.inj h).2.symm (tokens_ne_nil t)
      | some s => rw [ih ht (List.cons.inj h).2]
      | pair l r => simp [tokens] at h
  | pair l r _ ihr =>
      obtain ⟨hpair, hr⟩ := ht
      cases s with
      | leaf b => simp [tokens] at h
      | none => simp [tokens] at h
      | some s => simp [tokens] at h
      | pair l' r' =>
          by_cases hl : l.nones = 0
          · have htail := (List.cons.inj h).2
            have hleft := left_tokens_eq hl htail
            rw [hleft] at htail
            have hnones := nones_eq_of_tokens_eq hleft
            rw [tokens_inj_of_uniform (Or.inl ⟨by omega, hl⟩) hleft,
              ihr hr (List.append_cancel_left htail)]
          · obtain ⟨hsomesl, hsomesr⟩ := hpair (by omega)
            have hsomes := somes_eq_of_tokens_eq h
            have hnone : (pair l r).somes = 0 := by
              rw [somes]
              omega
            exact tokens_inj_of_uniform (Or.inr ⟨by omega, hnone⟩) h

end Unique

section Ambiguous

/-- An empty option takes the value that follows. -/
theorem exists_absorb {x : OptionTree α} (h : 0 < x.nones) (m : OptionTree α) :
    ∃ t : OptionTree α, t.tokens = x.tokens ++ m.tokens := by
  induction x generalizing m with
  | leaf a => exact absurd h (Nat.lt_irrefl 0)
  | none => exact ⟨some m, rfl⟩
  | some x ih =>
      obtain ⟨t, ht⟩ := ih h m
      exact ⟨some t, by rw [tokens, tokens, ht, List.cons_append]⟩
  | pair a b iha ihb =>
      by_cases hb : 0 < b.nones
      · obtain ⟨t, ht⟩ := ihb hb m
        exact ⟨pair a t, by rw [tokens, tokens, ht, List.cons_append, List.append_assoc]⟩
      · simp only [nones] at h
        obtain ⟨t, ht⟩ := iha (by omega) b
        exact ⟨pair t m, by rw [tokens, tokens, ht, List.cons_append]⟩

/-- A full option lets go of its value, and the word becomes that of two trees. -/
theorem exists_split {b : OptionTree α} (h : 0 < b.somes) :
    ∃ b₁ b₂ : OptionTree α, b.tokens = b₁.tokens ++ b₂.tokens := by
  induction b with
  | leaf a => exact absurd h (Nat.lt_irrefl 0)
  | none => exact absurd h (Nat.lt_irrefl 0)
  | some b _ => exact ⟨none, b, rfl⟩
  | pair a c iha ihc =>
      by_cases ha : 0 < a.somes
      · obtain ⟨a₁, a₂, hsplit⟩ := iha ha
        exact ⟨pair a₁ a₂, c, by rw [tokens, tokens, hsplit, List.cons_append]⟩
      · simp only [somes] at h
        obtain ⟨c₁, c₂, hsplit⟩ := ihc (by omega)
        exact ⟨pair a c₁, c₂, by rw [tokens, tokens, hsplit, List.cons_append, List.append_assoc]⟩

theorem ne_of_append {s t m : OptionTree α} (h : s.tokens = t.tokens ++ m.tokens) : s ≠ t := by
  rintro rfl
  exact tokens_ne_nil m (List.self_eq_append_right.mp h)

/-- With both kinds of options, the boundary behind `l` can be moved or its inside reread. -/
theorem exists_resplit {l : OptionTree α} (hnone : 0 < l.nones) (hsome : 0 < l.somes)
    (m : OptionTree α) :
    ∃ l' m' : OptionTree α, l' ≠ l ∧ l'.tokens ++ m'.tokens = l.tokens ++ m.tokens := by
  induction l generalizing m with
  | leaf a => exact absurd hnone (Nat.lt_irrefl 0)
  | none => exact absurd hsome (Nat.lt_irrefl 0)
  | some y _ =>
      obtain ⟨t, ht⟩ := exists_absorb (x := y) hnone m
      refine ⟨none, t, nofun, ?_⟩
      rw [ht]
      rfl
  | pair a b iha ihb =>
      simp only [nones, somes] at hnone hsome
      by_cases hb : 0 < b.nones
      · by_cases hbsome : 0 < b.somes
        · obtain ⟨b', m', hne, heq⟩ := ihb hb hbsome m
          refine ⟨pair a b', m', fun h => hne (pair.inj h).2, ?_⟩
          rw [tokens, tokens, List.cons_append, List.cons_append, List.append_assoc,
            List.append_assoc, heq]
        · obtain ⟨a₁, a₂, hsplit⟩ := exists_split (b := a) (by omega)
          obtain ⟨t, ht⟩ := exists_absorb hb m
          refine ⟨pair a₁ a₂, t, fun h => ne_of_append hsplit (pair.inj h).1.symm, ?_⟩
          rw [tokens, tokens, ht, hsplit, List.cons_append, List.cons_append, List.append_assoc,
            List.append_assoc, List.append_assoc]
      · by_cases hasome : 0 < a.somes
        · obtain ⟨a', b', hne, heq⟩ := iha (by omega) hasome b
          refine ⟨pair a' b', m, fun h => hne (pair.inj h).1, ?_⟩
          rw [tokens, tokens, heq]
        · obtain ⟨b₁, b₂, hsplit⟩ := exists_split (b := b) (by omega)
          obtain ⟨t, ht⟩ := exists_absorb (x := a) (by omega) b₁
          refine ⟨pair t b₂, m, fun h => ne_of_append ht (pair.inj h).1, ?_⟩
          rw [tokens, tokens, ht, hsplit, List.append_assoc]

theorem exists_ne_of_not_unambiguous {t : OptionTree α} (h : ¬ t.Unambiguous) :
    ∃ s : OptionTree α, s ≠ t ∧ s.tokens = t.tokens := by
  induction t with
  | leaf a => exact absurd trivial h
  | none => exact absurd trivial h
  | some t ih =>
      obtain ⟨s, hne, heq⟩ := ih h
      exact ⟨some s, fun he => hne (some.inj he), by rw [tokens, tokens, heq]⟩
  | pair l r _ ihr =>
      by_cases hr : r.Unambiguous
      · have hpair : 0 < l.nones ∧ (0 < l.somes ∨ 0 < r.somes) := by
          simp only [Unambiguous, hr, and_true] at h
          omega
        obtain ⟨hnone, hsome⟩ := hpair
        cases hsome with
        | inl hsome =>
            obtain ⟨l', r', hne, heq⟩ := exists_resplit hnone hsome r
            exact ⟨pair l' r', fun he => hne (pair.inj he).1, by rw [tokens, tokens, heq]⟩
        | inr hsome =>
            obtain ⟨r₁, r₂, hsplit⟩ := exists_split hsome
            obtain ⟨t, ht⟩ := exists_absorb hnone r₁
            refine ⟨pair t r₂, fun he => ne_of_append ht (pair.inj he).1, ?_⟩
            rw [tokens, tokens, ht, hsplit, List.append_assoc]
      · obtain ⟨r', hne, heq⟩ := ihr hr
        exact ⟨pair l r', fun he => hne (pair.inj he).2, by rw [tokens, tokens, heq]⟩

end Ambiguous

/-- A word spells one tree exactly when that tree is unambiguous. -/
theorem unique_iff_unambiguous (t : OptionTree α) :
    (∀ s : OptionTree α, s.tokens = t.tokens → s = t) ↔ t.Unambiguous := by
  constructor
  · intro hunique
    by_contra h
    obtain ⟨s, hne, heq⟩ := exists_ne_of_not_unambiguous h
    exact hne (hunique s heq)
  · intro ht s h
    exact eq_of_unambiguous ht h

end OptionTree
end DuckPools
