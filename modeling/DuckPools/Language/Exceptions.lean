import Mathlib.Data.Option.Basic

/-!
# Computations that may throw

A computation returns exactly when each of its steps does. With these equivalences a
successful run of a `do` block is taken apart step by step, and a failed check is put
in front of the rest. What a computation may throw is put together the same way, from
what its steps may throw.
-/

namespace DuckPools.Exceptions

variable {ε α β : Type}

theorem bind_eq_ok_iff {x : Except ε α} {f : α → Except ε β} {b : β} :
    (x >>= f) = .ok b ↔ ∃ a, x = .ok a ∧ f a = .ok b := by
  cases x <;> simp [bind, Except.bind]

theorem ok_bind (a : α) (f : α → Except ε β) : (Except.ok a >>= f) = f a := rfl

theorem throw_bind (e : ε) (f : α → Except ε β) :
    ((throw e : Except ε α) >>= f) = throw e := rfl

theorem pure_eq_ok_iff {a b : α} : (pure a : Except ε α) = .ok b ↔ a = b := by
  simp [pure, Except.pure]

theorem throw_ne_ok (e : ε) (a : α) : (throw e : Except ε α) ≠ .ok a := by
  simp [throw, throwThe, MonadExceptOf.throw]

theorem ite_throw_eq_ok_iff {c : Prop} [Decidable c] {e : ε} {x : Except ε α} {a : α} :
    (if c then throw e else x) = .ok a ↔ ¬ c ∧ x = .ok a := by
  by_cases h : c <;> simp [h, throw_ne_ok]

theorem map_eq_ok_iff {x : Except ε α} {f : α → β} {b : β} :
    x.map f = .ok b ↔ ∃ a, x = .ok a ∧ f a = b := by
  cases x <;> simp [Except.map]

theorem mapError_eq_ok_iff {ε' : Type} {x : Except ε α} {f : ε → ε'} {a : α} :
    x.mapError f = .ok a ↔ x = .ok a := by
  cases x <;> simp [Except.mapError]

/-- A list is mapped if each of its elements is. -/
theorem exists_mapM_eq_ok {f : α → Except ε β} {l : List α} (h : ∀ a ∈ l, ∃ b, f a = .ok b) :
    ∃ bs, l.mapM f = .ok bs := by
  induction l with
  | nil => exact ⟨[], rfl⟩
  | cons a l ih =>
      obtain ⟨b, hb⟩ := h a List.mem_cons_self
      obtain ⟨bs, hbs⟩ := ih fun a' ha' => h a' (List.mem_cons_of_mem a ha')
      refine ⟨b :: bs, ?_⟩
      rw [List.mapM_cons, hb, hbs]
      rfl

/-- If the computation throws, it throws an error of `P`. -/
def ThrowsOnly (P : ε → Prop) (x : Except ε α) : Prop := ∀ e, x = .error e → P e

namespace ThrowsOnly

variable {P : ε → Prop}

theorem ok (a : α) : ThrowsOnly P (.ok a) := nofun

theorem error {e : ε} (h : P e) : ThrowsOnly P (.error e : Except ε α) := by
  rintro _ ⟨⟩
  exact h

theorem bind {x : Except ε α} {f : α → Except ε β} (hx : ThrowsOnly P x)
    (hf : ∀ a, ThrowsOnly P (f a)) : ThrowsOnly P (x >>= f) := by
  cases x with
  | error e => exact error (hx e rfl)
  | ok a => exact hf a

theorem mapM {f : α → Except ε β} (hf : ∀ a, ThrowsOnly P (f a)) (l : List α) :
    ThrowsOnly P (l.mapM f) := by
  induction l with
  | nil => exact ok []
  | cons a l ih =>
      rw [List.mapM_cons]
      apply bind (hf a)
      intro b
      apply bind ih
      intro bs
      exact ok (b :: bs)

theorem optionMapM {f : α → Except ε β} (hf : ∀ a, ThrowsOnly P (f a)) (o : Option α) :
    ThrowsOnly P (o.mapM f) := by
  cases o with
  | none => exact ok none
  | some a =>
      apply bind (hf a)
      intro b
      exact ok (some b)

end ThrowsOnly

end DuckPools.Exceptions
