import Mathlib.Data.List.Basic

/-!
# Readers of words

A reader takes one value off the front of a word and leaves the remainder, or rejects the
word. `Reads p code x` says that `p` takes `x` off every word that starts with `code`. It
composes along the monadic structure of readers, so a reader that follows the shape of its
writer undoes it by one rule for each constructor.

Two codes that one reader reads are never the beginnings of one word: no separate argument is
needed that a format is prefix-free.
-/

namespace DuckPools

/-- Takes a value off the front of a word. -/
abbrev Reader (σ : Type) := StateT (List σ) Option

namespace Reader

variable {σ α β : Type}

def fail : Reader σ α := fun _ => none

/-- The next letter. -/
def next : Reader σ σ
  | [] => none
  | x :: rest => some (x, rest)

/-- The next `n` letters. -/
def take (n : Nat) : Reader σ (List σ) :=
  fun word => if n ≤ word.length then some (word.take n, word.drop n) else none

/-- A value that may be missing. -/
def ofOption : Option α → Reader σ α
  | none => fail
  | some x => pure x

/-- `n` values one after the other. -/
def times (p : Reader σ α) : Nat → Reader σ (List α)
  | 0 => pure []
  | n + 1 => do
      let x ← p
      let xs ← times p n
      return x :: xs

/-- The value of a whole word. -/
def parse (p : Reader σ α) (word : List σ) : Option α :=
  match p word with
  | some (x, []) => some x
  | _ => none

end Reader

/-- `p` takes `x` off every word that starts with `code`. -/
def Reads {σ α : Type} (p : Reader σ α) (code : List σ) (x : α) : Prop :=
  ∀ rest, p (code ++ rest) = some (x, rest)

namespace Reads

open Reader

variable {σ α β : Type} {p : Reader σ α} {code code' : List σ} {x : α}

theorem pure (x : α) : Reads (Pure.pure x : Reader σ α) [] x := fun _ => rfl

theorem bind {f : α → Reader σ β} {z : β} (first : Reads p code x) (second : Reads (f x) code' z) :
    Reads (p >>= f) (code ++ code') z := by
  intro rest
  have head := first (code' ++ rest)
  show (p (code ++ code' ++ rest)).bind (fun r => f r.1 r.2) = some (z, rest)
  rw [List.append_assoc, head]
  exact second rest

/-- A value is read and then turned into another one. -/
theorem bind_pure {f : α → Reader σ β} {z : β} (first : Reads p code x)
    (second : Reads (f x) [] z) : Reads (p >>= f) code z := by
  have both := first.bind second
  rwa [List.append_nil] at both

theorem next (b : σ) : Reads Reader.next [b] b := fun _ => rfl

theorem take (bs : List σ) : Reads (Reader.take bs.length) bs bs := by
  intro rest
  simp [Reader.take]

theorem ofOption {o : Option α} (h : o = some x) : Reads (Reader.ofOption o : Reader σ α) [] x := by
  subst h
  exact Reads.pure x

/-- A code behind its letter, once the letter has selected the reader. -/
theorem cons {f : σ → Reader σ α} {b : σ} (body : Reads (f b) code x) :
    Reads (Reader.next >>= f) (b :: code) x :=
  (Reads.next b).bind body

theorem times {write : α → List σ} {xs : List α} (each : ∀ x ∈ xs, Reads p (write x) x) :
    Reads (Reader.times p xs.length) (xs.flatMap write) xs := by
  induction xs with
  | nil => exact Reads.pure []
  | cons x xs ih =>
      have tail := ih fun y hy => each y (List.mem_cons_of_mem x hy)
      exact (each x List.mem_cons_self).bind (tail.bind_pure (Reads.pure (x :: xs)))

theorem parse (h : Reads p code x) : p.parse code = some x := by
  have all := h []
  rw [List.append_nil] at all
  simp only [Reader.parse, all]

end Reads

end DuckPools
