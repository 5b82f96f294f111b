import Mathlib.Algebra.Group.Nat.Defs
import Mathlib.Algebra.Ring.Int.Defs
import Mathlib.Data.Option.Basic
import Mathlib.Data.List.Basic

/-!
# Script expressions that can fail

A guard script either reduces to a value or aborts, and an aborted script never
lets its box be spent. `Eval` keeps the two apart: `none` is an exception, not
`false`. The binary connectives evaluate their right operand only when the left one
leaves the result open, so an exception behind a decided operand is never raised;
`exists_` walks a collection with the same discipline.

Checked arithmetic aborts on overflow of the 32- or 64-bit result type.
-/

namespace DuckPools.ErgoScript

/-- The outcome of a script expression; `none` is a raised exception. -/
abbrev Eval (α : Type) := Option α

namespace Eval

/-- `a && b`, lazy in `b`. -/
def and (a b : Eval Bool) : Eval Bool := a.bind fun x => if x then b else some false

/-- `a || b`, lazy in `b`. -/
def or (a b : Eval Bool) : Eval Bool := a.bind fun x => if x then some true else b

/-- `xs.exists(p)`: stops at the first element that satisfies `p`. -/
def exists_ {α : Type} (p : α → Eval Bool) : List α → Eval Bool
  | [] => some false
  | x :: xs => or (p x) (exists_ p xs)

@[simp] theorem and_eq_true {a b : Eval Bool} :
    and a b = some true ↔ a = some true ∧ b = some true := by
  rcases a with _ | _ | _ <;> simp [and]

@[simp] theorem and_false (b : Eval Bool) : and (some false) b = some false := rfl

@[simp] theorem or_eq_true {a b : Eval Bool} :
    or a b = some true ↔ a = some true ∨ (a = some false ∧ b = some true) := by
  rcases a with _ | _ | _ <;> simp [or]

@[simp] theorem or_true (b : Eval Bool) : or (some true) b = some true := rfl

@[simp] theorem or_false (b : Eval Bool) : or (some false) b = b := rfl

end Eval

/-- `Int` addition, raising on overflow. -/
def addInt (a b : Int32) : Eval Int32 :=
  if -2 ^ 31 ≤ a.toInt + b.toInt ∧ a.toInt + b.toInt < 2 ^ 31 then some (a + b) else none

/-- `Long` multiplication of non-negative amounts, raising on overflow. -/
def mulLong (a b : Nat) : Eval Nat := if a * b < 2 ^ 63 then some (a * b) else none

theorem addInt_toInt {a b c : Int32} (h : addInt a b = some c) :
    c.toInt = a.toInt + b.toInt := by
  rw [addInt] at h
  split at h
  · next hrange =>
      cases h
      rw [Int32.toInt_add, Int.bmod_eq_of_le]
      · exact hrange.1
      · exact hrange.2
  · cases h

theorem mulLong_eq_some_iff {a b c : Nat} :
    mulLong a b = some c ↔ a * b < 2 ^ 63 ∧ c = a * b := by
  rw [mulLong]
  split <;> simp_all [eq_comm]

end DuckPools.ErgoScript
