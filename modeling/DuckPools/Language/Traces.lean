import Mathlib.Data.List.Basic

/-!
# Traces of a transition function

A run is a list of events. A property of states is required of every state that the run
visits, a condition on steps of every event in the state it happens in. An invariant turns
conditions on steps into properties of states. If the condition says exactly when a step
from a good state ends in a good state, the two are equivalent.
-/

namespace DuckPools.Traces

variable {σ ε : Type*} (step : σ → ε → σ)

/-- Every state of the run is good, the first one included. -/
def Always (Good : σ → Prop) : σ → List ε → Prop
  | s, [] => Good s
  | s, e :: rest => Good s ∧ Always Good (step s e) rest

/-- Every event of the run meets the condition in the state it happens in. -/
def EveryStep (Cond : σ → ε → Prop) : σ → List ε → Prop
  | _, [] => True
  | s, e :: rest => Cond s e ∧ EveryStep Cond (step s e) rest

variable {step}

theorem Always.mono {Good Good' : σ → Prop} (weaker : ∀ s, Good s → Good' s)
    {s : σ} {run : List ε} (h : Always step Good s run) : Always step Good' s run := by
  induction run generalizing s with
  | nil => exact weaker s h
  | cons e rest ih => exact ⟨weaker s h.1, ih h.2⟩

theorem always_of_foldl {Good : σ → Prop} {s : σ} {run : List ε}
    (h : Always step Good s run) : Good (run.foldl step s) := by
  induction run generalizing s with
  | nil => exact h
  | cons e rest ih => exact ih h.2

theorem everyStep_append {Cond : σ → ε → Prop} {s : σ} {before after : List ε} :
    EveryStep step Cond s (before ++ after) ↔
      EveryStep step Cond s before ∧ EveryStep step Cond (before.foldl step s) after := by
  induction before generalizing s with
  | nil => exact ⟨fun h => ⟨trivial, h⟩, And.right⟩
  | cons e rest ih => exact (and_congr_right fun _ => ih).trans and_assoc.symm

theorem everyStep_of_forall {Allowed : ε → Prop} {s : σ} {run : List ε}
    (h : ∀ e ∈ run, Allowed e) : EveryStep step (fun _ e => Allowed e) s run := by
  induction run generalizing s with
  | nil => trivial
  | cons e rest ih => exact ⟨h e List.mem_cons_self, ih fun e he => h e (List.mem_cons_of_mem _ he)⟩

theorem foldl_of_everyStep {Inv : σ → Prop} {Cond : σ → ε → Prop}
    (kept : ∀ s e, Inv s → Cond s e → Inv (step s e))
    {s : σ} (inv : Inv s) {run : List ε} (h : EveryStep step Cond s run) :
    Inv (run.foldl step s) := by
  induction run generalizing s with
  | nil => exact inv
  | cons e rest ih => exact ih (kept s e inv h.1) h.2

theorem EveryStep.and_always {Good : σ → Prop} {Cond : σ → ε → Prop} {s : σ} {run : List ε}
    (h : EveryStep step Cond s run) (good : Always step Good s run) :
    EveryStep step (fun s e => Good s ∧ Cond s e) s run := by
  induction run generalizing s with
  | nil => trivial
  | cons e rest ih => exact ⟨⟨good.1, h.1⟩, ih h.2 good.2⟩

/-- The states of a run. -/
def Visited (step : σ → ε → σ) (start : σ) (events : List ε) (s : σ) : Prop :=
  ∃ before after, events = before ++ after ∧ before.foldl step start = s

theorem always_visited (start : σ) (events : List ε) :
    Always step (Visited step start events) start events := by
  have from_prefix (before after : List ε) (split : events = before ++ after) :
      Always step (Visited step start events) (before.foldl step start) after := by
    induction after generalizing before with
    | nil => exact ⟨before, [], split, rfl⟩
    | cons e after ih =>
        refine ⟨⟨before, e :: after, split, rfl⟩, ?_⟩
        have next := ih (before ++ [e]) (by rw [split, List.append_assoc]; rfl)
        rwa [List.foldl_append] at next
  exact from_prefix [] events rfl

/-- What every step keeps holds of all states of the run. -/
theorem Visited.kept {Inv : σ → Prop} {Cond : σ → ε → Prop}
    (kept : ∀ s e, Inv s → Cond s e → Inv (step s e)) {start : σ} (inv : Inv start)
    {events : List ε} (h : EveryStep step Cond start events) {s : σ}
    (visited : Visited step start events s) : Inv s := by
  obtain ⟨before, after, rfl, rfl⟩ := visited
  exact foldl_of_everyStep kept inv (everyStep_append.mp h).1

section Exact

variable {Inv Good : σ → Prop} {Allowed : ε → Prop} {Cond : σ → ε → Prop}

/-- The invariant needs no condition; the property is kept exactly by the steps that meet
theirs. -/
theorem always_iff_everyStep
    (kept : ∀ s e, Inv s → Allowed e → Inv (step s e))
    (exact_step : ∀ s e, Inv s → Allowed e → Good s → (Good (step s e) ↔ Cond s e))
    {s : σ} (inv : Inv s) (good : Good s) {run : List ε} (allowed : ∀ e ∈ run, Allowed e) :
    Always step Good s run ↔ EveryStep step Cond s run := by
  induction run generalizing s with
  | nil => exact ⟨fun _ => trivial, fun _ => good⟩
  | cons e rest ih =>
    have he : Allowed e := allowed e List.mem_cons_self
    have hrest : ∀ e ∈ rest, Allowed e := fun e h => allowed e (List.mem_cons_of_mem _ h)
    have next : Good (step s e) →
        (Always step Good (step s e) rest ↔ EveryStep step Cond (step s e) rest) :=
      fun h => ih (kept s e inv he) h hrest
    constructor
    · rintro ⟨-, h⟩
      have here : Good (step s e) := by
        cases rest with
        | nil => exact h
        | cons _ _ => exact h.1
      exact ⟨(exact_step s e inv he good).mp here, (next here).mp h⟩
    · rintro ⟨cond, h⟩
      exact ⟨good, (next ((exact_step s e inv he good).mpr cond)).mpr h⟩

end Exact

end DuckPools.Traces
