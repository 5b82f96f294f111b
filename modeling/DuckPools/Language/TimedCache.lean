import DuckPools.Language.Traces
import Mathlib.Algebra.Order.Group.Defs

/-!
# A value that is fetched and kept for a while

Somewhere else there is a source whose answer changes. Whoever asks for it is given what the
cache holds if the fetch that brought it was started less than `ttl` ago, and fetches it
otherwise. Fetches take their time. They overlap and end in any order, and each of those that
succeed puts what it brought into the cache, under the time it was started.

So what is in the cache may be older than what a call has returned before. How old it can be is
bounded all the same: what a call returns, the source has answered less than `ttl` before the
call, or later. A call that forces a fetch is given an answer to this fetch.
-/

namespace DuckPools.TimedCache

open Traces

variable {Time Answer Error Value : Type}

/-- A fetch under way, with the answer once the source has given it. -/
structure Fetch (Time Answer : Type) where
  started : Time
  forced : Bool
  answer : Option Answer

/-- A call that has ended. -/
structure Returned (Time Error Value : Type) where
  called : Time
  forced : Bool
  finished : Time
  result : Except Error Value

structure State (Time Answer Error Value : Type) where
  now : Time
  /-- What the source would answer. -/
  source : Answer
  /-- The value of the last fetch that ended well, and when it was started. -/
  cached : Option (Value × Time)
  fetches : List (Fetch Time Answer)
  returned : List (Returned Time Error Value)

inductive Event (Time Answer Error : Type) where
  /-- Time passes. -/
  | wait (now : Time)
  /-- The source changes. -/
  | change (source : Answer)
  /-- Only a call that is not forced may take what is cached. -/
  | call (force : Bool)
  /-- The source answers a fetch. -/
  | serve (i : Nat)
  /-- The answer reaches the caller. -/
  | arrive (i : Nat)
  /-- Something is raised in place of an answer. -/
  | fail (i : Nat) (error : Error)

/-- How a cache is run. -/
structure Policy (Time Answer Error Value : Type) where
  ttl : Time
  /-- What is checked before a fetch. -/
  ready : Except Error Unit
  /-- What is made of an answer, given when it was asked for. -/
  decode : Time → Answer → Except Error Value

section Machine

variable [Sub Time] [LT Time] [DecidableLT Time] (P : Policy Time Answer Error Value)
  (s : State Time Answer Error Value)

/-- The value that a call may take from the cache. -/
def current (force : Bool) : Option Value :=
  match s.cached with
  | some (value, started) => if !force && s.now - started < P.ttl then some value else none
  | none => none

def State.ends (called : Time) (forced : Bool) (result : Except Error Value) :
    State Time Answer Error Value :=
  { s with returned := s.returned ++ [⟨called, forced, s.now, result⟩] }

def call (force : Bool) : State Time Answer Error Value :=
  match current P s force with
  | some value => s.ends s.now force (.ok value)
  | none =>
      match P.ready with
      | .error error => s.ends s.now force (.error error)
      | .ok () => { s with fetches := s.fetches ++ [⟨s.now, force, none⟩] }

def serve (i : Nat) : State Time Answer Error Value :=
  { s with fetches := s.fetches.modify i fun f => { f with answer := f.answer.or (some s.source) } }

def arrive (i : Nat) : State Time Answer Error Value :=
  match s.fetches[i]? with
  | some ⟨started, forced, some answer⟩ =>
      let rest := { s with fetches := s.fetches.eraseIdx i }
      match P.decode started answer with
      | .ok value => { rest.ends started forced (.ok value) with cached := some (value, started) }
      | .error error => rest.ends started forced (.error error)
  | _ => s

def fail (i : Nat) (error : Error) : State Time Answer Error Value :=
  match s.fetches[i]? with
  | some f => { s with fetches := s.fetches.eraseIdx i }.ends f.started f.forced (.error error)
  | none => s

def step : Event Time Answer Error → State Time Answer Error Value
  | .wait now => { s with now }
  | .change source => { s with source }
  | .call force => call P s force
  | .serve i => serve s i
  | .arrive i => arrive P s i
  | .fail i error => fail s i error

/-- Only a change of the source changes it. -/
theorem step_source (e : Event Time Answer Error) :
    (step P s e).source = match e with
      | .change source => source
      | _ => s.source := by
  cases e with
  | call force =>
      simp only [step, call]
      split
      · rfl
      · split
        · rfl
        · rfl
  | arrive i =>
      simp only [step, arrive]
      split
      · split
        · rfl
        · rfl
      · rfl
  | fail i error =>
      simp only [step, fail]
      split
      · rfl
      · rfl
  | _ => rfl

end Machine

section Staleness

variable [LinearOrder Time] {P : Policy Time Answer Error Value}
  {Seen : State Time Answer Error Value → Prop} {s : State Time Answer Error Value}

/-- The clock does not go back. -/
def Forward (s : State Time Answer Error Value) : Event Time Answer Error → Prop
  | .wait now => s.now ≤ now
  | _ => True

/-- The source has given this answer between two moments. -/
def Answered (Seen : State Time Answer Error Value → Prop) (lower upper : Time)
    (answer : Answer) : Prop :=
  ∃ u, Seen u ∧ lower ≤ u.now ∧ u.now ≤ upper ∧ u.source = answer

/-- The value comes from an answer to a fetch that was started at `started`, given by `upper`. -/
def Brought (P : Policy Time Answer Error Value) (Seen : State Time Answer Error Value → Prop)
    (started upper : Time) (value : Value) : Prop :=
  ∃ answer, Answered Seen started upper answer ∧ P.decode started answer = .ok value

theorem Answered.mono {lower upper later : Time} {answer : Answer} (le : upper ≤ later)
    (h : Answered Seen lower upper answer) : Answered Seen lower later answer := by
  obtain ⟨u, seen, after, before, same⟩ := h
  exact ⟨u, seen, after, before.trans le, same⟩

theorem Brought.mono {started upper later : Time} {value : Value} (le : upper ≤ later)
    (h : Brought P Seen started upper value) : Brought P Seen started later value := by
  obtain ⟨answer, answered, decoded⟩ := h
  exact ⟨answer, answered.mono le, decoded⟩

variable [AddCommGroup Time]

/-- A call may be given what a fetch brings that was started then. -/
def Fresh (P : Policy Time Answer Error Value) (called : Time) (forced : Bool)
    (started : Time) : Prop :=
  called < started + P.ttl ∧ (forced → called ≤ started)

/-- What holds between the steps of a run whose states are `Seen`. -/
structure Inv (P : Policy Time Answer Error Value) (Seen : State Time Answer Error Value → Prop)
    (s : State Time Answer Error Value) : Prop where
  fetched : ∀ f ∈ s.fetches, f.started ≤ s.now ∧
    ∀ answer, f.answer = some answer → Answered Seen f.started s.now answer
  cached : ∀ value started, s.cached = some (value, started) →
    Brought P Seen started s.now value
  returned : ∀ r ∈ s.returned, ∀ value, r.result = .ok value →
    ∃ started, Fresh P r.called r.forced started ∧ Brought P Seen started r.finished value

theorem current_eq_some {force : Bool} {value : Value} (h : current P s force = some value) :
    ∃ started, s.cached = some (value, started) ∧ !force ∧ s.now - started < P.ttl := by
  rw [current] at h
  split at h
  · next kept started hcached =>
    split at h
    · next fresh =>
      obtain rfl := Option.some.inj h
      obtain ⟨unforced, young⟩ := (Bool.and_eq_true _ _).mp fresh
      exact ⟨started, hcached, unforced, of_decide_eq_true young⟩
    · cases h
  · cases h

/-- Ending a call keeps the invariant if what it returns is fresh. -/
theorem Inv.ends {called : Time} {forced : Bool} {result : Except Error Value}
    (inv : Inv P Seen s) (fresh : ∀ value, result = .ok value →
      ∃ started, Fresh P called forced started ∧ Brought P Seen started s.now value) :
    Inv P Seen (s.ends called forced result) where
  fetched := inv.fetched
  cached := inv.cached
  returned := by
    intro r hr value hvalue
    obtain hr | hr := List.mem_append.mp hr
    · exact inv.returned r hr value hvalue
    · obtain rfl := List.mem_singleton.mp hr
      exact fresh value hvalue

theorem Inv.call [IsOrderedAddMonoid Time] (inv : Inv P Seen s) (force : Bool) :
    Inv P Seen (call P s force) := by
  rw [TimedCache.call]
  split
  · next kept fresh =>
    apply inv.ends
    rintro value ⟨⟩
    obtain ⟨started, hcached, unforced, young⟩ := current_eq_some fresh
    have fresh : Fresh P s.now force started :=
      ⟨sub_lt_iff_lt_add'.mp young, fun forced => by simp [forced] at unforced⟩
    exact ⟨started, fresh, inv.cached _ _ hcached⟩
  · split
    · exact inv.ends fun value h => nomatch h
    · refine ⟨?_, inv.cached, inv.returned⟩
      intro f hf
      obtain hf | hf := List.mem_append.mp hf
      · exact inv.fetched f hf
      · obtain rfl := List.mem_singleton.mp hf
        exact ⟨le_rfl, fun answer h => nomatch h⟩

theorem Inv.wait {now : Time} (inv : Inv P Seen s) (forward : s.now ≤ now) :
    Inv P Seen { s with now } where
  fetched := by
    intro f hf
    obtain ⟨le, answered⟩ := inv.fetched f hf
    exact ⟨le.trans forward, fun answer h => (answered answer h).mono forward⟩
  cached := fun value started h => (inv.cached value started h).mono forward
  returned := inv.returned

/-- A fetch that is served now gets the answer of this moment, unless it has one already. -/
theorem Inv.serve (inv : Inv P Seen s) (seen : Seen s) (i : Nat) :
    Inv P Seen (serve s i) where
  fetched := by
    intro f hf
    obtain ⟨j, hj⟩ := List.mem_iff_getElem?.mp hf
    obtain ⟨g, hg, rfl⟩ := Option.map_eq_some_iff.mp ((List.getElem?_modify ..).symm.trans hj)
    obtain ⟨le, answered⟩ := inv.fetched g (List.mem_of_getElem? hg)
    split
    · refine ⟨le, ?_⟩
      intro answer h
      cases had : g.answer with
      | none =>
          obtain rfl : s.source = answer := by simpa [had] using h
          exact ⟨s, seen, le, le_rfl, rfl⟩
      | some before =>
          obtain rfl : before = answer := by simpa [had] using h
          exact answered _ had
    · exact ⟨le, answered⟩
  cached := inv.cached
  returned := inv.returned

theorem Inv.eraseIdx (inv : Inv P Seen s) (i : Nat) :
    Inv P Seen { s with fetches := s.fetches.eraseIdx i } where
  fetched := fun f hf => inv.fetched f (List.mem_of_mem_eraseIdx hf)
  cached := inv.cached
  returned := inv.returned

theorem Inv.arrive [IsOrderedAddMonoid Time] (inv : Inv P Seen s) (positive : 0 < P.ttl)
    (i : Nat) : Inv P Seen (arrive P s i) := by
  rw [TimedCache.arrive]
  split
  · next started forced answer hfetch =>
    have answered : Answered Seen started s.now answer :=
      (inv.fetched _ (List.mem_of_getElem? hfetch)).2 answer rfl
    split
    · next value decoded =>
      have brought : Brought P Seen started s.now value := ⟨answer, answered, decoded⟩
      have fresh : Fresh P started forced started :=
        ⟨lt_add_of_pos_right started positive, fun _ => le_rfl⟩
      have ended : Inv P Seen
          ({ s with fetches := s.fetches.eraseIdx i }.ends started forced (.ok value)) := by
        apply (inv.eraseIdx i).ends
        rintro v ⟨⟩
        exact ⟨started, fresh, brought⟩
      refine ⟨ended.fetched, ?_, ended.returned⟩
      rintro v t ⟨⟩
      exact brought
    · exact (inv.eraseIdx i).ends fun value h => nomatch h
  · exact inv

theorem Inv.fail (inv : Inv P Seen s) (i : Nat) (error : Error) :
    Inv P Seen (fail s i error) := by
  rw [TimedCache.fail]
  split
  · exact (inv.eraseIdx i).ends fun value h => nomatch h
  · exact inv

/-- Nothing is cached, and nobody has asked. -/
def start (now : Time) (source : Answer) : State Time Answer Error Value :=
  { now, source, cached := none, fetches := [], returned := [] }

theorem inv_start (now : Time) (source : Answer) : Inv P Seen (start now source) where
  fetched := fun _ hf => nomatch hf
  cached := fun _ _ h => nomatch h
  returned := fun _ hr => nomatch hr

variable [IsOrderedAddMonoid Time]

theorem Inv.step (positive : 0 < P.ttl) (inv : Inv P Seen s) (seen : Seen s)
    {e : Event Time Answer Error} (forward : Forward s e) : Inv P Seen (step P s e) := by
  cases e with
  | wait now => exact inv.wait forward
  | change source => exact ⟨inv.fetched, inv.cached, inv.returned⟩
  | call force => exact inv.call force
  | serve i => exact inv.serve seen i
  | arrive i => exact inv.arrive positive i
  | fail i error => exact inv.fail i error

/-- In every run from a start, whatever the fetches bring each other. -/
theorem inv_run (positive : 0 < P.ttl) (now : Time) (source : Answer)
    (events : List (Event Time Answer Error))
    (forward : EveryStep (TimedCache.step P) Forward (start now source) events) :
    Inv P (Visited (TimedCache.step P) (start now source) events)
      (events.foldl (TimedCache.step P) (start now source)) := by
  apply foldl_of_everyStep ?_ (inv_start now source) (forward.and_always (always_visited _ events))
  rintro s e inv ⟨seen, ahead⟩
  exact inv.step positive seen ahead

end Staleness

end DuckPools.TimedCache
