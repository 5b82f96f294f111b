import DuckPools.ErgoScript.Reduction
import DuckPools.Language.Traces
import DuckPools.Ledger.Utxo

/-!
# Runs of the ledger

The unspent boxes, together with what scripts can read of the block that is being built: its
height and the identifier of the block before it. A transaction is accepted if it takes
distinct unspent boxes, keeps ERG and tokens, and every box it takes lets it. Identifiers of
boxes are never given twice, as they are hashes of what makes a box.

What lets a transaction take a box is a parameter, `Lock`. Results about one script fix it
behind the tree of this script only, with `Lock.behind`: a script that is known as bytes asks
that it reduces to a proposition which the signers prove, `Unlocks`, a script that is known as a
source asks what the source asks. What other boxes ask for is left open, so that they may be
behind any script of the ledger, with operations that `Expr` does not have.

A run is any sequence of accepted transactions and of blocks, whoever submits them. It is one
chain; what happens on branches that are abandoned is not part of it. Nor is storage rent: on
the ledger a box that has not moved for four years loses a fee to whoever mines a block, without
its script being asked.
-/

namespace DuckPools.ErgoScript

structure Chain (Point : Type) where
  utxo : Utxo Bytes (Box Point)
  /-- Of the block being built. -/
  height : Int32
  parentId : Bytes

structure Tx (Point : Type) where
  inputs : List (Box Point)
  outputs : List (Box Point)
  signers : List Point

inductive Event (Point : Type) where
  | tx (t : Tx Point)
  /-- The block is complete and has this identifier; the next one is built on it. -/
  | block (headerId : Bytes)

variable {Point : Type}

def Tx.transfer (t : Tx Point) : Transfer (Box Point) := ⟨t.inputs, t.outputs⟩

namespace Chain

def step (s : Chain Point) : Event Point → Chain Point
  | .tx t => { s with utxo := s.utxo.apply Box.id t.transfer }
  | .block headerId => { s with height := s.height + 1, parentId := headerId }

def run (s : Chain Point) (events : List (Event Point)) : Chain Point := events.foldl step s

/-- Where the script of an input is evaluated. -/
def context (s : Chain Point) (t : Tx Point) (b : Box Point) : Context Point where
  self := b
  inputs := t.inputs
  outputs := t.outputs
  height := s.height
  parentId := s.parentId

end Chain

/-- When a box lets a transaction take it. -/
abbrev Lock (Point : Type) := Chain Point → Tx Point → Box Point → Prop

/-- Boxes behind one tree ask for one thing, all others for another. -/
def Lock.behind (tree : Bytes) (asks others : Lock Point) : Lock Point :=
  fun s t b => if b.propositionBytes = tree then asks s t b else others s t b

section Behind

variable {tree : Bytes} {asks others : Lock Point} {s : Chain Point} {t : Tx Point} {b : Box Point}

theorem Lock.behind_of_eq (h : b.propositionBytes = tree) :
    Lock.behind tree asks others s t b ↔ asks s t b := by
  rw [behind, if_pos h]

end Behind

namespace Chain

section Rules

variable (lock : Lock Point)

structure ValidUnder (s : Chain Point) (t : Tx Point) : Prop where
  allowed : s.utxo.Allows Box.id t.transfer
  conserves : Conserves t.inputs t.outputs
  unlocks : ∀ b ∈ t.inputs, lock s t b

/-- What the ledger lets happen. Heights are numbers that a script can compare. -/
def AcceptsUnder (s : Chain Point) : Event Point → Prop
  | .tx t => s.ValidUnder lock t
  | .block _ => s.height < Int32.maxValue

/-- Every event of the run is accepted when it happens. -/
def AcceptedUnder (s : Chain Point) (events : List (Event Point)) : Prop :=
  Traces.EveryStep step (AcceptsUnder lock) s events

end Rules

section Scripts

variable [DecidableEq Point] (H : Blake2b) (E : Curve Point)

/-- The script of the box lets the transaction spend it. -/
def Unlocks (s : Chain Point) (t : Tx Point) (b : Box Point) : Prop :=
  ∃ prop, (s.context t b).reduce H E = some prop ∧ prop.provedBy t.signers = true

end Scripts

/-- Names of boxes are kept apart. -/
def Sound (s : Chain Point) : Prop := s.utxo.Sound Box.id

end Chain

/-- The event takes the box. -/
def Event.Spends (b : Box Point) : Event Point → Prop
  | .tx t => b ∈ t.inputs
  | .block _ => False

namespace Chain

variable {lock : Lock Point} {s : Chain Point} {t : Tx Point} {b : Box Point}
  {events before after : List (Event Point)}

@[simp] theorem run_nil (s : Chain Point) : s.run [] = s := rfl

@[simp] theorem run_cons (s : Chain Point) (e : Event Point) (events : List (Event Point)) :
    s.run (e :: events) = (s.step e).run events := rfl

theorem run_append (s : Chain Point) (before after : List (Event Point)) :
    s.run (before ++ after) = (s.run before).run after := List.foldl_append

theorem add_one_toInt {n : Int32} (h : n < Int32.maxValue) : (n + 1).toInt = n.toInt + 1 := by
  have low := n.le_toInt
  have high := Int32.lt_iff_toInt_lt.mp h
  have last := Int32.toInt_maxValue_add_one
  rw [Int32.toInt_add, Int32.toInt_one]
  apply Int.bmod_eq_of_le <;> omega

section Runs

theorem accepted_append : s.AcceptedUnder lock (before ++ after) ↔
    s.AcceptedUnder lock before ∧ (s.run before).AcceptedUnder lock after := Traces.everyStep_append

theorem Sound.step {e : Event Point} (h : s.Sound) (accepted : AcceptsUnder lock s e) :
    (s.step e).Sound := by
  cases e with
  | tx t => exact Utxo.Sound.apply h accepted.allowed
  | block headerId => exact h

theorem Sound.run (h : s.Sound) (accepted : s.AcceptedUnder lock events) : (s.run events).Sound :=
  Traces.foldl_of_everyStep (fun _ _ sound ok => Sound.step sound ok) h accepted

theorem height_le_step {e : Event Point} (accepted : AcceptsUnder lock s e) :
    s.height ≤ (s.step e).height := by
  cases e with
  | tx t => exact Int32.le_refl _
  | block headerId =>
      have next := add_one_toInt accepted
      rw [Int32.le_iff_toInt_le]
      show s.height.toInt ≤ (s.height + 1).toInt
      omega

theorem height_le_run (accepted : s.AcceptedUnder lock events) :
    s.height ≤ (s.run events).height := by
  induction events generalizing s with
  | nil => exact Int32.le_refl _
  | cons e events ih => exact Int32.le_trans (height_le_step accepted.1) (ih accepted.2)

/-- A box that is gone is not spent again. -/
theorem not_spends_of_gone (h : s.Sound) (gone : s.utxo.Gone Box.id b.id)
    (accepted : s.AcceptedUnder lock events) :
    (∀ e ∈ events, ¬ e.Spends b) ∧ (s.run events).utxo.Gone Box.id b.id := by
  induction events generalizing s with
  | nil => exact ⟨fun e he => absurd he List.not_mem_nil, gone⟩
  | cons e events ih =>
      have next : (s.step e).utxo.Gone Box.id b.id ∧ ¬ e.Spends b := by
        cases e with
        | tx t =>
            refine ⟨Utxo.Sound.gone_apply h accepted.1.allowed gone, ?_⟩
            intro spent
            exact gone.not_mem (accepted.1.allowed.inputs b spent)
        | block headerId => exact ⟨gone, id⟩
      obtain ⟨rest, last⟩ := ih (h.step accepted.1) next.1 accepted.2
      exact ⟨List.forall_mem_cons.mpr ⟨next.2, rest⟩, last⟩

/-- An unspent box is spent by at most one event of a run, and is there until then. -/
theorem spent_once (h : s.Sound) (hb : b ∈ s.utxo.unspent)
    (accepted : s.AcceptedUnder lock events) :
    ((∀ e ∈ events, ¬ e.Spends b) ∧ b ∈ (s.run events).utxo.unspent) ∨
      ∃ before t after, events = before ++ .tx t :: after ∧ b ∈ t.inputs ∧
        (∀ e ∈ before ++ after, ¬ e.Spends b) ∧ (s.run before).ValidUnder lock t ∧
        b ∉ (s.run events).utxo.unspent := by
  induction events generalizing s with
  | nil => exact .inl ⟨fun e he => absurd he List.not_mem_nil, hb⟩
  | cons e events ih =>
      have sound := h.step accepted.1
      by_cases spends : e.Spends b
      · cases e with
        | block headerId => exact spends.elim
        | tx t =>
            have gone := Utxo.Sound.gone_of_mem_inputs h accepted.1.allowed spends
            obtain ⟨later, last⟩ := not_spends_of_gone sound gone accepted.2
            exact .inr ⟨[], t, events, rfl, spends, later, accepted.1, last.not_mem⟩
      · have kept : b ∈ (s.step e).utxo.unspent := by
          cases e with
          | tx t => exact (Utxo.Sound.mem_apply_iff h accepted.1.allowed).mpr (.inl ⟨hb, spends⟩)
          | block headerId => exact hb
        obtain ⟨rest, last⟩ | ⟨before, t, after, rfl, taken, others, valid, last⟩ :=
          ih sound kept accepted.2
        · exact .inl ⟨List.forall_mem_cons.mpr ⟨spends, rest⟩, last⟩
        · exact .inr ⟨e :: before, t, after, rfl, taken,
            List.forall_mem_cons.mpr ⟨spends, others⟩, valid, last⟩

end Runs

end Chain

end DuckPools.ErgoScript
