import DuckPools.Language.JavaScript
import Mathlib.Data.List.Induction
import Mathlib.Data.List.Nodup
import Mathlib.Data.Rat.Defs

/-!
# The bet store of the frontend: `frontend/src/stores/betStore.ts`

A map of the bets that wait for confirmation and the list of the latest results. Each action
updates what it is about and looks at nothing else: a result is put in front of the list
whether or not its bet is in the map or in the list already.
-/

namespace DuckPools.Frontend.PendingBets

inductive GameType
  | coinflip

inductive Side
  | heads
  | tails

structure CoinflipChoice where
  gameType : GameType
  side : Side

structure CoinflipOutcome where
  gameType : GameType
  result : Side

inductive Outcome
  | pending
  | win
  | loss
  | refunded

structure PendingBet where
  betId : Text
  txId : Text
  gameType : GameType
  amount : Text
  amountNanoErg : Text
  choiceLabel : Text
  submittedAt : Int

structure BetRecord where
  betId : Text
  txId : Text
  boxId : Text
  playerAddress : Text
  gameType : GameType
  choice : CoinflipChoice
  betAmount : Text
  outcome : Outcome
  actualOutcome : Option CoinflipOutcome
  payout : Text
  payoutMultiplier : ℚ
  timestamp : Text
  blockHeight : Nat
  resolvedAtHeight : Option Nat

/-- `Map<string, PendingBet>`, in the order of insertion. -/
abbrev BetMap := List (Text × PendingBet)

namespace BetMap

def keys (m : BetMap) : List Text := m.map Prod.fst

def set (m : BetMap) (key : Text) (bet : PendingBet) : BetMap :=
  if key ∈ keys m then m.map fun entry => if entry.1 = key then (key, bet) else entry
  else m ++ [(key, bet)]

def delete (m : BetMap) (key : Text) : BetMap := m.filter fun entry => entry.1 != key

theorem mem_keys_set {m : BetMap} {key k : Text} {bet : PendingBet} :
    k ∈ keys (m.set key bet) ↔ k = key ∨ k ∈ keys m := by
  rw [set]
  split
  · rename_i member
    have same : keys (m.map fun entry => if entry.1 = key then (key, bet) else entry) = keys m := by
      rw [keys, List.map_map, keys]
      apply List.map_congr_left
      intro entry _
      rw [Function.comp_apply]
      split
      · rename_i here
        exact here.symm
      · rfl
    rw [same]
    constructor
    · exact Or.inr
    · rintro (rfl | other)
      · exact member
      · exact other
  · rw [keys, List.map_append, List.mem_append, Or.comm, List.map_singleton, List.mem_singleton]
    rfl

theorem mem_keys_delete {m : BetMap} {key k : Text} :
    k ∈ keys (m.delete key) ↔ k ≠ key ∧ k ∈ keys m := by
  rw [keys, delete, List.mem_map, keys, List.mem_map]
  constructor
  · rintro ⟨entry, member, rfl⟩
    obtain ⟨inside, kept⟩ := List.mem_filter.mp member
    exact ⟨bne_iff_ne.mp kept, entry, inside, rfl⟩
  · rintro ⟨other, entry, inside, rfl⟩
    exact ⟨entry, List.mem_filter.mpr ⟨inside, bne_iff_ne.mpr other⟩, rfl⟩

end BetMap

structure BetState where
  pendingBets : BetMap := []
  recentResults : List BetRecord := []
  isSubmitting : Bool := false
  submissionError : Option Text := none

def DEFAULT_MAX_RESULTS : Int := 50

namespace BetState

def addPendingBet (state : BetState) (bet : PendingBet) : BetState :=
  { state with pendingBets := state.pendingBets.set bet.betId bet }

def resolvePendingBet (state : BetState) (betId : Text) (record : BetRecord) : BetState :=
  { state with
    pendingBets := state.pendingBets.delete betId
    recentResults := record :: state.recentResults }

def failPendingBet (state : BetState) (betId reason : Text) : BetState :=
  { state with
    pendingBets := state.pendingBets.delete betId
    submissionError := some
      ("Bet ".toList ++ Js.slice betId 0 8 ++ "... failed: ".toList ++ reason) }

def setSubmitting (state : BetState) (value : Bool) : BetState :=
  { state with isSubmitting := value }

def setSubmissionError (state : BetState) (error : Option Text) : BetState :=
  { state with submissionError := error }

def clearSubmissionError (state : BetState) : BetState := { state with submissionError := none }

def trimRecentResults (state : BetState) (maxCount : Int := DEFAULT_MAX_RESULTS) : BetState :=
  { state with recentResults := Js.slice state.recentResults 0 maxCount }

def recentIds (state : BetState) : List Text := state.recentResults.map BetRecord.betId

end BetState

/-- A record that resolves a bet carries the id of the bet. -/
inductive Action
  | addPendingBet (bet : PendingBet)
  | resolvePendingBet (betId : Text) (record : BetRecord) (same : record.betId = betId)
  | failPendingBet (betId reason : Text)
  | setSubmitting (value : Bool)
  | setSubmissionError (error : Option Text)
  | clearSubmissionError
  | trimRecentResults (maxCount : Int)

def step (state : BetState) : Action → BetState
  | .addPendingBet bet => state.addPendingBet bet
  | .resolvePendingBet betId record _ => state.resolvePendingBet betId record
  | .failPendingBet betId reason => state.failPendingBet betId reason
  | .setSubmitting value => state.setSubmitting value
  | .setSubmissionError error => state.setSubmissionError error
  | .clearSubmissionError => state.clearSubmissionError
  | .trimRecentResults maxCount => state.trimRecentResults maxCount

/-- The state after the actions, from the state the store is created with. -/
def reached (actions : List Action) : BetState := actions.foldl step {}

def Action.added : Action → Option Text
  | addPendingBet bet => some bet.betId
  | _ => none

/-- The bets that were added as pending. -/
def addedIds (actions : List Action) : List Text := actions.filterMap Action.added

/-- No bet is lost or there twice. -/
structure Sound (actions : List Action) : Prop where
  oneCollection : ∀ betId, betId ∈ (reached actions).pendingBets.keys →
    betId ∉ (reached actions).recentIds
  once : (reached actions).recentIds.Nodup
  wasPending : ∀ betId ∈ (reached actions).recentIds, betId ∈ addedIds actions

/-- What the store would have to check before the action. -/
def Allowed (before : List Action) : Action → Prop
  | .addPendingBet bet => bet.betId ∉ (reached before).recentIds
  | .resolvePendingBet betId _ _ =>
      betId ∉ (reached before).recentIds ∧ betId ∈ addedIds before
  | _ => True

theorem reached_append (before : List Action) (action : Action) :
    reached (before ++ [action]) = step (reached before) action := by
  rw [reached, List.foldl_append]
  rfl

theorem addedIds_append (before : List Action) (action : Action) :
    addedIds (before ++ [action]) = addedIds before ++ action.added.toList := by
  rw [addedIds, List.filterMap_append, addedIds]
  cases h : action.added with
  | none => rw [List.filterMap_cons_none h]; rfl
  | some betId => rw [List.filterMap_cons_some h]; rfl

variable {before : List Action} {action : Action}

/-- An action that adds nothing to either collection. -/
theorem Sound.of_subset (h : Sound before)
    (pending : (step (reached before) action).pendingBets.keys ⊆
      (reached before).pendingBets.keys)
    (recent : (step (reached before) action).recentIds.Sublist (reached before).recentIds) :
    Sound (before ++ [action]) := by
  refine ⟨?_, ?_, ?_⟩
  · intro betId waits resolved
    rw [reached_append] at waits resolved
    exact h.oneCollection betId (pending waits) (recent.subset resolved)
  · rw [reached_append]
    exact recent.nodup h.once
  · intro betId resolved
    rw [reached_append] at resolved
    rw [addedIds_append]
    exact List.mem_append_left _ (h.wasPending betId (recent.subset resolved))

theorem Sound.addPendingBet_iff (h : Sound before) (bet : PendingBet) :
    Sound (before ++ [.addPendingBet bet]) ↔ bet.betId ∉ (reached before).recentIds := by
  constructor
  · intro after
    have waits := after.oneCollection bet.betId
    rw [reached_append] at waits
    exact waits (BetMap.mem_keys_set.mpr (Or.inl rfl))
  · intro fresh
    refine ⟨?_, ?_, ?_⟩
    · intro betId waits
      rw [reached_append] at waits ⊢
      cases BetMap.mem_keys_set.mp waits with
      | inl new =>
          rw [new]
          exact fresh
      | inr old => exact h.oneCollection betId old
    · rw [reached_append]
      exact h.once
    · intro betId resolved
      rw [reached_append] at resolved
      rw [addedIds_append]
      exact List.mem_append_left _ (h.wasPending betId resolved)

theorem Sound.resolvePendingBet_iff (h : Sound before) (betId : Text) (record : BetRecord)
    (same : record.betId = betId) :
    Sound (before ++ [.resolvePendingBet betId record same]) ↔
      betId ∉ (reached before).recentIds ∧ betId ∈ addedIds before := by
  have ids : (step (reached before) (.resolvePendingBet betId record same)).recentIds =
      betId :: (reached before).recentIds := congrArg (· :: (reached before).recentIds) same
  have added : addedIds (before ++ [.resolvePendingBet betId record same]) = addedIds before := by
    rw [addedIds_append]
    exact List.append_nil _
  constructor
  · intro after
    have once := after.once
    have known := after.wasPending betId
    rw [reached_append, ids] at once known
    rw [added] at known
    exact ⟨(List.nodup_cons.mp once).1, known List.mem_cons_self⟩
  · rintro ⟨fresh, known⟩
    refine ⟨?_, ?_, ?_⟩
    · intro other waits
      rw [reached_append] at waits ⊢
      obtain ⟨differ, old⟩ := BetMap.mem_keys_delete.mp waits
      rw [ids, List.mem_cons, not_or]
      exact ⟨differ, h.oneCollection other old⟩
    · rw [reached_append, ids]
      exact List.nodup_cons.mpr ⟨fresh, h.once⟩
    · intro other resolved
      rw [reached_append, ids] at resolved
      rw [added]
      cases List.mem_cons.mp resolved with
      | inl new =>
          rw [new]
          exact known
      | inr old => exact h.wasPending other old

/-- One action keeps the store sound exactly if it is allowed. -/
theorem Sound.append_iff (h : Sound before) (action : Action) :
    Sound (before ++ [action]) ↔ Allowed before action := by
  cases action with
  | addPendingBet bet => exact h.addPendingBet_iff bet
  | resolvePendingBet betId record same => exact h.resolvePendingBet_iff betId record same
  | failPendingBet betId reason =>
      have fewer : (step (reached before) (.failPendingBet betId reason)).pendingBets.keys ⊆
          (reached before).pendingBets.keys := fun _ member =>
        (BetMap.mem_keys_delete.mp member).2
      exact ⟨fun _ => trivial, fun _ => h.of_subset fewer (List.Sublist.refl _)⟩
  | setSubmitting value =>
      exact ⟨fun _ => trivial, fun _ => h.of_subset (fun _ => id) (List.Sublist.refl _)⟩
  | setSubmissionError error =>
      exact ⟨fun _ => trivial, fun _ => h.of_subset (fun _ => id) (List.Sublist.refl _)⟩
  | clearSubmissionError =>
      exact ⟨fun _ => trivial, fun _ => h.of_subset (fun _ => id) (List.Sublist.refl _)⟩
  | trimRecentResults maxCount =>
      have fewer : (step (reached before) (.trimRecentResults maxCount)).recentIds.Sublist
          (reached before).recentIds :=
        ((List.take_sublist _ _).trans (List.drop_sublist _ _)).map BetRecord.betId
      exact ⟨fun _ => trivial, fun _ => h.of_subset (fun _ => id) fewer⟩

theorem Sound.initial : Sound [] := by
  refine ⟨?_, List.nodup_nil, ?_⟩
  · intro betId waits
    cases waits
  · intro betId resolved
    cases resolved

/-- A run keeps the store sound all the way exactly if each of its actions is allowed in the
state it finds. -/
theorem bet_store_sound_iff (actions : List Action) :
    (∀ before after, actions = before ++ after → Sound before) ↔
      ∀ before action after, actions = before ++ action :: after → Allowed before action := by
  constructor
  · rintro sound before action after rfl
    have next : Sound (before ++ [action]) := sound (before ++ [action]) after (by
      rw [List.append_assoc]
      rfl)
    exact ((sound before (action :: after) rfl).append_iff action).mp next
  · intro allowed before
    induction before using List.reverseRecOn with
    | nil => exact fun _ _ => Sound.initial
    | append_singleton before action ih =>
        rintro after rfl
        rw [List.append_assoc] at ih allowed
        have here : Sound before := ih (action :: after) rfl
        exact (here.append_iff action).mpr (allowed before action after rfl)

def lateBet : PendingBet := ⟨['b'], ['t'], .coinflip, ['1'], ['1'], "Heads".toList, 0⟩

def lateRecord : BetRecord :=
  ⟨['b'], ['t'], [], [], .coinflip, ⟨.coinflip, .heads⟩, ['1'], .win, some ⟨.coinflip, .heads⟩,
    ['1'], 97 / 100, [], 0, none⟩

/-- A confirmation that is delivered twice is there twice. -/
theorem confirmation_twice_not_sound : ¬ ∀ actions, Sound actions := by
  intro h
  have sound := h [.addPendingBet lateBet, .resolvePendingBet ['b'] lateRecord rfl,
    .resolvePendingBet ['b'] lateRecord rfl]
  have twice : ¬ ([['b'], ['b']] : List Text).Nodup := by decide
  exact twice sound.once

end DuckPools.Frontend.PendingBets
