import DuckPools.Backend.GameRoutes
import Mathlib.Algebra.GroupWithZero.Nat
import Mathlib.Data.List.Dedup
import Mathlib.Data.List.Perm.Basic

/-!
# Runs of the bet store

The list of bets, the counter and the fee total move together along every sequence of
requests, and the histories split the list by address. Nothing compares the bet id of a
request with the stored ones: a replayed request is recorded again, so the ids in the
store are distinct exactly if the accepted requests brought distinct ids.
-/

namespace DuckPools.Backend

/-- Classes of a list by a key, put one after the other, are a rearrangement of it. -/
theorem flatMap_filter_perm {α κ : Type} [BEq κ] [LawfulBEq κ] (key : α → κ) :
    ∀ {keys : List κ} {l : List α}, keys.Nodup → (∀ a ∈ l, key a ∈ keys) →
      (keys.flatMap fun k => l.filter fun a => key a == k).Perm l
  | [], l, _, complete => by
      cases l with
      | nil => exact List.Perm.nil
      | cons a l => exact absurd (complete a List.mem_cons_self) List.not_mem_nil
  | k :: keys, l, nodup, complete => by
      obtain ⟨fresh, nodup⟩ := List.nodup_cons.mp nodup
      have others : ∀ a ∈ l.filter (fun a => !(key a == k)), key a ∈ keys := by
        intro a ha
        obtain ⟨hmem, hne⟩ := List.mem_filter.mp ha
        cases List.mem_cons.mp (complete a hmem) with
        | inl heq => simp [heq] at hne
        | inr hin => exact hin
      have same : (keys.flatMap fun k' => l.filter fun a => key a == k') =
          keys.flatMap fun k' => (l.filter fun a => !(key a == k)).filter fun a => key a == k' := by
        apply List.flatMap_congr
        intro k' hk'
        rw [List.filter_filter]
        apply List.filter_congr
        intro a _
        by_cases h : key a = k'
        · have hne : k' ≠ k := fun hk => fresh (hk ▸ hk')
          simp [h, hne]
        · simp [h]
      rw [List.flatMap_cons, same]
      exact ((flatMap_filter_perm key nodup others).append_left _).trans
        (List.filter_append_perm _ l)

variable {lower : Text → Text}

/-- Three percent of each amount, rounded down. -/
def houseFees (amounts : List Nat) : Nat := (amounts.map fun amount => 3 * amount / 100).sum

/-- The state of the store that its requests preserve. -/
structure Accounted (store : Store) : Prop where
  counted : store.poolStats.totalBets = store.bets.length
  fees : ∃ amounts : List Nat,
    (store.bets.map fun b => Py.int 10 b.betAmount) = amounts.map (fun n : Nat => some (n : Int)) ∧
      store.poolStats.totalFees = Py.str (houseFees amounts)

theorem Accounted.initial : Accounted Store.initial := ⟨rfl, [], rfl, rfl⟩

/-- One request, accepted or not. -/
theorem Accounted.handlePlaceBet {store : Store} (h : Accounted store) (now : Text)
    (body : Body) : Accounted (handlePlaceBet lower now body store).2 := by
  cases hvalid : body.validate lower with
  | error errors =>
      rw [handlePlaceBet_of_rejected hvalid]
      exact h
  | ok req =>
      obtain ⟨n, read, _, _⟩ := Body.amount_of_validate hvalid
      obtain ⟨amounts, hbets, hfees⟩ := h.fees
      obtain ⟨bets, count⟩ := placeBet_bets now req store
      have total : Py.int 10 store.poolStats.totalFees = some (houseFees amounts : Int) := by
        rw [hfees]
        exact Py.int_str _
      rw [handlePlaceBet_of_accepted hvalid]
      refine ⟨?_, amounts ++ [n], ?_, ?_⟩
      · rw [bets, count, h.counted, List.length_append]
        rfl
      · rw [bets, List.map_append, List.map_append, hbets]
        exact congrArg _ (congrArg (· :: []) read)
      · rw [placeBet_totalFees total read, houseFees, houseFees, List.map_append, List.sum_append]
        rfl

theorem handlePlaceBet_bets (now : Text) (body : Body) (store : Store) :
    (handlePlaceBet lower now body store).2.bets =
      store.bets ++ (placed lower (now, body)).toList := by
  cases hvalid : body.validate lower with
  | error errors =>
      rw [handlePlaceBet_of_rejected hvalid, placed, hvalid]
      exact (List.append_nil _).symm
  | ok req =>
      rw [handlePlaceBet_of_accepted hvalid, (placeBet_bets now req store).1, placed, hvalid]
      rfl

theorem Accounted.run {store : Store} (h : Accounted store) (requests : List (Text × Body)) :
    Accounted (store.run lower requests) := by
  induction requests generalizing store with
  | nil => exact h
  | cons request requests ih => exact ih (h.handlePlaceBet request.1 request.2)

/-- The accepted requests are stored in the order they came in. -/
theorem run_bets (requests : List (Text × Body)) (store : Store) :
    (store.run lower requests).bets = store.bets ++ requests.filterMap (placed lower) := by
  induction requests generalizing store with
  | nil => exact (List.append_nil _).symm
  | cons request requests ih =>
      have first := @handlePlaceBet_bets lower request.1 request.2 store
      rw [Store.run, List.foldl_cons, ← Store.run, ih, first, List.append_assoc]
      cases hplaced : placed lower request with
      | none => rw [List.filterMap_cons_none hplaced]; rfl
      | some bet => rw [List.filterMap_cons_some hplaced]; rfl

/-- The bets of one request sequence, in a store that started empty. -/
theorem run_initial_bets (requests : List (Text × Body)) :
    (Store.initial.run lower requests).bets = requests.filterMap (placed lower) :=
  run_bets requests Store.initial

theorem getHistory_perm (store : Store) :
    ((store.bets.map BetRecord.playerAddress).dedup.flatMap (getHistory store)).Perm
      store.bets := by
  have complete : ∀ bet ∈ store.bets,
      bet.playerAddress ∈ (store.bets.map BetRecord.playerAddress).dedup := by
    intro bet hbet
    exact List.mem_dedup.mpr (List.mem_map_of_mem hbet)
  exact flatMap_filter_perm BetRecord.playerAddress (List.nodup_dedup _) complete

/-- The accounting of the store after any sequence of requests: the counter, the fee total,
the order of the bets, requests without effect, and the histories as classes of the bets. -/
theorem store_accounting (lower : Text → Text) (requests : List (Text × Body)) :
    (Store.initial.run lower requests).poolStats.totalBets =
        (Store.initial.run lower requests).bets.length ∧
      (∃ amounts : List Nat,
        ((Store.initial.run lower requests).bets.map fun b => Py.int 10 b.betAmount) =
            amounts.map (fun n : Nat => some (n : Int)) ∧
          (Store.initial.run lower requests).poolStats.totalFees =
            Py.str ((amounts.map fun n : Nat => 3 * n / 100).sum : Nat)) ∧
      (∀ now body errors, body.validate lower = .error errors →
        (handlePlaceBet lower now body (Store.initial.run lower requests)).2 =
          Store.initial.run lower requests) ∧
      (Store.initial.run lower requests).bets = requests.filterMap (placed lower) ∧
      (∀ address,
        (getHistory (Store.initial.run lower requests) address).Sublist
            (Store.initial.run lower requests).bets ∧
          ∀ bet, bet ∈ getHistory (Store.initial.run lower requests) address ↔
            bet ∈ (Store.initial.run lower requests).bets ∧ bet.playerAddress = address) ∧
      (((Store.initial.run lower requests).bets.map BetRecord.playerAddress).dedup.flatMap
        (getHistory (Store.initial.run lower requests))).Perm
          (Store.initial.run lower requests).bets := by
  have accounted := @Accounted.run lower _ Accounted.initial requests
  refine ⟨accounted.counted, accounted.fees, ?_, run_initial_bets requests, ?_, getHistory_perm _⟩
  · intro now body errors h
    rw [handlePlaceBet_of_rejected h]
  · intro address
    refine ⟨List.filter_sublist, ?_⟩
    intro bet
    rw [getHistory, List.mem_filter, beq_iff_eq]

/-- The handler leaves the bets, the counter and the fee total as they were. -/
def Ignores (lower : Text → Text) (now : Text) (body : Body) (store : Store) : Prop :=
  (handlePlaceBet lower now body store).2.bets = store.bets ∧
    (handlePlaceBet lower now body store).2.poolStats.totalBets = store.poolStats.totalBets ∧
    (handlePlaceBet lower now body store).2.poolStats.totalFees = store.poolStats.totalFees

/-- The id that a request brings into the store, if it is accepted. -/
def acceptedBetId (lower : Text → Text) (request : Text × Body) : Option Text :=
  (placed lower request).map BetRecord.betId

theorem not_ignores_of_accepted {body : Body} {req : PlaceBetRequest}
    (h : body.validate lower = .ok req) (now : Text) (store : Store) :
    ¬ Ignores lower now body store := by
  intro ignored
  have bets := ignored.1
  rw [handlePlaceBet_of_accepted h, (placeBet_bets now req store).1] at bets
  exact absurd (List.append_right_eq_self.mp bets) (List.cons_ne_nil _ _)

/-- A replay is recorded in every store, and the ids in the store are distinct in every
state of a run exactly if the accepted requests of the run bring distinct ids. -/
theorem replay_recorded (lower : Text → Text) :
    (∀ (store : Store) (now : Text) (body : Body) (req : PlaceBetRequest),
      body.validate lower = .ok req → req.betId ∈ store.bets.map BetRecord.betId →
        ¬ Ignores lower now body store) ∧
    ∀ requests : List (Text × Body),
      (∀ front, front <+: requests →
        ((Store.initial.run lower front).bets.map BetRecord.betId).Nodup) ↔
        (requests.filterMap (acceptedBetId lower)).Nodup := by
  have stored : ∀ requests, (Store.initial.run lower requests).bets.map BetRecord.betId =
      requests.filterMap (acceptedBetId lower) := by
    intro requests
    rw [run_initial_bets, List.map_filterMap]
    rfl
  constructor
  · intro store now body req h _
    exact not_ignores_of_accepted h now store
  · intro requests
    constructor
    · intro h
      rw [← stored]
      exact h requests (List.prefix_refl requests)
    · intro h front hfront
      rw [stored]
      exact h.sublist (hfront.sublist.filterMap _)

/-- A request that passes validation. -/
def sampleRequest : PlaceBetRequest where
  address := "9hwHewPEKeSTPpVKPyJrQkzrXSDbNCpbPUYCBUDxPPhYsHwpAcA".toList
  amount := "1000000".toList
  choice := 0
  commitment := List.replicate 64 'a'
  betId := "bet-1".toList

theorem sampleRequest_validate : sampleRequest.validate Py.lower = .ok sampleRequest := by
  rfl

/-- Sent twice, it is stored twice, under one id. -/
theorem replay_not_ignored :
    ¬ ((∀ (store : Store) (now : Text) (body : Body) (req : PlaceBetRequest),
        body.validate Py.lower = .ok req → req.betId ∈ store.bets.map BetRecord.betId →
          Ignores Py.lower now body store) ∧
      ∀ requests : List (Text × Body),
        ((Store.initial.run Py.lower requests).bets.map BetRecord.betId).Nodup) := by
  rintro ⟨ignored, _⟩
  have valid : (Body.fields sampleRequest).validate Py.lower = .ok sampleRequest :=
    sampleRequest_validate
  refine not_ignores_of_accepted valid [] _ (ignored (placeBet [] sampleRequest .initial).2 []
    (.fields sampleRequest) sampleRequest valid ?_)
  rw [(placeBet_bets [] sampleRequest .initial).1]
  exact List.mem_cons_self

end DuckPools.Backend
