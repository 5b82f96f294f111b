import DuckPools.Backend.CompPoints
import Mathlib.Algebra.BigOperators.Ring.Finset

/-!
# Statistics without outcomes: `backend/game_routes.py` over whole runs

A bet enters the list pending, with a payout of zero, and no route changes it afterwards. So
whatever requests come in, the statistics of a player count pending bets and wagers, and
nothing is ever won or lost. Added up over the players they are the totals of the pool, the fees
up to what is lost in rounding them one by one.
-/

namespace DuckPools.Backend

structure BetRecord.IsPending (b : BetRecord) : Prop where
  outcome : b.outcome = "pending".toList
  payout : b.payout = "0".toList
  stored : b.Stored

/-- The number in `betAmount`. -/
def BetRecord.amount (b : BetRecord) : Nat := ((Py.int 10 b.betAmount).getD 0).toNat

/-- What the statistics show of a player with this many bets and wagers. -/
structure Undecided (stats : PlayerStats ℚ) (bets wagered : Nat) : Prop where
  totalBets : stats.totalBets = bets
  pending : stats.pending = bets
  wins : stats.wins = 0
  losses : stats.losses = 0
  winRate : stats.winRate = 0
  totalWagered : stats.totalWagered = Py.str wagered
  won : stats.totalWon = Py.str 0 ∧ stats.biggestWin = Py.str 0
  lost : stats.totalLost = Py.str 0 ∧ stats.netPnL = Py.str 0
  streak : stats.currentStreak = 0

theorem isPending_of_run (lower : Text → Text) (requests : List (Text × Body)) :
    ∀ b ∈ (Store.initial.run lower requests).bets, b.IsPending := by
  intro b member
  have stored := stored_of_run lower requests b member
  rw [run_initial_bets] at member
  obtain ⟨⟨now, body⟩, -, hplaced⟩ := List.mem_filterMap.mp member
  simp only [placed] at hplaced
  split at hplaced
  · next req _ =>
    obtain rfl := Option.some.inj hplaced
    exact ⟨rfl, rfl, stored⟩
  · cases hplaced

section Player

variable {bets : List BetRecord}

theorem int_betAmount {b : BetRecord} (h : b.Stored) : Py.int 10 b.betAmount = some b.amount := by
  obtain ⟨n, amount⟩ := h.1
  simp [BetRecord.amount, amount]

theorem readAll_betAmount (stored : ∀ b ∈ bets, b.Stored) :
    readAll BetRecord.betAmount bets = some (bets.map fun b => (b.amount : Int)) := by
  induction bets with
  | nil => rfl
  | cons b bets ih =>
      have rest := ih fun c hc => stored c (List.mem_cons_of_mem b hc)
      simp only [readAll] at rest ⊢
      simp [int_betAmount (stored b List.mem_cons_self), rest]

/-- Pending is none of the other outcomes. -/
theorem filter_outcome (pending : ∀ b ∈ bets, b.IsPending) {outcome : Text}
    (other : outcome ≠ "pending".toList) : (bets.filter fun b => b.outcome == outcome) = [] := by
  apply List.filter_eq_nil_iff.mpr
  intro b hb same
  exact other ((beq_iff_eq.mp same).symm.trans (pending b hb).outcome)

theorem filter_pending (pending : ∀ b ∈ bets, b.IsPending) :
    (bets.filter fun b => b.outcome == "pending".toList) = bets := by
  apply List.filter_eq_self.mpr
  intro b hb
  exact beq_iff_eq.mpr (pending b hb).outcome

theorem currentStreak_of_pending (pending : ∀ b ∈ bets, b.IsPending) : currentStreak bets = 0 := by
  have none_decided : decided bets = [] := by
    simp only [decided, List.map_eq_nil_iff, List.filter_eq_nil_iff]
    intro b hb
    rw [BetRecord.isDecided, (pending b hb).outcome]
    decide
  simp [currentStreak, countStreak_none, decided_reverse, none_decided]

theorem getPlayerStats_of_pending {store : Store} {address : Text}
    (pending : ∀ b ∈ playerBets store address, b.IsPending) :
    ∃ stats : PlayerStats ℚ, getPlayerStats store address = some stats ∧
      Undecided stats (playerBets store address).length
        ((playerBets store address).map BetRecord.amount).sum := by
  have amounts := readAll_betAmount fun b hb => (pending b hb).stored
  have won := @filter_outcome _ pending win (by decide)
  have lost := @filter_outcome _ pending loss (by decide)
  have sum : ((playerBets store address).map fun b => (b.amount : Int)).sum =
      (((playerBets store address).map BetRecord.amount).sum : Nat) := by
    rw [Nat.cast_list_sum, List.map_map]
    rfl
  rw [getPlayerStats, amounts, won, lost, filter_pending pending]
  refine ⟨_, rfl, rfl, rfl, rfl, rfl, ?_, ?_, ⟨rfl, rfl⟩, ⟨rfl, rfl⟩, ?_⟩
  · simp
  · exact congrArg Py.str sum
  · exact currentStreak_of_pending pending

end Player

section Totals

/-- Rounding down one by one loses less than one each. -/
theorem houseFees_bounds (amounts : List Nat) :
    100 * houseFees amounts ≤ 3 * amounts.sum ∧
      3 * amounts.sum ≤ 100 * houseFees amounts + 99 * amounts.length := by
  induction amounts with
  | nil => exact ⟨Nat.le_refl _, Nat.le_refl _⟩
  | cons n amounts ih =>
      simp only [houseFees, List.map_cons, List.sum_cons, List.length_cons] at ih ⊢
      omega

/-- The players of the store. -/
def players (store : Store) : List Text := (store.bets.map BetRecord.playerAddress).dedup

/-- What is counted for each player is counted once for each bet. -/
theorem sum_players (store : Store) (f : BetRecord → Nat) :
    ((players store).map fun a => ((playerBets store a).map f).sum).sum =
      (store.bets.map f).sum := by
  have together := ((getHistory_perm store).map f).sum_eq
  rw [← together, List.map_flatMap]
  have each (addresses : List Text) :
      (addresses.map fun a => ((playerBets store a).map f).sum).sum =
        (addresses.flatMap fun a => (getHistory store a).map f).sum := by
    induction addresses with
    | nil => rfl
    | cons a addresses ih =>
        rw [List.map_cons, List.sum_cons, List.flatMap_cons, List.sum_append, ih]
        rfl
  exact each _

theorem totalFees_of_run (lower : Text → Text) (requests : List (Text × Body)) :
    (Store.initial.run lower requests).poolStats.totalFees =
      Py.str (houseFees ((Store.initial.run lower requests).bets.map BetRecord.amount)) := by
  obtain ⟨amounts, read, fees⟩ := (@Accounted.run lower _ Accounted.initial requests).fees
  have same := congrArg (List.map fun n : Option Int => (n.getD 0).toNat) read
  simp only [List.map_map, Function.comp_def, Option.getD_some, Int.toNat_natCast,
    List.map_id'] at same
  rw [fees, ← same]
  rfl

end Totals

/-- Whatever is requested, no player ever wins or loses anything, and the statistics of the
players add up to the bets of the pool and to its fees, short of one nanoERG for each bet. -/
theorem stats_never_decided (lower : Text → Text) (requests : List (Text × Body)) :
    ∃ bets wagered : Text → Nat,
      (∀ address, ∃ stats, getPlayerStats (Store.initial.run lower requests) address = some stats ∧
        Undecided stats (bets address) (wagered address)) ∧
      ((players (Store.initial.run lower requests)).map bets).sum =
        (Store.initial.run lower requests).poolStats.totalBets ∧
      ∃ fees : Nat, (Store.initial.run lower requests).poolStats.totalFees = Py.str fees ∧
        100 * fees ≤ 3 * ((players (Store.initial.run lower requests)).map wagered).sum ∧
        3 * ((players (Store.initial.run lower requests)).map wagered).sum ≤
          100 * fees + 99 * (Store.initial.run lower requests).poolStats.totalBets := by
  have pending := isPending_of_run lower requests
  have counted := (@Accounted.run lower _ Accounted.initial requests).counted
  have fees := totalFees_of_run lower requests
  generalize Store.initial.run lower requests = store at pending counted fees
  have number : ((players store).map fun a => (playerBets store a).length).sum =
      store.bets.length := by
    simpa using sum_players store fun _ => 1
  obtain ⟨low, high⟩ := houseFees_bounds (store.bets.map BetRecord.amount)
  rw [List.length_map] at high
  refine ⟨fun a => (playerBets store a).length,
    fun a => ((playerBets store a).map BetRecord.amount).sum, ?_, number.trans counted.symm, _,
    fees, ?_, ?_⟩
  · intro address
    exact getPlayerStats_of_pending fun b hb => pending b (List.mem_filter.mp hb).1
  · rw [sum_players]
    exact low
  · rw [sum_players, counted]
    exact high

end DuckPools.Backend
