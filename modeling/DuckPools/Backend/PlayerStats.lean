import DuckPools.Backend.BetStore
import DuckPools.Language.Runs
import Mathlib.Algebra.BigOperators.Group.List.Basic
import Mathlib.Data.Rat.Defs

/-!
# Statistics of a player: `get_player_stats` of `backend/game_routes.py`

The current streak is counted from the last bet backwards, the longest streaks in one pass
forwards; bets without an outcome are skipped by both. Both loops compute what they are
meant to. The result reports the first one, and in place of the other two the variables they
were to be stored in, which keep the value zero.
-/

namespace DuckPools.Backend

open Runs

/-- A bet outcome that counts, in the words of the records. -/
def win : Text := "win".toList

def loss : Text := "loss".toList

structure PlayerStats (F : Type) where
  address : Text
  totalBets : Nat
  wins : Nat
  losses : Nat
  pending : Nat
  winRate : F
  totalWagered : Text
  totalWon : Text
  totalLost : Text
  netPnL : Text
  biggestWin : Text
  currentStreak : Int
  longestWinStreak : Nat
  longestLossStreak : Nat
  compPoints : Int
  compTier : Text

/-- `outcome in ("win", "loss")` -/
def BetRecord.isDecided (b : BetRecord) : Bool := b.outcome == win || b.outcome == loss

/-- The first loop, on the bets from the last one on: `streak_type` and `streak`. -/
def countStreak : List BetRecord → Option Text → Nat → Option Text × Nat
  | [], streakType, streak => (streakType, streak)
  | b :: rest, streakType, streak =>
      if b.isDecided then
        match streakType with
        | none => countStreak rest (some b.outcome) 1
        | some type =>
            if b.outcome = type then countStreak rest (some type) (streak + 1)
            else (some type, streak)
      else countStreak rest streakType streak

def currentStreak (playerBets : List BetRecord) : Int :=
  let (streakType, streak) := countStreak playerBets.reverse none 0
  if streakType = some win then streak else -streak

/-- The variables of the second loop. -/
structure StreakAnalysis where
  ws : Nat
  ls : Nat
  cur : Nat
  curType : Option Text

/-- The end of a run. -/
def StreakAnalysis.flush (s : StreakAnalysis) : StreakAnalysis :=
  if s.curType = some win then { s with ws := max s.ws s.cur }
  else if s.curType = some loss then { s with ls := max s.ls s.cur }
  else s

def StreakAnalysis.next (s : StreakAnalysis) (b : BetRecord) : StreakAnalysis :=
  if b.isDecided then
    if s.curType = some b.outcome then { s with cur := s.cur + 1 }
    else { s.flush with curType := some b.outcome, cur := 1 }
  else s

/-- `ws` and `ls` after the second loop. -/
def fullStreakAnalysis (playerBets : List BetRecord) : Nat × Nat :=
  let s := (playerBets.foldl StreakAnalysis.next ⟨0, 0, 0, none⟩).flush
  (s.ws, s.ls)

def compTier (compPoints : Int) : Text :=
  if compPoints ≥ 10000 then "Diamond".toList
  else if compPoints ≥ 1000 then "Gold".toList
  else if compPoints ≥ 100 then "Silver".toList
  else "Bronze".toList

/-- `[int(f(b)) for b in bets]`; `none` is the `ValueError` of one of them. -/
def readAll (f : BetRecord → Text) (bets : List BetRecord) : Option (List Int) :=
  bets.mapM fun b => Py.int 10 (f b)

/-- `[b for b in _bets if b["playerAddress"] == address]` -/
def playerBets (store : Store) (address : Text) : List BetRecord :=
  store.bets.filter fun b => b.playerAddress == address

/-- `F` are the floating point numbers. -/
def getPlayerStats {F : Type} [NatCast F] [Div F] [Mul F] (store : Store) (address : Text) :
    Option (PlayerStats F) := do
  let playerBets := playerBets store address
  let won := playerBets.filter fun b => b.outcome == win
  let lost := playerBets.filter fun b => b.outcome == loss
  let pending := playerBets.filter fun b => b.outcome == "pending".toList
  let total := playerBets.length
  let winRate : F :=
    if total > 0 then (won.length : F) / (total : F) * ((100 : Nat) : F) else ((0 : Nat) : F)
  let totalWagered := (← readAll BetRecord.betAmount playerBets).sum
  let totalWon := (← readAll BetRecord.payout won).sum
  let totalLost := (← readAll BetRecord.betAmount lost).sum
  let netPnl := totalWon - totalLost
  let biggestWin := (← readAll BetRecord.payout won).max?.getD 0
  let longestWin := 0
  let longestLoss := 0
  -- what the second loop finds is not read again
  let (_ws, _ls) := fullStreakAnalysis playerBets
  let compPoints := totalWagered / 10000000
  return {
    address
    totalBets := total
    wins := won.length
    losses := lost.length
    pending := pending.length
    winRate
    totalWagered := Py.str totalWagered
    totalWon := Py.str totalWon
    totalLost := Py.str totalLost
    netPnL := Py.str netPnl
    biggestWin := Py.str biggestWin
    currentStreak := currentStreak playerBets
    longestWinStreak := longestWin
    longestLossStreak := longestLoss
    compPoints
    compTier := compTier compPoints }

/-- The outcomes of the bets that have one, in the order of the bets. -/
def decided (bets : List BetRecord) : List Text :=
  (bets.filter BetRecord.isDecided).map BetRecord.outcome

/-- `streak` is the length of the last run, with the sign of its outcome. -/
def IsCurrentStreak (outcomes : List Text) (streak : Int) : Prop :=
  ∃ k : Nat, LastRun outcomes k ∧
    streak = if outcomes.getLast? = some win then (k : Int) else -k

structure StreaksCorrect {F : Type} (outcomes : List Text) (stats : PlayerStats F) : Prop where
  current : IsCurrentStreak outcomes stats.currentStreak
  longestWin : Longest win outcomes stats.longestWinStreak
  longestLoss : Longest loss outcomes stats.longestLossStreak

theorem decided_cons (b : BetRecord) (bets : List BetRecord) :
    decided (b :: bets) = if b.isDecided then b.outcome :: decided bets else decided bets := by
  rw [decided, List.filter_cons]
  split <;> rfl

theorem mem_decided {outcome : Text} {bets : List BetRecord} (h : outcome ∈ decided bets) :
    outcome = win ∨ outcome = loss := by
  obtain ⟨b, hb, rfl⟩ := List.mem_map.mp h
  simpa [BetRecord.isDecided] using (List.mem_filter.mp hb).2

theorem decided_reverse (bets : List BetRecord) :
    decided bets.reverse = (decided bets).reverse := by
  rw [decided, List.filter_reverse, List.map_reverse, decided]

section Backwards

/-- Inside the run the loop counts until the first other outcome. -/
theorem countStreak_some (bets : List BetRecord) (type : Text) (streak : Nat) :
    countStreak bets (some type) streak =
      (some type, streak + ((decided bets).takeWhile fun x => decide (x = type)).length) := by
  induction bets generalizing streak with
  | nil => rfl
  | cons b bets ih =>
      rw [countStreak, decided_cons]
      by_cases hb : b.isDecided
      · rw [if_pos hb, if_pos hb]
        by_cases same : b.outcome = type
        · rw [if_pos same, ih, List.takeWhile_cons, if_pos (decide_eq_true same),
            List.length_cons, Nat.add_assoc, Nat.add_comm 1]
        · rw [if_neg same, List.takeWhile_cons, if_neg (by simpa using same)]
          rfl
      · rw [if_neg hb, if_neg hb, ih]

/-- The first outcome it meets is the one it counts. -/
theorem countStreak_none (bets : List BetRecord) :
    countStreak bets none 0 =
      match decided bets with
      | [] => (none, 0)
      | type :: rest => (some type, 1 + (rest.takeWhile fun x => decide (x = type)).length) := by
  induction bets with
  | nil => rfl
  | cons b bets ih =>
      rw [countStreak, decided_cons]
      by_cases hb : b.isDecided
      · rw [if_pos hb, if_pos hb]
        exact countStreak_some bets b.outcome 1
      · rw [if_neg hb, if_neg hb, ih]

theorem currentStreak_correct (bets : List BetRecord) :
    IsCurrentStreak (decided bets) (currentStreak bets) := by
  rw [currentStreak, countStreak_none, decided_reverse]
  rcases List.eq_nil_or_concat (decided bets) with none | ⟨front, type, some⟩
  · rw [none]
    exact ⟨0, LastRun.nil, rfl⟩
  · rw [some, List.concat_eq_append, List.reverse_append]
    refine ⟨_, LastRun.concat type front, ?_⟩
    have length : 1 + ((front.reverse).takeWhile fun x => decide (x = type)).length =
        trailing type (front ++ [type]) := by
      rw [trailing_concat_self, trailing, List.rtakeWhile, List.length_reverse, Nat.add_comm]
    rw [List.getLast?_concat, ← length]
    rfl

end Backwards

section Forwards

/-- The longest streak of an outcome so far. -/
def StreakAnalysis.best (s : StreakAnalysis) (outcome : Text) : Nat :=
  if outcome = win then s.ws else s.ls

/-- The state after bets with these outcomes: the last run is still open. -/
structure Tracks (s : StreakAnalysis) (outcomes : List Text) : Prop where
  last : s.curType = outcomes.getLast?
  run : ∀ type, s.curType = some type → s.cur = trailing type outcomes
  longest : ∀ outcome, outcome = win ∨ outcome = loss →
    Longest outcome outcomes (s.flush.best outcome)

variable {s : StreakAnalysis} {outcomes : List Text}

theorem flush_best (s : StreakAnalysis) {outcome : Text} (h : outcome = win ∨ outcome = loss) :
    s.flush.best outcome =
      if s.curType = some outcome then max (s.best outcome) s.cur else s.best outcome := by
  have differ : loss ≠ win := by decide
  cases h with
  | inl h =>
      subst h
      rw [StreakAnalysis.flush, StreakAnalysis.best, StreakAnalysis.best, if_pos rfl, if_pos rfl]
      split_ifs <;> rfl
  | inr h =>
      subst h
      rw [StreakAnalysis.flush, StreakAnalysis.best, StreakAnalysis.best, if_neg differ,
        if_neg differ]
      by_cases won : s.curType = some win
      · rw [if_pos won, if_neg (by rw [won]; exact fun h => differ (Option.some.inj h).symm)]
      · rw [if_neg won]
        split_ifs <;> rfl

theorem trailing_eq_zero {type : Text} (h : outcomes.getLast? ≠ some type) :
    trailing type outcomes = 0 := by
  rcases List.eq_nil_or_concat outcomes with none | ⟨front, last, some⟩
  · rw [none, trailing_nil]
  · rw [some, List.concat_eq_append] at h ⊢
    apply trailing_concat_of_ne
    rintro rfl
    exact h List.getLast?_concat

/-- One more decided bet. -/
theorem Tracks.next (h : Tracks s outcomes) {b : BetRecord} (hb : b.isDecided) :
    Tracks (s.next b) (outcomes ++ [b.outcome]) := by
  rw [StreakAnalysis.next, if_pos hb]
  by_cases same : s.curType = some b.outcome
  · have counted := h.run _ same
    rw [if_pos same]
    refine ⟨same.trans List.getLast?_concat.symm, ?_, ?_⟩
    · intro type htype
      obtain rfl : b.outcome = type := Option.some.inj (same.symm.trans htype)
      rw [trailing_concat_self, ← counted]
    · intro outcome houtcome
      have before := h.longest outcome houtcome
      rw [flush_best _ houtcome] at before ⊢
      by_cases continued : b.outcome = outcome
      · subst continued
        rw [if_pos same] at before ⊢
        have after := before.concat_self
        rw [← counted, Nat.max_assoc, Nat.max_eq_right (Nat.le_succ s.cur)] at after
        exact after
      · have other : s.curType ≠ some outcome := by
          rw [same]
          exact fun h => continued (Option.some.inj h)
        rw [if_neg other] at before ⊢
        exact before.concat_of_ne continued
  · rw [if_neg same]
    have fresh : trailing b.outcome outcomes = 0 := trailing_eq_zero (h.last ▸ same)
    refine ⟨List.getLast?_concat.symm, ?_, ?_⟩
    · rintro type ⟨⟩
      rw [trailing_concat_self, fresh]
    · intro outcome houtcome
      have before := h.longest outcome houtcome
      rw [flush_best _ houtcome]
      by_cases started : b.outcome = outcome
      · subst started
        have after := before.concat_self
        rw [fresh] at after
        rw [if_pos rfl]
        exact after
      · rw [if_neg fun h => started (Option.some.inj h)]
        exact before.concat_of_ne started

theorem Tracks.run_bets (h : Tracks s outcomes) (bets : List BetRecord) :
    Tracks (bets.foldl StreakAnalysis.next s) (outcomes ++ decided bets) := by
  induction bets generalizing s outcomes with
  | nil =>
      rw [List.foldl_nil, decided, List.filter_nil, List.map_nil, List.append_nil]
      exact h
  | cons b bets ih =>
      rw [List.foldl_cons, decided_cons]
      by_cases hb : b.isDecided
      · rw [if_pos hb, List.append_cons]
        exact ih (h.next hb)
      · rw [if_neg hb, StreakAnalysis.next, if_neg hb]
        exact ih h

theorem fullStreakAnalysis_longest (bets : List BetRecord) :
    Longest win (decided bets) (fullStreakAnalysis bets).1 ∧
      Longest loss (decided bets) (fullStreakAnalysis bets).2 := by
  have start : Tracks ⟨0, 0, 0, none⟩ [] := by
    refine ⟨rfl, ?_, ?_⟩
    · rintro type ⟨⟩
    · rintro outcome (rfl | rfl)
      · exact Longest.nil win
      · exact Longest.nil loss
  have tracks := start.run_bets bets
  rw [List.nil_append] at tracks
  exact ⟨tracks.longest win (Or.inl rfl), tracks.longest loss (Or.inr rfl)⟩

end Forwards

/-- The amounts are texts that `int` reads, as in every record that `place_bet` appends. -/
def BetRecord.Readable (b : BetRecord) : Prop :=
  (∃ n, Py.int 10 b.betAmount = some n) ∧ ∃ n, Py.int 10 b.payout = some n

theorem readAll_of_forall {f : BetRecord → Text} {bets : List BetRecord}
    (h : ∀ b ∈ bets, ∃ n, Py.int 10 (f b) = some n) : ∃ ns, readAll f bets = some ns := by
  induction bets with
  | nil => exact ⟨[], rfl⟩
  | cons b bets ih =>
      obtain ⟨n, hn⟩ := h b List.mem_cons_self
      obtain ⟨ns, hns⟩ := ih fun c hc => h c (List.mem_cons_of_mem b hc)
      refine ⟨n :: ns, ?_⟩
      rw [readAll] at hns ⊢
      rw [List.mapM_cons, hn, hns]
      rfl

variable {F : Type} [NatCast F] [Div F] [Mul F]

/-- The endpoint answers, with the streak of the first loop and two zeros. -/
theorem getPlayerStats_of_readable {store : Store} {address : Text}
    (readable : ∀ b ∈ playerBets store address, b.Readable) :
    ∃ stats : PlayerStats F, getPlayerStats store address = some stats ∧
      stats.currentStreak = currentStreak (playerBets store address) ∧
      stats.longestWinStreak = 0 ∧ stats.longestLossStreak = 0 := by
  obtain ⟨wagered, hwagered⟩ := readAll_of_forall fun b hb => (readable b hb).1
  obtain ⟨won, hwon⟩ := @readAll_of_forall BetRecord.payout
    ((playerBets store address).filter fun b => b.outcome == win)
    fun b hb => (readable b (List.mem_filter.mp hb).1).2
  obtain ⟨lost, hlost⟩ := @readAll_of_forall BetRecord.betAmount
    ((playerBets store address).filter fun b => b.outcome == loss)
    fun b hb => (readable b (List.mem_filter.mp hb).1).1
  rw [getPlayerStats, hwagered, hwon, hlost]
  exact ⟨_, rfl, rfl, rfl, rfl⟩

/-- The current streak is right, and so are the lengths that the second loop finds. The
lengths that are returned are right exactly for a player none of whose bets is decided. -/
theorem playerStats_streaks_iff {store : Store} {address : Text}
    (readable : ∀ b ∈ playerBets store address, b.Readable) :
    ∃ stats : PlayerStats F, getPlayerStats store address = some stats ∧
      IsCurrentStreak (decided (playerBets store address)) stats.currentStreak ∧
      Longest win (decided (playerBets store address))
        (fullStreakAnalysis (playerBets store address)).1 ∧
      Longest loss (decided (playerBets store address))
        (fullStreakAnalysis (playerBets store address)).2 ∧
      (StreaksCorrect (decided (playerBets store address)) stats ↔
        ∀ b ∈ playerBets store address, b.outcome ≠ win ∧ b.outcome ≠ loss) := by
  obtain ⟨stats, answered, current, longestWin, longestLoss⟩ :=
    getPlayerStats_of_readable (F := F) readable
  have streak := currentStreak_correct (playerBets store address)
  rw [← current] at streak
  obtain ⟨won, lost⟩ := fullStreakAnalysis_longest (playerBets store address)
  have undecided : (∀ b ∈ playerBets store address, b.outcome ≠ win ∧ b.outcome ≠ loss) ↔
      decided (playerBets store address) = [] := by
    rw [decided, List.map_eq_nil_iff, List.filter_eq_nil_iff]
    apply forall₂_congr
    intro b _
    rw [BetRecord.isDecided, Bool.or_eq_true, beq_iff_eq, beq_iff_eq, not_or]
  refine ⟨stats, answered, streak, won, lost, ?_⟩
  rw [undecided]
  constructor
  · intro correct
    have noWin := correct.longestWin.eq_zero_iff.mp longestWin
    have noLoss := correct.longestLoss.eq_zero_iff.mp longestLoss
    apply List.eq_nil_iff_forall_not_mem.mpr
    intro outcome found
    cases mem_decided found with
    | inl h => exact noWin (h ▸ found)
    | inr h => exact noLoss (h ▸ found)
  · intro none
    refine ⟨streak, ?_, ?_⟩
    · rw [none, longestWin]
      exact Longest.nil win
    · rw [none, longestLoss]
      exact Longest.nil loss

/-- One bet that was won. -/
def wonStore : Store where
  bets := [{ sampleRequest.bet [] with outcome := win, payout := "1940000".toList }]
  poolStats := Store.initial.poolStats

theorem wonStore_readable : ∀ b ∈ playerBets wonStore sampleRequest.address, b.Readable := by
  intro b hb
  obtain rfl : b = { sampleRequest.bet [] with outcome := win, payout := "1940000".toList } :=
    List.mem_singleton.mp (List.mem_filter.mp hb).1
  exact ⟨⟨1_000_000, rfl⟩, ⟨1_940_000, rfl⟩⟩

theorem playerStats_streaks_iff_example :
    ∃ stats : PlayerStats ℚ, getPlayerStats wonStore sampleRequest.address = some stats ∧
      ¬ StreaksCorrect (decided (playerBets wonStore sampleRequest.address)) stats := by
  obtain ⟨stats, answered, _, _, _, correct⟩ :=
    playerStats_streaks_iff (F := ℚ) wonStore_readable
  refine ⟨stats, answered, ?_⟩
  intro h
  exact (correct.mp h _ List.mem_cons_self).1 rfl

/-- A player who won the only bet has a longest winning streak of zero. -/
theorem longestWinStreak_not_correct :
    ¬ ∀ (store : Store) (address : Text) (stats : PlayerStats ℚ),
      (∀ b ∈ playerBets store address, b.outcome ∈ [win, loss, "pending".toList]) →
      getPlayerStats store address = some stats →
        StreaksCorrect (decided (playerBets store address)) stats := by
  intro h
  obtain ⟨stats, answered, _, longestWin, _⟩ :=
    getPlayerStats_of_readable (F := ℚ) wonStore_readable
  have outcomes : ∀ b ∈ playerBets wonStore sampleRequest.address,
      b.outcome ∈ [win, loss, "pending".toList] := by
    intro b hb
    rw [List.mem_singleton.mp (List.mem_filter.mp hb).1]
    exact List.mem_cons_self
  have correct := h wonStore sampleRequest.address stats outcomes answered
  exact correct.longestWin.eq_zero_iff.mp longestWin List.mem_cons_self

end DuckPools.Backend
