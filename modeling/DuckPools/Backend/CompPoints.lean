import DuckPools.Backend.PlayerStats
import DuckPools.Language.Doubles

/-!
# Comp points: `get_player_comp` of `backend/game_routes.py`

The tier is found by going up a table of thresholds, where the statistics of a player go down
a chain of comparisons. What is missing to the next tier is read from the same table.
-/

namespace DuckPools.Backend

structure CompPointsResponse where
  address : Text
  points : Int
  tier : Text
  tierProgress : ℚ
  nextTier : Text
  pointsToNextTier : Int
  totalEarned : Int
  benefits : List Text

def tierThresholds : List (Text × Int) :=
  [("Bronze".toList, 0), ("Silver".toList, 100), ("Gold".toList, 1000), ("Diamond".toList, 10000)]

def tierOrder : List Text :=
  ["Bronze".toList, "Silver".toList, "Gold".toList, "Diamond".toList]

def benefitsMap : List (Text × List Text) :=
  [("Bronze".toList, ["Basic access".toList]),
    ("Silver".toList, ["Reduced house edge".toList, "Priority support".toList]),
    ("Gold".toList, ["Further reduced edge".toList, "Exclusive tournaments".toList,
      "Dedicated support".toList]),
    ("Diamond".toList, ["Best house edge".toList, "VIP tournaments".toList,
      "Personal manager".toList, "Early access".toList])]

/-- The loop over the thresholds. -/
def currentTier (compPoints : Int) : Text :=
  tierThresholds.foldl
    (fun current entry => if compPoints ≥ entry.2 then entry.1 else current) "Bronze".toList

/-- `next_tier`, `points_to_next` and `progress`; `none` would be a `KeyError`. -/
def nextTierOf (compPoints : Int) (tier : Text) : Option (Text × Int × ℚ) :=
  let tierIdx := tierOrder.idxOf tier
  if tierIdx ≥ tierOrder.length - 1 then some ([], 0, 1)
  else do
    let nextTier ← tierOrder[tierIdx + 1]?
    let nextThreshold ← tierThresholds.lookup nextTier
    let currentThreshold ← tierThresholds.lookup tier
    return (nextTier, nextThreshold - compPoints,
      Doubles.div (compPoints - currentThreshold) (max (nextThreshold - currentThreshold) 1))

def getPlayerComp (store : Store) (address : Text) : Option CompPointsResponse := do
  let playerBets := playerBets store address
  let totalWagered := (← readAll BetRecord.betAmount playerBets).sum
  let compPoints := totalWagered / 10000000
  let tier := currentTier compPoints
  let (nextTier, pointsToNext, progress) ← nextTierOf compPoints tier
  return {
    address
    points := compPoints
    tier
    tierProgress := Doubles.roundDigits progress 4
    nextTier
    pointsToNextTier := pointsToNext
    totalEarned := compPoints
    benefits := (benefitsMap.lookup tier).getD [] }

/-- The tier of the index `i`, with the points it starts at and ends before. -/
inductive TierAt : Int → Nat → Text → Prop
  | bronze {p : Int} (below : p < 100) : TierAt p 0 "Bronze".toList
  | silver {p : Int} (reached : 100 ≤ p) (below : p < 1000) : TierAt p 1 "Silver".toList
  | gold {p : Int} (reached : 1000 ≤ p) (below : p < 10000) : TierAt p 2 "Gold".toList
  | diamond {p : Int} (reached : 10000 ≤ p) : TierAt p 3 "Diamond".toList

theorem compTier_tierAt (p : Int) : ∃ i, TierAt p i (compTier p) := by
  rw [compTier]
  split_ifs with diamond gold silver
  · exact ⟨3, .diamond diamond⟩
  · exact ⟨2, .gold gold (by omega)⟩
  · exact ⟨1, .silver silver (by omega)⟩
  · exact ⟨0, .bronze (by omega)⟩

/-- Going up the table finds what going down the chain finds. -/
theorem currentTier_eq_compTier (p : Int) : currentTier p = compTier p := by
  show (if p ≥ 10000 then "Diamond".toList else if p ≥ 1000 then "Gold".toList
    else if p ≥ 100 then "Silver".toList
    else if p ≥ 0 then "Bronze".toList else "Bronze".toList) = compTier p
  rw [ite_self, compTier]

variable {p q : Int} {i j : Nat} {tier : Text}

theorem TierAt.idxOf (h : TierAt p i tier) : tierOrder.idxOf tier = i := by
  cases h <;> decide

/-- More points are never a lower tier. -/
theorem TierAt.mono {other : Text} (hp : TierAt p i tier) (hq : TierAt q j other) (le : p ≤ q) :
    i ≤ j := by
  cases hp <;> cases hq <;> omega

/-- What the response says about the next tier. -/
structure TierProgress (points : Int) (tier nextTier : Text) (pointsToNext : Int) (progress : ℚ) :
    Prop where
  toNext : tier ≠ "Diamond".toList → 0 < pointsToNext ∧
    tierOrder[tierOrder.idxOf tier + 1]? = some nextTier ∧
    tierThresholds.lookup nextTier = some (points + pointsToNext)
  unit : 0 ≤ progress ∧ progress ≤ 1

/-- Between two thresholds. -/
theorem TierProgress.between {current next : Int} {nextTier : Text}
    (reached : current ≤ p) (below : p < next)
    (order : tierOrder[tierOrder.idxOf tier + 1]? = some nextTier)
    (threshold : tierThresholds.lookup nextTier = some next) :
    TierProgress p tier nextTier (next - p)
      (Doubles.roundDigits (Doubles.div (p - current) (max (next - current) 1)) 4) := by
  obtain ⟨low, high⟩ := Doubles.div_mem_unit (show 0 ≤ p - current by omega)
    (show 0 < max (next - current) 1 by omega) (by omega)
  refine ⟨?_, Doubles.roundDigits_mem_unit low high 4⟩
  intro _
  have sum : p + (next - p) = next := by omega
  exact ⟨by omega, order, by rw [threshold, sum]⟩

/-- Points that are not negative have a next tier, or the last one. -/
theorem TierAt.progress (h : TierAt p i tier) (hp : 0 ≤ p) :
    ∃ nextTier pointsToNext progress,
      nextTierOf p tier = some (nextTier, pointsToNext, progress) ∧
        TierProgress p tier nextTier pointsToNext (Doubles.roundDigits progress 4) := by
  cases h with
  | bronze below => exact ⟨_, _, _, rfl, TierProgress.between hp below rfl rfl⟩
  | silver reached below => exact ⟨_, _, _, rfl, TierProgress.between reached below rfl rfl⟩
  | gold reached below => exact ⟨_, _, _, rfl, TierProgress.between reached below rfl rfl⟩
  | diamond reached =>
      exact ⟨_, _, _, rfl, fun other => absurd rfl other,
        Doubles.roundDigits_mem_unit zero_le_one (le_refl 1) 4⟩

/-- A bet as `place_bet` stores it: the wagered amount is not negative. -/
def BetRecord.Stored (b : BetRecord) : Prop :=
  (∃ n : Nat, Py.int 10 b.betAmount = some (n : Int)) ∧ ∃ n, Py.int 10 b.payout = some n

theorem BetRecord.Stored.readable {b : BetRecord} (h : b.Stored) : b.Readable := by
  obtain ⟨⟨n, amount⟩, payout⟩ := h
  exact ⟨⟨n, amount⟩, payout⟩

/-- Every run of requests fills the store with such bets. -/
theorem stored_of_run (lower : Text → Text) (requests : List (Text × Body)) :
    ∀ b ∈ (Store.initial.run lower requests).bets, b.Stored := by
  intro b member
  rw [run_initial_bets] at member
  obtain ⟨⟨now, body⟩, -, hplaced⟩ := List.mem_filterMap.mp member
  rw [placed] at hplaced
  cases hvalid : body.validate lower with
  | error errors =>
      rw [hvalid] at hplaced
      cases hplaced
  | ok req =>
      rw [hvalid] at hplaced
      obtain rfl := Option.some.inj hplaced
      obtain ⟨n, amount, -, -⟩ := Body.amount_of_validate hvalid
      exact ⟨⟨n, amount⟩, 0, rfl⟩

/-- What the bets of a player amount to. -/
def Wagered (store : Store) (address : Text) (total : Nat) : Prop :=
  ∃ amounts, readAll BetRecord.betAmount (playerBets store address) = some amounts ∧
    amounts.sum = total

section Wagers

variable {store : Store} {address : Text}

theorem readAll_concat {f : BetRecord → Text} {bets : List BetRecord} {ns : List Int}
    {b : BetRecord} {n : Int} (hbets : readAll f bets = some ns) (hb : Py.int 10 (f b) = some n) :
    readAll f (bets ++ [b]) = some (ns ++ [n]) := by
  rw [readAll] at hbets ⊢
  rw [List.mapM_append, hbets, List.mapM_cons, hb]
  rfl

theorem exists_wagered (stored : ∀ b ∈ store.bets, b.Stored) :
    ∃ total, Wagered store address total := by
  have amounts : ∀ b ∈ playerBets store address, b.Stored := fun b member =>
    stored b (List.mem_filter.mp member).1
  show ∃ total : Nat, ∃ ns,
    readAll BetRecord.betAmount (playerBets store address) = some ns ∧ ns.sum = total
  generalize playerBets store address = bets at amounts
  induction bets using List.reverseRecOn with
  | nil => exact ⟨0, [], rfl, rfl⟩
  | append_singleton bets b ih =>
      obtain ⟨total, ns, read, sum⟩ := ih fun c member => amounts c (List.mem_append_left _ member)
      obtain ⟨n, amount⟩ := (amounts b (List.mem_append_right _ List.mem_cons_self)).1
      refine ⟨total + n, ns ++ [(n : Int)], readAll_concat read amount, ?_⟩
      rw [List.sum_append, sum, List.sum_singleton, Int.natCast_add]

/-- A stored bet is added to the total of its player. -/
theorem Wagered.append {total : Nat} (h : Wagered store address total) {bet : BetRecord}
    (stored : bet.Stored) :
    ∃ after, total ≤ after ∧ Wagered { store with bets := store.bets ++ [bet] } address after := by
  obtain ⟨ns, read, sum⟩ := h
  obtain ⟨n, amount⟩ := stored.1
  by_cases own : bet.playerAddress == address
  · refine ⟨total + n, Nat.le_add_right _ _, ns ++ [(n : Int)], ?_, ?_⟩
    · rw [playerBets, List.filter_append, List.filter_cons, if_pos own, List.filter_nil]
      exact readAll_concat read amount
    · rw [List.sum_append, sum, List.sum_singleton, Int.natCast_add]
  · refine ⟨total, Nat.le_refl _, ns, ?_, sum⟩
    rw [playerBets, List.filter_append, List.filter_cons, if_neg own, List.filter_nil,
      List.append_nil]
    exact read

theorem getPlayerComp_of_wagered {total : Nat} (h : Wagered store address total) :
    ∃ comp, getPlayerComp store address = some comp ∧ comp.points = (total / 10000000 : Nat) ∧
      comp.tier = compTier comp.points ∧
      TierProgress comp.points comp.tier comp.nextTier comp.pointsToNextTier comp.tierProgress := by
  obtain ⟨ns, read, sum⟩ := h
  obtain ⟨i, tier⟩ := compTier_tierAt (total / 10000000 : Nat)
  obtain ⟨nextTier, pointsToNext, progress, next, holds⟩ := tier.progress (Int.natCast_nonneg _)
  have points : ns.sum / 10000000 = (total / 10000000 : Nat) := by
    rw [sum, Int.natCast_ediv]
    rfl
  rw [getPlayerComp, read]
  simp only [Option.bind_eq_bind, Option.bind_some, points, currentTier_eq_compTier, next]
  exact ⟨_, rfl, rfl, rfl, holds⟩

theorem getPlayerStats_of_wagered {F : Type} [NatCast F] [Div F] [Mul F] {total : Nat}
    (h : Wagered store address total) (stored : ∀ b ∈ store.bets, b.Stored) :
    ∃ stats : PlayerStats F, getPlayerStats store address = some stats ∧
      stats.compPoints = (total / 10000000 : Nat) ∧
      stats.compTier = compTier (total / 10000000 : Nat) := by
  obtain ⟨ns, read, sum⟩ := h
  have readable : ∀ b ∈ playerBets store address, b.Readable := fun b member =>
    (stored b (List.mem_filter.mp member).1).readable
  obtain ⟨won, hwon⟩ := @readAll_of_forall BetRecord.payout
    ((playerBets store address).filter fun b => b.outcome == win)
    fun b hb => (readable b (List.mem_filter.mp hb).1).2
  obtain ⟨lost, hlost⟩ := @readAll_of_forall BetRecord.betAmount
    ((playerBets store address).filter fun b => b.outcome == loss)
    fun b hb => (readable b (List.mem_filter.mp hb).1).1
  have points : ns.sum / 10000000 = (total / 10000000 : Nat) := by
    rw [sum, Int.natCast_ediv]
    rfl
  rw [getPlayerStats, read, hwon, hlost]
  exact ⟨_, rfl, points, congrArg compTier points⟩

end Wagers

/-- The two endpoints show the same points and tier, and a further bet lowers neither. -/
theorem comp_tiers_agree {F : Type} [NatCast F] [Div F] [Mul F] {store : Store}
    (stored : ∀ b ∈ store.bets, b.Stored) (address : Text) :
    ∃ (stats : PlayerStats F) (comp : CompPointsResponse),
      getPlayerStats store address = some stats ∧ getPlayerComp store address = some comp ∧
      stats.compPoints = comp.points ∧ stats.compTier = comp.tier ∧
      TierProgress comp.points comp.tier comp.nextTier comp.pointsToNextTier comp.tierProgress ∧
      ∀ bet : BetRecord, bet.Stored → ∃ after,
        getPlayerComp { store with bets := store.bets ++ [bet] } address = some after ∧
          comp.points ≤ after.points ∧ tierOrder.idxOf comp.tier ≤ tierOrder.idxOf after.tier := by
  obtain ⟨total, wagered⟩ := @exists_wagered _ address stored
  obtain ⟨stats, hstats, statsPoints, statsTier⟩ :=
    getPlayerStats_of_wagered (F := F) wagered stored
  obtain ⟨comp, hcomp, points, tier, progress⟩ := getPlayerComp_of_wagered wagered
  refine ⟨stats, comp, hstats, hcomp, statsPoints.trans points.symm, ?_, progress, ?_⟩
  · rw [statsTier, tier, points]
  · intro bet storedBet
    obtain ⟨more, le, wageredMore⟩ := wagered.append storedBet
    obtain ⟨after, hafter, afterPoints, afterTier, -⟩ := getPlayerComp_of_wagered wageredMore
    have grown : comp.points ≤ after.points := by
      rw [points, afterPoints]
      exact Int.ofNat_le.mpr (Nat.div_le_div_right le)
    obtain ⟨i, before⟩ := compTier_tierAt comp.points
    obtain ⟨j, later⟩ := compTier_tierAt after.points
    refine ⟨after, hafter, grown, ?_⟩
    rw [tier, afterTier, before.idxOf, later.idxOf]
    exact before.mono later grown

theorem wonStore_stored : ∀ b ∈ wonStore.bets, b.Stored := by
  intro b member
  obtain rfl : b = { sampleRequest.bet [] with outcome := win, payout := "1940000".toList } :=
    List.mem_singleton.mp member
  exact ⟨⟨1_000_000, rfl⟩, ⟨1_940_000, rfl⟩⟩

theorem comp_tiers_agree_example :
    ∃ (stats : PlayerStats ℚ) (comp : CompPointsResponse),
      getPlayerStats wonStore sampleRequest.address = some stats ∧
      getPlayerComp wonStore sampleRequest.address = some comp ∧
      stats.compPoints = comp.points ∧ stats.compTier = comp.tier ∧
      TierProgress comp.points comp.tier comp.nextTier comp.pointsToNextTier comp.tierProgress ∧
      ∀ bet : BetRecord, bet.Stored → ∃ after,
        getPlayerComp { wonStore with bets := wonStore.bets ++ [bet] } sampleRequest.address =
            some after ∧
          comp.points ≤ after.points ∧ tierOrder.idxOf comp.tier ≤ tierOrder.idxOf after.tier :=
  comp_tiers_agree wonStore_stored sampleRequest.address

end DuckPools.Backend
