import DuckPools.Backend.LpRoutes
import DuckPools.Backend.PoolManager
import DuckPools.Language.TimedCache

/-!
# The cached state of the pool: `PoolStateManager` of `backend/pool_manager.py`

All endpoints of the pool read its state through `get_pool_state`, which asks the node for the
pool box unless the last answer is less than ten seconds old. Requests overlap while they wait
for the node. The health check forces a fetch.

Without a configured token the manager takes the first asset of the pool box for the pool
token, the comment there says the second. That is the pool NFT, of which there is one.
-/

namespace DuckPools.Backend.PoolStateManager

open LpPool (LpError BoxAsset)
open LpRoutes (DepositRequest)
open TimedCache Traces

structure PoolConfig extends LpPool.PoolConfig where
  min_deposit : Int := 100_000_000
  cooldown_blocks : Int := 60
  house_edge_bps : Int := 300
  pool_nft_id : Option Text := none
  lp_token_id : Option Text := none

structure PoolState extends PoolManager.CachedState where
  pending_bets : Int
  pending_bets_value : Int
  house_edge_bps : Int
  pool_nft_id : Text
  last_updated : ℚ

/-- The pool box, as the node describes it. -/
structure PoolBox extends LpPool.BoxAnswer where
  value : Option Int

/-- The body of the answer, or what `raise_for_status` and `json` raise. -/
abbrev NodeAnswer := Except String (List PoolBox)

section Read

/-- `asset` of a pool box with so many assets, after `total_supply` and `lp_token_id`. -/
def readAsset (count : Nat) : Int × Text → BoxAsset → Int × Text
  | (totalSupply, lpTokenId), asset =>
      if !lpTokenId.isEmpty && asset.tokenId == some lpTokenId then
        (asset.amount.getD 0, lpTokenId)
      else if lpTokenId.isEmpty && decide (count > 1) then
        (asset.amount.getD 0, asset.tokenId.getD [])
      else (totalSupply, lpTokenId)

/-- The parameter in a register, if the register is there. -/
def readRegister (register : Option LpPool.Register) (configured : Int) : Except String Int :=
  match register with
  | some register => LpPool.extractIntFromSerialized (register.serializedValue.getD [])
  | none => return configured

variable (config : PoolConfig)

/-- The check before the fetch. -/
def checkConfigured : Except String Unit :=
  if (config.pool_nft_id.getD []).isEmpty then throw "Pool NFT ID not configured" else return ()

/-- What is made of the node's answer. -/
def readPool (now : ℚ) (answer : NodeAnswer) : Except String PoolState := do
  match ← answer with
  | [] => throw "Bankroll pool box not found on-chain"
  | box :: _ =>
      let bankroll := box.value.getD 0
      let (total_supply, lp_token_id) :=
        box.assets.foldl (readAsset box.assets.length) (0, config.lp_token_id.getD [])
      let house_edge_bps ← readRegister (box.additionalRegisters .R7) config.house_edge_bps
      let cooldown_blocks ← readRegister (box.additionalRegisters .R6) config.cooldown_blocks
      let pending_bets := 0
      let pending_bets_value := 0
      let total_value := bankroll + pending_bets_value
      return {
        bankroll, total_supply, pending_bets, pending_bets_value, total_value
        price_per_share := PoolManager.calculatePricePerShare total_value total_supply
        house_edge_bps, cooldown_blocks
        pool_nft_id := config.pool_nft_id.getD []
        lp_token_id
        last_updated := now }

/-- `_cache_ttl` is ten seconds. -/
def policy : Policy ℚ NodeAnswer String PoolState where
  ttl := 10
  ready := checkConfigured config
  decode := readPool config

end Read

section Deposit

structure DepositTx where
  address : Text
  value : Text
  assets : List LpPool.Asset
  fee : Text

structure DepositResponse where
  tx_json : DepositTx
  message : Text

variable (nanoToErg : Int → Text) (config : PoolConfig) (state : PoolState)

def buildDepositTx (body : DepositRequest) : Except LpError DepositResponse := do
  if body.amount < config.min_deposit then
    throw (.http 400 ("Minimum deposit is ".toList ++ nanoToErg config.min_deposit ++
      " ERG".toList))
  let shares := PoolManager.calculateDepositShares body.amount state.total_value state.total_supply
  if shares = 0 then
    throw (.http 400 "Deposit too small to mint any shares".toList)
  return {
    tx_json := {
      address := body.address
      value := Py.str body.amount
      assets :=
        if state.lp_token_id.isEmpty then []
        else [{ tokenId := state.lp_token_id, amount := Py.str shares }]
      fee := Py.str 1_000_000 }
    message := "Deposit ".toList ++ nanoToErg body.amount ++ " ERG for ".toList ++ Py.str shares ++
      " LP shares".toList }

end Deposit

variable {config : PoolConfig} {now : ℚ} {state : PoolState}

section Reads

/-- The state has the fields of the first box. -/
theorem readPool_eq_ok {answer : NodeAnswer} (read : readPool config now answer = .ok state) :
    ∃ box rest, answer = .ok (box :: rest) ∧ state.last_updated = now ∧
      (state.total_supply, state.lp_token_id) =
        box.assets.foldl (readAsset box.assets.length) (0, config.lp_token_id.getD []) := by
  obtain _ | _ | ⟨box, rest⟩ := answer
  · cases read
  · cases read
  · refine ⟨box, rest, rfl, ?_⟩
    simp only [readPool, Except.bind, bind] at read
    cases edge : readRegister (box.additionalRegisters .R7) config.house_edge_bps with
    | error e => simp [edge] at read
    | ok house_edge =>
        cases cooldown : readRegister (box.additionalRegisters .R6) config.cooldown_blocks with
        | error e => simp [edge, cooldown] at read
        | ok blocks =>
            simp only [edge, cooldown, pure, Except.pure, Except.ok.injEq] at read
            subst read
            exact ⟨rfl, rfl⟩

variable {nft : Text}

theorem foldl_readAsset_kept (hnft : nft ≠ []) (count : Nat) (supply : Int)
    {assets : List BoxAsset} (others : ∀ asset ∈ assets, asset.tokenId ≠ some nft) :
    assets.foldl (readAsset count) (supply, nft) = (supply, nft) := by
  induction assets with
  | nil => rfl
  | cons asset assets ih =>
      obtain ⟨other, others⟩ := List.forall_mem_cons.mp others
      have kept : readAsset count (supply, nft) asset = (supply, nft) := by
        simp [readAsset, other, hnft]
      rw [List.foldl_cons, kept, ih others]

end Reads

section Runs

/-- The manager before its first request. -/
def idle (now : ℚ) (source : NodeAnswer) : State ℚ NodeAnswer String PoolState :=
  start now source

def step (config : PoolConfig) :
    State ℚ NodeAnswer String PoolState → Event ℚ NodeAnswer String →
      State ℚ NodeAnswer String PoolState :=
  TimedCache.step (policy config)

variable {now : ℚ} {source : NodeAnswer} {events : List (Event ℚ NodeAnswer String)}

/-- What a call returns was made of an answer that the node would have given less than ten
seconds before the call or since; since the call, if it is that of the health check. -/
theorem returned_pool_state_recent
    (forward : EveryStep (step config) Forward (idle now source) events) :
    ∀ r ∈ (events.foldl (step config) (idle now source)).returned, ∀ state,
      r.result = .ok state → ∃ u, Visited (step config) (idle now source) events u ∧
        r.called - 10 < u.now ∧ (r.forced → r.called ≤ u.now) ∧ u.now ≤ r.finished ∧
        state.last_updated ≤ u.now ∧
        readPool config state.last_updated u.source = .ok state := by
  intro r hr state ok
  have positive : 0 < (policy config).ttl := show (0 : ℚ) < 10 by norm_num
  have inv := inv_run positive now source events forward
  obtain ⟨started, fresh, answer, ⟨u, visited, after, before, rfl⟩, decoded⟩ :=
    inv.returned r hr state ok
  obtain ⟨-, -, -, updated, -⟩ := readPool_eq_ok decoded
  have young : r.called < started + 10 := fresh.1
  refine ⟨u, visited, by linarith, fun forced => (fresh.2 forced).trans after, before, ?_, ?_⟩
  · exact updated.trans_le after
  · rwa [updated]

def sampleConfig : PoolConfig := { pool_nft_id := some ['a'] }

/-- The NFT, and a thousand pool tokens. -/
def sampleBox (value : Int) : PoolBox where
  value := some value
  assets := [⟨some ['a'], some 1⟩, ⟨some ['b'], some 1000⟩]
  additionalRegisters := fun _ => none

def sampleAnswer (value : Int) : NodeAnswer := .ok [sampleBox value]

/-- The health check returns before a poll that was started earlier, and the next poll is given
what the earlier one brought. -/
def samplePolls : List (Event ℚ NodeAnswer String) :=
  [.call false, .serve 0, .change (sampleAnswer 7000), .wait 4, .call true, .serve 1, .arrive 1,
    .arrive 0, .wait 9, .call false]

theorem samplePolls_forward :
    EveryStep (step sampleConfig) Forward (idle 0 (sampleAnswer 5000)) samplePolls := by
  have first_wait : (0 : ℚ) ≤ 4 := by norm_num
  have second_wait : (4 : ℚ) ≤ 9 := by norm_num
  exact ⟨trivial, trivial, trivial, first_wait, trivial, trivial, trivial, trivial, second_wait,
    trivial, trivial⟩

/-- The second poll is given a state that is older than that of the health check before it. -/
theorem samplePolls_bankrolls :
    (samplePolls.foldl (step sampleConfig) (idle 0 (sampleAnswer 5000))).returned.map
      (fun r => (r.result.toOption.map fun state => state.bankroll)) =
        [some 7000, some 5000, some 5000] := by
  decide +kernel

theorem exists_samplePolls_returned :
    ∃ r ∈ (samplePolls.foldl (step sampleConfig) (idle 0 (sampleAnswer 5000))).returned, ∃ state,
      r.result = .ok state ∧ state.bankroll = 7000 := by
  have first : some 7000 ∈ [some (7000 : Int), some 5000, some 5000] := List.mem_cons_self
  rw [← samplePolls_bankrolls] at first
  obtain ⟨r, hr, shown⟩ := List.mem_map.mp first
  obtain ⟨state, returned, bankroll⟩ := Option.map_eq_some_iff.mp shown
  cases result : r.result with
  | error e => simp [result, Except.toOption] at returned
  | ok found =>
      rw [result] at returned
      obtain rfl := Option.some.inj returned
      exact ⟨r, hr, found, result, bankroll⟩

theorem returned_pool_state_recent_sample :
    ∃ r ∈ (samplePolls.foldl (step sampleConfig) (idle 0 (sampleAnswer 5000))).returned, ∃ state,
      r.result = .ok state ∧ state.bankroll = 7000 ∧
        ∃ u, Visited (step sampleConfig) (idle 0 (sampleAnswer 5000)) samplePolls u ∧
          r.called - 10 < u.now ∧ (r.forced → r.called ≤ u.now) ∧ u.now ≤ r.finished ∧
          state.last_updated ≤ u.now ∧
          readPool sampleConfig state.last_updated u.source = .ok state := by
  obtain ⟨r, hr, state, ok, bankroll⟩ := exists_samplePolls_returned
  exact ⟨r, hr, state, ok, bankroll,
    returned_pool_state_recent samplePolls_forward r hr state ok⟩

end Runs

section Unconfigured

variable {nft : Text}

/-- The first box that is listed starts with the pool NFT, and has another token. -/
def NftFirst (nft : Text) (answer : NodeAnswer) : Prop :=
  ∀ box rest, answer = .ok (box :: rest) → ∃ more, more ≠ [] ∧
    box.assets = ⟨some nft, some 1⟩ :: more ∧ ∀ asset ∈ more, asset.tokenId ≠ some nft

/-- The NFT is the pool token, and the pool has one. -/
structure OneShare (nft : Text) (state : PoolState) : Prop where
  token : state.lp_token_id = nft
  supply : state.total_supply = 1

theorem readPool_one_share (unset : config.lp_token_id.getD [] = []) (hnft : nft ≠ [])
    {answer : NodeAnswer} (first : NftFirst nft answer)
    (read : readPool config now answer = .ok state) : OneShare nft state := by
  obtain ⟨box, rest, rfl, -, found⟩ := readPool_eq_ok read
  obtain ⟨more, hmore, assets, others⟩ := first box rest rfl
  have several : 1 < box.assets.length := by
    have some_more := List.length_pos_of_ne_nil hmore
    rw [assets, List.length_cons]
    omega
  have taken : readAsset box.assets.length (0, []) ⟨some nft, some 1⟩ = (1, nft) := by
    simp [readAsset, several]
  generalize box.assets.length = count at found taken
  rw [unset, assets, List.foldl_cons, taken, foldl_readAsset_kept hnft count 1 others] at found
  obtain ⟨supply, token⟩ := Prod.mk.inj found
  exact ⟨token, supply⟩

variable {nanoToErg : Int → Text}

/-- One share of a pool costs what is in it. -/
theorem OneShare.deposit_refused (one : OneShare nft state) {body : DepositRequest}
    (low : body.amount < state.total_value) :
    ∃ detail, buildDepositTx nanoToErg config state body = .error (.http 400 detail) := by
  obtain ⟨amount, hamount⟩ := Int.eq_ofNat_of_zero_le body.amount_pos.le
  obtain ⟨value, hvalue⟩ := Int.eq_ofNat_of_zero_le (body.amount_pos.le.trans low.le)
  have below : amount < value := by omega
  have none_minted : PoolManager.calculateDepositShares body.amount state.total_value
      state.total_supply = 0 := by
    have formula := @PoolManager.calculateDepositShares_natCast value 1
      (Nat.ne_zero_of_lt below) one_ne_zero amount
    have bound := PoolManager.decimalQuotient_le (amount * 1) value
    rw [Nat.div_eq_of_lt (by omega)] at bound
    rw [hamount, hvalue, one.supply]
    exact formula.trans (by exact_mod_cast Nat.le_zero.mp bound)
  rw [buildDepositTx, none_minted]
  split
  · exact ⟨_, rfl⟩
  · exact ⟨_, rfl⟩

/-- Whoever deposits more is sent the NFT. -/
theorem OneShare.deposit_takes_nft (one : OneShare nft state) (hnft : nft ≠ [])
    {body : DepositRequest} {response : DepositResponse}
    (built : buildDepositTx nanoToErg config state body = .ok response) :
    ∃ shares, response.tx_json.assets = [⟨nft, Py.str shares⟩] := by
  have named : state.lp_token_id.isEmpty = false := by simpa [one.token] using hnft
  simp only [buildDepositTx, named] at built
  split at built
  · cases built
  · split at built
    · cases built
    · cases built
      exact ⟨_, by rw [one.token]; rfl⟩

theorem OneShare.withdrawal_refused (one : OneShare nft state) (node : LpPool.Node)
    {body : LpPool.WithdrawRequestCreate} (several : 1 < body.lp_amount) :
    LpPool.requestWithdrawal nanoToErg config.toPoolConfig state.toPoolState node body =
      .error (.http 400 "Withdrawal amount exceeds pool supply".toList) := by
  rw [LpPool.requestWithdrawal, one.supply, if_pos several]
  rfl

/-- Whatever the node answers from now on, it lists such a box. -/
def ListsNftFirst (nft : Text) : Event ℚ NodeAnswer String → Prop
  | .change answer => NftFirst nft answer
  | _ => True

theorem returned_one_share {source : NodeAnswer} {events : List (Event ℚ NodeAnswer String)}
    (unset : config.lp_token_id.getD [] = []) (hnft : nft ≠ []) (first : NftFirst nft source)
    (listed : ∀ e ∈ events, ListsNftFirst nft e)
    (forward : EveryStep (step config) Forward (idle now source) events) :
    ∀ r ∈ (events.foldl (step config) (idle now source)).returned, ∀ state,
      r.result = .ok state → OneShare nft state := by
  intro r hr state ok
  obtain ⟨u, visited, -, -, -, -, read⟩ := returned_pool_state_recent forward r hr state ok
  have kept (s : State ℚ NodeAnswer String PoolState) (e : Event ℚ NodeAnswer String)
      (h : NftFirst nft s.source) (lists : ListsNftFirst nft e) :
      NftFirst nft (step config s e).source := by
    rw [step, step_source]
    cases e with
    | change answer => exact lists
    | _ => exact h
  exact readPool_one_share unset hnft (visited.kept kept first (everyStep_of_forall listed)) read

/-- Without a configured token, no state that is returned lets anybody deposit less than what
is in the pool or withdraw more than one share, and what is built for a deposit of more gives
the NFT away. -/
theorem unconfigured_pool_gives_nft_away {source : NodeAnswer}
    {events : List (Event ℚ NodeAnswer String)}
    (unset : config.lp_token_id.getD [] = []) (hnft : nft ≠ []) (first : NftFirst nft source)
    (listed : ∀ e ∈ events, ListsNftFirst nft e)
    (forward : EveryStep (step config) Forward (idle now source) events) :
    ∀ r ∈ (events.foldl (step config) (idle now source)).returned, ∀ state,
      r.result = .ok state →
        (∀ body : DepositRequest, body.amount < state.total_value →
          ∃ detail, buildDepositTx nanoToErg config state body = .error (.http 400 detail)) ∧
        (∀ (body : DepositRequest) (response : DepositResponse),
          buildDepositTx nanoToErg config state body = .ok response →
            ∃ shares, response.tx_json.assets = [⟨nft, Py.str shares⟩]) ∧
        ∀ (node : LpPool.Node) (body : LpPool.WithdrawRequestCreate), 1 < body.lp_amount →
          LpPool.requestWithdrawal nanoToErg config.toPoolConfig state.toPoolState node body =
            .error (.http 400 "Withdrawal amount exceeds pool supply".toList) := by
  intro r hr state ok
  have one := returned_one_share unset hnft first listed forward r hr state ok
  refine ⟨?_, ?_, ?_⟩
  · intro body low
    exact one.deposit_refused low
  · intro body response built
    exact one.deposit_takes_nft hnft built
  · intro node body several
    exact one.withdrawal_refused node several

theorem sampleAnswer_nftFirst (value : Int) : NftFirst ['a'] (sampleAnswer value) := by
  rintro box rest ⟨⟩
  refine ⟨[⟨some ['b'], some 1000⟩], List.cons_ne_nil _ _, rfl, ?_⟩
  simp

theorem unconfigured_pool_gives_nft_away_sample :
    ∃ r ∈ (samplePolls.foldl (step sampleConfig) (idle 0 (sampleAnswer 5000))).returned, ∃ state,
      r.result = .ok state ∧
        (∀ body : DepositRequest, body.amount < state.total_value →
          ∃ detail, buildDepositTx Py.str sampleConfig state body = .error (.http 400 detail)) ∧
        (∀ (body : DepositRequest) (response : DepositResponse),
          buildDepositTx Py.str sampleConfig state body = .ok response →
            ∃ shares, response.tx_json.assets = [⟨['a'], Py.str shares⟩]) ∧
        ∀ (node : LpPool.Node) (body : LpPool.WithdrawRequestCreate), 1 < body.lp_amount →
          LpPool.requestWithdrawal Py.str sampleConfig.toPoolConfig state.toPoolState node body =
            .error (.http 400 "Withdrawal amount exceeds pool supply".toList) := by
  have listed : ∀ e ∈ samplePolls, ListsNftFirst ['a'] e := by
    simp [samplePolls, ListsNftFirst, sampleAnswer_nftFirst]
  obtain ⟨r, hr, state, ok, _⟩ := exists_samplePolls_returned
  exact ⟨r, hr, state, ok,
    unconfigured_pool_gives_nft_away rfl (List.cons_ne_nil _ _) (sampleAnswer_nftFirst 5000)
      listed samplePolls_forward r hr state ok⟩

end Unconfigured

end DuckPools.Backend.PoolStateManager
