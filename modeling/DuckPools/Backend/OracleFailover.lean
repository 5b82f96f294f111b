import DuckPools.Backend.OracleService
import DuckPools.Language.Traces
import Mathlib.Data.List.Rotate

/-!
# The failover of the oracle service

A call requests one endpoint after the other from the current one on, each in its place of the
cyclic order of the list, and so each at most once. The index it follows is shared with
`switch_oracle_endpoint`, which does not wait for the lock: if that moves the index while a
request is under way, and the request fails, the call goes on from another place of the order.
-/

namespace DuckPools.Backend.OracleService

open Traces

section Order

variable {n k i : Nat}

/-- The positions of a list of length `n` from position `k` on, round its end. -/
def cyclicOrder (n k : Nat) : List Nat := (List.range n).rotate k

theorem length_cyclicOrder (n k : Nat) : (cyclicOrder n k).length = n := by
  rw [cyclicOrder, List.length_rotate, List.length_range]

theorem nodup_cyclicOrder (n k : Nat) : (cyclicOrder n k).Nodup :=
  List.nodup_rotate.mpr List.nodup_range

theorem mem_cyclicOrder : i ∈ cyclicOrder n k ↔ i < n := by
  rw [cyclicOrder, List.mem_rotate, List.mem_range]

theorem take_cyclicOrder_succ (h : i < n) :
    (cyclicOrder n k).take (i + 1) = (cyclicOrder n k).take i ++ [(k + i) % n] := by
  have inside : i < (List.range n).length := by rwa [List.length_range]
  have here : (cyclicOrder n k)[i]? = some ((k + i) % n) := by
    rw [cyclicOrder, List.getElem?_rotate inside, List.length_range, Nat.add_comm i k,
      List.getElem?_range (Nat.mod_lt _ (Nat.zero_lt_of_lt h))]
  rw [List.take_add_one, here]
  rfl

end Order

variable {Data : Type}

/-- The call that a logged event belongs to. -/
def Happened.call : Happened Data → Option Nat
  | asked call _ => some call
  | fetched call _ _ _ => some call
  | returned call _ => some call
  | probed _ _ => none

def Happened.askedIndex : Happened Data → Option Nat
  | asked _ index => some index
  | _ => none

def Happened.failedIndex : Happened Data → Option Nat
  | fetched _ index _ (.error _) => some index
  | _ => none

def Happened.result : Happened Data → Option (Except String (Option Data))
  | returned _ result => some result
  | _ => none

/-- What is logged of a call. -/
def history (log : List (Happened Data)) (call : Nat) : List (Happened Data) :=
  log.filter fun h => h.call = some call

/-- The endpoints that a call requested, in order. -/
def asks (history : List (Happened Data)) : List Nat := history.filterMap Happened.askedIndex

/-- The endpoints whose answer to a call was an error, in order. -/
def failures (history : List (Happened Data)) : List Nat := history.filterMap Happened.failedIndex

/-- What a call returned. -/
def results (history : List (Happened Data)) : List (Except String (Option Data)) :=
  history.filterMap Happened.result

def Event.isAnswer : Event Data → Bool
  | answer => true
  | _ => false

/-- The request of a call that is answered now is not answered with JSON's `null`; and if it
failed and is not the call's last, the current endpoint is still the one that was requested. -/
def Undisturbed (config : OracleConfig) (s : State Data) (e : Event Data) : Prop :=
  e = .answer → ∀ f, s.active = some f →
    (s.web (dataUrl f.endpoint f.oracleBoxId)).data ≠ .ok none ∧
    ((∃ error, (s.web (dataUrl f.endpoint f.oracleBoxId)).data = .error error) →
      f.attempts + 1 < (initEndpoints config).length → s.currentEndpointIndex = f.requested)

/-- While the call has the lock, the endpoint would answer its request with data. -/
def Answers (call : Nat) (endpoint : OracleEndpoint) (s : State Data) : Prop :=
  ∀ f, s.active = some f → f.id = call →
    ∃ data, (s.web (dataUrl endpoint f.oracleBoxId)).data = .ok (some data)

/-- What a run from `s` promises to the calls. -/
structure FailsOver (config : OracleConfig) (s : State Data) (run : List (Event Data)) :
    Prop where
  asksOnce : ∀ call, (asks (history (run.foldl (step config) s).log call)).Nodup
  /-- A call returns, once, if its requests are answered: it makes as many as there are
  endpoints, at most. -/
  returns : ∀ before after f, run = before ++ after →
    (before.foldl (step config) s).active = some f →
    (initEndpoints config).length ≤ f.attempts + after.countP Event.isAnswer →
    ∃ result, results (history (run.foldl (step config) s).log f.id) = [result]
  complete : ∀ call, ∀ endpoint ∈ initEndpoints config,
    Always (step config) (Answers call endpoint) s run →
    ∀ result ∈ results (history (run.foldl (step config) s).log call),
      ∃ data index source, (initEndpoints config)[index]? = some source ∧
        .fetched call index source.url (.ok (some data)) ∈
          (run.foldl (step config) s).log ∧
        result = .ok (some data)

section History

variable {config : OracleConfig} {log : List (Happened Data)} {h : Happened Data} {call : Nat}

theorem history_concat_self (same : h.call = some call) :
    history (log ++ [h]) call = history log call ++ [h] := by
  rw [history, List.filter_append, List.filter_singleton, decide_eq_true same]
  rfl

theorem history_concat_of_ne (other : h.call ≠ some call) :
    history (log ++ [h]) call = history log call := by
  rw [history, List.filter_append, List.filter_singleton, decide_eq_false other]
  exact List.append_nil _

theorem filterMap_concat {α β : Type*} (f : α → Option β) (xs : List α) (a : α) :
    (xs ++ [a]).filterMap f = xs.filterMap f ++ (f a).toList := by
  rw [List.filterMap_append, List.filterMap_cons]
  cases f a <;> rfl

theorem asks_concat (history : List (Happened Data)) (h : Happened Data) :
    asks (history ++ [h]) = asks history ++ h.askedIndex.toList :=
  filterMap_concat _ _ _

theorem asks_unchanged (history : List (Happened Data)) {h : Happened Data}
    (noRequest : h.askedIndex = none) : asks (history ++ [h]) = asks history := by
  rw [asks_concat, noRequest]
  exact List.append_nil _

theorem failures_concat (history : List (Happened Data)) (h : Happened Data) :
    failures (history ++ [h]) = failures history ++ h.failedIndex.toList :=
  filterMap_concat _ _ _

theorem results_concat (history : List (Happened Data)) (h : Happened Data) :
    results (history ++ [h]) = results history ++ h.result.toList :=
  filterMap_concat _ _ _

theorem mem_log_of_mem_history (inside : h ∈ history log call) : h ∈ log :=
  (List.mem_filter.mp inside).1

end History

section Moves

variable {config : OracleConfig} {s : State Data}

/-- What a step does to the calls: nothing, or one gets the lock or is answered. -/
inductive CallMove (config : OracleConfig) (s : State Data) : Event Data → State Data → Prop
  | quiet (e : Event Data) (s' : State Data) (idle : e.isAnswer → s.active = none)
      (index : s.currentEndpointIndex < (initEndpoints config).length →
        s'.currentEndpointIndex < (initEndpoints config).length)
      (active : s'.active = s.active) (served : s'.served = s.served)
      (same : ∀ call, history s'.log call = history s.log call) : CallMove config s e s'
  | acquired (oracleBoxId : Option Text) (rest : List (Option Text)) (idle : s.active = none) :
      CallMove config s .acquire
        (attempt config { s with waiting := rest, served := s.served + 1 } s.served oracleBoxId 0)
  | received (f : Fetch) (data : Option Data) (active : s.active = some f)
      (ok : (s.web (dataUrl f.endpoint f.oracleBoxId)).data = .ok data) :
      CallMove config s .answer
        (finish
          { s with
            lastFeedUpdate := some s.now
            log := s.log ++ [.fetched f.id f.requested f.endpoint.url (.ok data)] }
          f.id (.ok data))
  | failed (f : Fetch) (lastError : Text) (active : s.active = some f)
      (error : (s.web (dataUrl f.endpoint f.oracleBoxId)).data = .error lastError) :
      CallMove config s .answer
        (attempt config (failOver config s f lastError) f.id f.oracleBoxId (f.attempts + 1))

/-- A step that logs nothing. -/
theorem CallMove.silent {e : Event Data} {s' : State Data} (other : e.isAnswer = false)
    (index : s'.currentEndpointIndex = s.currentEndpointIndex) (active : s'.active = s.active)
    (served : s'.served = s.served) (log : s'.log = s.log) : CallMove config s e s' := by
  refine .quiet e s' (fun answer => ?_) (fun h => ?_) active served fun call => ?_
  · rw [other] at answer
    cases answer
  · rwa [index]
  · rw [log]

theorem settle_silent (s : State Data) :
    (settle config s).currentEndpointIndex = s.currentEndpointIndex ∧
      (settle config s).active = s.active ∧ (settle config s).served = s.served ∧
      (settle config s).log = s.log := by
  rw [settle]
  split
  · obtain ⟨same, _⟩ | ⟨_, _, _, _, same, _⟩ :=
      @checkStaleFeed_cases _ config { s with round := none }
    · rw [same]
      exact ⟨rfl, rfl, rfl, rfl⟩
    · rw [same]
      exact ⟨rfl, rfl, rfl, rfl⟩
  · exact ⟨rfl, rfl, rfl, rfl⟩

theorem checkEndpoint_call (s : State Data) (i : Nat) :
    CallMove config s (.probed i) (checkEndpoint config s i) := by
  rw [checkEndpoint]
  split
  · exact .silent rfl rfl rfl rfl rfl
  · split
    · exact .quiet _ _ nofun id rfl rfl fun call => history_concat_of_ne nofun
    · exact .silent rfl rfl rfl rfl rfl

/-- A switch moves the index to another endpoint of the list. -/
theorem switch_call (s : State Data) (name : Text) :
    CallMove config s (.switch name) (switchOracleEndpoint config s name).2 := by
  rw [switchOracleEndpoint]
  split
  · exact .silent rfl rfl rfl rfl rfl
  · rename_i targetIndex found
    have inside := (List.findIdx?_eq_some_iff_findIdx_eq.mp found).1
    exact .quiet _ _ nofun (fun _ => inside) rfl rfl fun _ => rfl

theorem step_call (s : State Data) (e : Event Data) : CallMove config s e (step config s e) := by
  cases e with
  | call oracleBoxId => exact .silent rfl rfl rfl rfl rfl
  | acquire =>
      rw [step, acquire]
      split
      · rename_i oracleBoxId rest idle _
        exact .acquired oracleBoxId rest idle
      · exact .silent rfl rfl rfl rfl rfl
  | answer =>
      rw [step, answer]
      split
      · rename_i idle
        exact .quiet _ _ (fun _ => idle) id rfl rfl fun _ => rfl
      · rename_i f active
        split
        · exact .received f _ active ‹_›
        · exact .failed f _ active ‹_›
  | check =>
      rw [step, checkAllEndpoints]
      split <;> exact .silent rfl rfl rfl rfl rfl
  | probe i =>
      rw [step, sendProbe]
      split
      · exact .silent rfl rfl rfl rfl rfl
      · split <;> exact .silent rfl rfl rfl rfl rfl
  | probed i => exact checkEndpoint_call s i
  | settle =>
      obtain ⟨index, active, served, log⟩ := @settle_silent _ config s
      exact .silent rfl index active served log
  | switch name => exact switch_call s name
  | network now web => exact .silent rfl rfl rfl rfl rfl

end Moves

section Invariant

variable {config : OracleConfig} {s : State Data}

/-- A call that returned: data that an endpoint answered, or nothing after the answers of all
endpoints were errors. -/
structure Finished (config : OracleConfig) (log : List (Happened Data)) (call : Nat) : Prop where
  asksOnce : (asks (history log call)).Nodup
  returned :
    (∃ data index source, (initEndpoints config)[index]? = some source ∧
      .fetched call index source.url (.ok (some data)) ∈ history log call ∧
      results (history log call) = [.ok (some data)]) ∨
    results (history log call) = [.ok none] ∧
      ∀ i < (initEndpoints config).length, i ∈ failures (history log call)

/-- A call whose requests so far were the first of the cyclic order from `k` on. -/
structure Asked (config : OracleConfig) (k asked failed : Nat) (history : List (Happened Data)) :
    Prop where
  asks : asks history = (cyclicOrder (initEndpoints config).length k).take asked
  failures : failures history = (cyclicOrder (initEndpoints config).length k).take failed
  results : results history = []

/-- The call that has the lock waits for an answer. -/
structure Waiting (config : OracleConfig) (s : State Data) (f : Fetch) : Prop where
  last : f.id + 1 = s.served
  requested : (initEndpoints config)[f.requested]? = some f.endpoint
  bound : f.attempts < (initEndpoints config).length
  place : ∃ k, f.requested = (k + f.attempts) % (initEndpoints config).length ∧
    Asked config k (f.attempts + 1) f.attempts (history s.log f.id)

/-- The calls besides the one that got the lock last have returned, or wait for it. -/
structure Others (config : OracleConfig) (log : List (Happened Data)) (id : Nat) : Prop where
  finished : ∀ call < id, Finished config log call
  unserved : ∀ call, id < call → history log call = []

/-- What holds between the steps of an undisturbed run. -/
structure Inv (config : OracleConfig) (s : State Data) : Prop where
  index : s.currentEndpointIndex < (initEndpoints config).length
  waiting : ∀ f, s.active = some f → Waiting config s f
  finished : ∀ call < s.served, (∀ f, s.active = some f → f.id ≠ call) →
    Finished config s.log call
  unserved : ∀ call, s.served ≤ call → history s.log call = []

/-- A call is at the head of its loop: the endpoints it asked so far have failed, and the
current one is the next. -/
structure AtHead (config : OracleConfig) (s : State Data) (id attempts : Nat) : Prop where
  index : s.currentEndpointIndex < (initEndpoints config).length
  last : id + 1 = s.served
  bound : attempts ≤ (initEndpoints config).length
  place : ∃ k, (attempts < (initEndpoints config).length →
      s.currentEndpointIndex = (k + attempts) % (initEndpoints config).length) ∧
    Asked config k attempts attempts (history s.log id)
  others : Others config s.log id

theorem Finished.of_history {log log' : List (Happened Data)} {call : Nat}
    (h : Finished config log call) (same : history log' call = history log call) :
    Finished config log' call := by
  refine ⟨?_, ?_⟩
  · rw [same]
    exact h.asksOnce
  · rw [same]
    exact h.returned

section Asked

variable {k attempts id : Nat} {entries : List (Happened Data)}

theorem Asked.nil (k : Nat) : Asked config k 0 0 ([] : List (Happened Data)) := ⟨rfl, rfl, rfl⟩

theorem Asked.ask (h : Asked config k attempts attempts entries)
    (bound : attempts < (initEndpoints config).length) :
    Asked config k (attempts + 1) attempts
      (entries ++ [.asked id ((k + attempts) % (initEndpoints config).length)]) where
  asks := by
    rw [asks_concat, h.asks, take_cyclicOrder_succ bound]
    rfl
  failures := by
    rw [failures_concat, h.failures]
    exact List.append_nil _
  results := by
    rw [results_concat, h.results]
    rfl

theorem Asked.fail (h : Asked config k (attempts + 1) attempts entries)
    (bound : attempts < (initEndpoints config).length) (url error : Text) :
    Asked config k (attempts + 1) (attempts + 1)
      (entries ++
        [.fetched id ((k + attempts) % (initEndpoints config).length) url (.error error)]) where
  asks := (asks_unchanged _ rfl).trans h.asks
  failures := by
    rw [failures_concat, h.failures, take_cyclicOrder_succ bound]
    rfl
  results := by
    rw [results_concat, h.results]
    rfl

theorem Asked.asksOnce {asked failed : Nat} (h : Asked config k asked failed entries) :
    (OracleService.asks entries).Nodup := by
  rw [h.asks]
  exact (List.take_sublist _ _).nodup (nodup_cyclicOrder _ k)

variable {log : List (Happened Data)} {call : Nat}

theorem Asked.gaveUp
    (h : Asked config k (initEndpoints config).length (initEndpoints config).length
      (history log call)) :
    Finished config (log ++ [.returned call (.ok none)]) call := by
  have returned : history (log ++ [.returned call (.ok none)]) call =
      history log call ++ [.returned call (.ok none)] := history_concat_self rfl
  refine ⟨?_, .inr ⟨?_, ?_⟩⟩
  · rw [returned, asks_unchanged _ rfl]
    exact h.asksOnce
  · rw [returned, results_concat, h.results]
    rfl
  · intro i inside
    rw [returned, failures_concat, h.failures,
      List.take_of_length_le (Nat.le_of_eq (length_cyclicOrder _ k))]
    exact List.mem_append_left _ (mem_cyclicOrder.mpr inside)

theorem Asked.received {asked failed index : Nat} {source : OracleEndpoint}
    (h : Asked config k asked failed (history log call))
    (requested : (initEndpoints config)[index]? = some source) (data : Data) :
    Finished config
      (log ++ [.fetched call index source.url (.ok (some data))] ++
        [.returned call (.ok (some data))]) call := by
  have logged : history
      (log ++ [.fetched call index source.url (.ok (some data))] ++
        [.returned call (.ok (some data))]) call =
      history log call ++ [.fetched call index source.url (.ok (some data))] ++
        [.returned call (.ok (some data))] := by
    rw [history_concat_self rfl, history_concat_self rfl]
  refine ⟨?_, .inl ⟨data, index, source, requested, ?_, ?_⟩⟩
  · rw [logged, asks_unchanged _ rfl, asks_unchanged _ rfl]
    exact h.asksOnce
  · rw [logged]
    exact List.mem_append_left _ (List.mem_append_right _ List.mem_cons_self)
  · rw [logged, results_concat, results_concat, h.results]
    rfl

end Asked

section Others

variable {log : List (Happened Data)} {id : Nat}

/-- An event of the call leaves the others alone. -/
theorem Others.concat (others : Others config log id) {h : Happened Data}
    (own : h.call = some id) : Others config (log ++ [h]) id where
  finished call before := by
    refine (others.finished call before).of_history (history_concat_of_ne ?_)
    rw [own]
    exact fun same => absurd (Option.some.inj same) (Nat.ne_of_gt before)
  unserved call after := by
    rw [history_concat_of_ne]
    · exact others.unserved call after
    · rw [own]
      exact fun same => absurd (Option.some.inj same) (Nat.ne_of_lt after)

theorem Inv.others (inv : Inv config s) {f : Fetch} (active : s.active = some f) :
    Others config s.log f.id where
  finished call before := by
    refine inv.finished call ?_ ?_
    · have last := (inv.waiting f active).last
      omega
    · intro g same
      obtain rfl : f = g := Option.some.inj (active.symm.trans same)
      exact Nat.ne_of_gt before
  unserved call after := by
    apply inv.unserved
    have last := (inv.waiting f active).last
    omega

/-- The call waits for its answer, and all others have returned or wait for the lock. -/
theorem Others.inv_waiting (others : Others config s.log id) {f : Fetch}
    (index : s.currentEndpointIndex < (initEndpoints config).length)
    (active : s.active = some f) (own : f.id = id) (waiting : Waiting config s f) :
    Inv config s where
  index := index
  waiting g same := by
    obtain rfl : f = g := Option.some.inj (active.symm.trans same)
    exact waiting
  finished call served inactive := by
    have other := inactive f active
    have last := waiting.last
    exact others.finished call (by omega)
  unserved call unserved := by
    have last := waiting.last
    exact others.unserved call (by omega)

/-- The call has returned, and all others have returned or wait for the lock. -/
theorem Others.inv_finished (others : Others config s.log id)
    (index : s.currentEndpointIndex < (initEndpoints config).length)
    (inactive : s.active = none) (last : id + 1 = s.served)
    (finished : Finished config s.log id) : Inv config s where
  index := index
  waiting f active := by
    rw [inactive] at active
    cases active
  finished call served _ := by
    by_cases own : call = id
    · rw [own]
      exact finished
    · exact others.finished call (by omega)
  unserved call unserved := others.unserved call (by omega)

end Others

/-- The rest of the loop keeps the invariant: the call asks the current endpoint, or gives up
after all of them have failed. -/
theorem AtHead.attempt_inv {id attempts : Nat} (head : AtHead config s id attempts)
    (oracleBoxId : Option Text) : Inv config (attempt config s id oracleBoxId attempts) := by
  obtain ⟨k, place, asked⟩ := head.place
  rw [attempt]
  by_cases bound : attempts < (initEndpoints config).length
  · have here := List.getElem?_eq_getElem head.index
    have logged : history (s.log ++ [.asked id s.currentEndpointIndex]) id =
        history s.log id ++ [.asked id s.currentEndpointIndex] := history_concat_self rfl
    have next : Asked config k (attempts + 1) attempts
        (history (s.log ++ [.asked id s.currentEndpointIndex]) id) := by
      rw [logged, place bound]
      exact asked.ask bound
    rw [if_pos bound, here]
    exact Others.inv_waiting (head.others.concat rfl) head.index rfl rfl
      ⟨head.last, here, bound, k, place bound, next⟩
  · have all : attempts = (initEndpoints config).length :=
      Nat.le_antisymm head.bound (Nat.le_of_not_lt bound)
    rw [if_neg bound]
    subst all
    exact Others.inv_finished (head.others.concat rfl) head.index rfl head.last asked.gaveUp

theorem Inv.quiet (inv : Inv config s) {s' : State Data}
    (index : s'.currentEndpointIndex < (initEndpoints config).length)
    (active : s'.active = s.active) (served : s'.served = s.served)
    (same : ∀ call, history s'.log call = history s.log call) : Inv config s' where
  index := index
  waiting f here := by
    rw [active] at here
    obtain ⟨last, requested, bound, place⟩ := inv.waiting f here
    rw [← served] at last
    rw [← same] at place
    exact ⟨last, requested, bound, place⟩
  finished call before inactive := by
    rw [served] at before
    rw [active] at inactive
    exact (inv.finished call before inactive).of_history (same call)
  unserved call after := by
    rw [served] at after
    rw [same]
    exact inv.unserved call after

/-- A call that gets the lock starts the order at the current endpoint. -/
theorem Inv.acquired (inv : Inv config s) (idle : s.active = none) (rest : List (Option Text)) :
    AtHead config { s with waiting := rest, served := s.served + 1 } s.served 0 where
  index := inv.index
  last := rfl
  bound := Nat.zero_le _
  place := by
    refine ⟨s.currentEndpointIndex, fun _ => (Nat.mod_eq_of_lt inv.index).symm, ?_⟩
    have fresh : history s.log s.served = [] := inv.unserved s.served (Nat.le_refl _)
    exact fresh ▸ Asked.nil s.currentEndpointIndex
  others := by
    refine ⟨fun call before => inv.finished call before fun f active => ?_,
      fun call after => inv.unserved call (Nat.le_of_lt after)⟩
    rw [idle] at active
    cases active

/-- A call that goes on from the endpoint it requested is at the next one of the order. -/
theorem Inv.failed (inv : Inv config s) (failover : config.enableFailover = true) {f : Fetch}
    (active : s.active = some f)
    (undisturbed : f.attempts + 1 < (initEndpoints config).length →
      s.currentEndpointIndex = f.requested) (lastError : Text) :
    AtHead config (failOver config s f lastError) f.id (f.attempts + 1) where
  index := by
    rw [failOver, if_pos failover]
    exact Nat.mod_lt _ (length_initEndpoints_pos config)
  last := (inv.waiting f active).last
  bound := (inv.waiting f active).bound
  place := by
    obtain ⟨_, _, bound, k, place, asked⟩ := inv.waiting f active
    refine ⟨k, ?_, ?_⟩
    · -- the index that is moved on is the one that was requested
      intro more
      rw [failOver, if_pos failover]
      show (s.currentEndpointIndex + 1) % _ = _
      rw [undisturbed more, place, Nat.mod_add_mod, Nat.add_assoc]
    · have logged : history (failOver config s f lastError).log f.id =
          history s.log f.id ++
            [.fetched f.id f.requested f.endpoint.url (.error lastError)] :=
        history_concat_self rfl
      rw [logged, place]
      exact asked.fail bound _ _
  others := (inv.others active).concat rfl

theorem Inv.step (inv : Inv config s) (failover : config.enableFailover = true) {e : Event Data}
    (undisturbed : Undisturbed config s e) : Inv config (OracleService.step config s e) := by
  have move := @step_call _ config s e
  generalize OracleService.step config s e = s' at move
  cases move with
  | quiet e s' idle index active served same => exact inv.quiet (index inv.index) active served same
  | acquired oracleBoxId rest idle => exact (inv.acquired idle rest).attempt_inv oracleBoxId
  | received f data active ok =>
      obtain ⟨last, requested, _, _, _, asked⟩ := inv.waiting f active
      -- `null` would be returned as if there were no data
      cases data with
      | none => exact absurd ok (undisturbed rfl f active).1
      | some data =>
          exact Others.inv_finished (((inv.others active).concat rfl).concat rfl) inv.index rfl last
            (asked.received requested data)
  | failed f lastError active error =>
      have still := (undisturbed rfl f active).2 ⟨lastError, error⟩
      exact (inv.failed failover active still lastError).attempt_inv f.oracleBoxId

end Invariant

section Failures

variable {config : OracleConfig} {s : State Data}

theorem failures_unchanged (log : List (Happened Data)) {h : Happened Data}
    (noError : h.failedIndex = none) (call : Nat) :
    failures (history (log ++ [h]) call) = failures (history log call) := by
  by_cases own : h.call = some call
  · rw [history_concat_self own, failures_concat, noError]
    exact List.append_nil _
  · rw [history_concat_of_ne own]

theorem failures_attempt (s : State Data) (id : Nat) (oracleBoxId : Option Text)
    (attempts call : Nat) :
    failures (history (attempt config s id oracleBoxId attempts).log call) =
      failures (history s.log call) := by
  rw [attempt]
  split
  · split <;> exact failures_unchanged s.log rfl call
  · exact failures_unchanged s.log rfl call

/-- An endpoint that answers throughout a call is none of those that fail it. -/
theorem notFailed_step {e : Event Data} {call index : Nat} {endpoint : OracleEndpoint}
    (inv : Inv config s) (requested : (initEndpoints config)[index]? = some endpoint)
    (answers : Answers call endpoint s) (h : index ∉ failures (history s.log call)) :
    index ∉ failures (history (step config s e).log call) := by
  have move := @step_call _ config s e
  generalize step config s e = s' at move
  cases move with
  | quiet e s' idle next active served same => rwa [same]
  | acquired oracleBoxId rest idle => rwa [failures_attempt]
  | received f data active ok =>
      have noError : failures (history
          (s.log ++ [.fetched f.id f.requested f.endpoint.url (.ok data)] ++
            [.returned f.id (.ok data)]) call) = failures (history s.log call) :=
        (failures_unchanged _ rfl call).trans (failures_unchanged _ rfl call)
      exact fun failed => h (noError ▸ failed)
  | failed f lastError active error =>
      rw [failures_attempt]
      by_cases own : f.id = call
      · subst own
        have logged : history (failOver config s f lastError).log f.id =
            history s.log f.id ++
              [.fetched f.id f.requested f.endpoint.url (.error lastError)] :=
          history_concat_self rfl
        rw [logged, failures_concat, List.mem_append]
        rintro (before | now)
        · exact h before
        · -- the endpoint that fails now would be the one that answers
          have here : f.requested = index := (List.mem_singleton.mp now).symm
          have same : f.endpoint = endpoint := by
            have waiting := (inv.waiting f active).requested
            rw [here, requested] at waiting
            exact (Option.some.inj waiting).symm
          obtain ⟨data, answer⟩ := answers f active rfl
          rw [← same, error] at answer
          cases answer
      · have other : history (failOver config s f lastError).log call = history s.log call :=
          history_concat_of_ne fun same => own (Option.some.inj same)
        rwa [other]

end Failures

section Progress

variable {config : OracleConfig} {s : State Data}

/-- The call has had `answers` answers, or has returned. -/
def Progress (s : State Data) (call answers : Nat) : Prop :=
  (∃ f, s.active = some f ∧ f.id = call ∧ f.attempts = answers) ∨
    call < s.served ∧ ∀ f, s.active = some f → f.id ≠ call

theorem attempt_frame (s : State Data) (id : Nat) (oracleBoxId : Option Text) (attempts : Nat) :
    (attempt config s id oracleBoxId attempts).currentEndpointIndex = s.currentEndpointIndex ∧
      (attempt config s id oracleBoxId attempts).served = s.served := by
  rw [attempt]
  split
  · split <;> exact ⟨rfl, rfl⟩
  · exact ⟨rfl, rfl⟩

theorem attempt_active {id attempts : Nat} {oracleBoxId : Option Text} {f : Fetch}
    (h : (attempt config s id oracleBoxId attempts).active = some f) :
    f.id = id ∧ f.attempts = attempts := by
  rw [attempt] at h
  split at h
  · split at h
    · cases h
    · cases h
      exact ⟨rfl, rfl⟩
  · cases h

theorem attempt_progress {id attempts : Nat} {oracleBoxId : Option Text} (got : id < s.served) :
    Progress (attempt config s id oracleBoxId attempts) id attempts := by
  cases active : (attempt config s id oracleBoxId attempts).active with
  | none =>
      refine .inr ⟨?_, fun f same => ?_⟩
      · rwa [(attempt_frame _ _ _ _).2]
      · rw [active] at same
        cases same
  | some f => exact .inl ⟨f, active, attempt_active active⟩

theorem Progress.step {call answers : Nat} (inv : Inv config s) (h : Progress s call answers)
    (e : Event Data) :
    Progress (OracleService.step config s e) call
      (if e.isAnswer then answers + 1 else answers) := by
  have move := @step_call _ config s e
  generalize OracleService.step config s e = s' at move
  cases move with
  | quiet e s' idle index active served same =>
      rw [Progress, active, served]
      by_cases answer : e.isAnswer
      · refine .inr ?_
        obtain ⟨f, here, _⟩ | returned := h
        · rw [idle answer] at here
          cases here
        · exact returned
      · rw [if_neg answer]
        exact h
  | acquired oracleBoxId rest idle =>
      obtain ⟨f, here, _⟩ | ⟨before, _⟩ := h
      · rw [idle] at here
        cases here
      · refine .inr ⟨?_, fun f active own => ?_⟩
        · rw [(attempt_frame _ _ _ _).2]
          exact Nat.lt_succ_of_lt before
        · exact Nat.ne_of_gt before ((attempt_active active).1.symm.trans own)
  | received f data active ok =>
      have last := (inv.waiting f active).last
      refine .inr ⟨?_, nofun⟩
      obtain ⟨g, same, own, _⟩ | ⟨before, _⟩ := h
      · obtain rfl : f = g := Option.some.inj (active.symm.trans same)
        show call < s.served
        omega
      · exact before
  | failed f lastError active error =>
      have last := (inv.waiting f active).last
      obtain ⟨g, same, rfl, rfl⟩ | ⟨before, other⟩ := h
      · obtain rfl : f = g := Option.some.inj (active.symm.trans same)
        refine attempt_progress ?_
        show f.id < s.served
        omega
      · refine .inr ⟨?_, fun g next own => ?_⟩
        · rw [(attempt_frame _ _ _ _).2]
          exact before
        · exact other f active ((attempt_active next).1.symm.trans own)

theorem Progress.foldl (failover : config.enableFailover = true) {call answers : Nat}
    (inv : Inv config s) (h : Progress s call answers) {run : List (Event Data)}
    (undisturbed : EveryStep (OracleService.step config) (Undisturbed config) s run) :
    Progress (run.foldl (OracleService.step config) s) call
      (answers + run.countP Event.isAnswer) := by
  induction run generalizing s answers with
  | nil => exact h
  | cons e rest ih =>
      have next := ih (inv.step failover undisturbed.1) (h.step inv e) undisturbed.2
      have count : (if e.isAnswer then answers + 1 else answers) + rest.countP Event.isAnswer =
          answers + (e :: rest).countP Event.isAnswer := by
        rw [List.countP_cons]
        split <;> omega
      rw [count] at next
      exact next

end Progress

section Run

variable {config : OracleConfig} {s : State Data}

theorem index_step (h : s.currentEndpointIndex < (initEndpoints config).length) (e : Event Data) :
    (step config s e).currentEndpointIndex < (initEndpoints config).length := by
  have move := @step_call _ config s e
  generalize step config s e = s' at move
  cases move with
  | quiet e s' idle index active served same => exact index h
  | acquired oracleBoxId rest idle => rwa [(attempt_frame _ _ _ _).1]
  | received f data active ok => exact h
  | failed f lastError active error =>
      rw [(attempt_frame _ _ _ _).1, failOver]
      dsimp only
      split
      · exact Nat.mod_lt _ (length_initEndpoints_pos config)
      · exact h

theorem index_foldl (h : s.currentEndpointIndex < (initEndpoints config).length)
    (run : List (Event Data)) :
    (run.foldl (step config) s).currentEndpointIndex < (initEndpoints config).length := by
  induction run generalizing s with
  | nil => exact h
  | cons e rest ih => exact ih (index_step h e)

theorem inv_start {index : Nat} (h : index < (initEndpoints config).length) (now : Int)
    (web : Text → Answer Data) : Inv config (.start index now web) where
  index := h
  waiting := nofun
  finished := nofun
  unserved _ _ := rfl

theorem Inv.asksOnce (inv : Inv config s) (call : Nat) : (asks (history s.log call)).Nodup := by
  by_cases waiting : ∃ f, s.active = some f ∧ f.id = call
  · obtain ⟨f, active, rfl⟩ := waiting
    obtain ⟨_, _, _, _, _, asked⟩ := inv.waiting f active
    exact asked.asksOnce
  · by_cases served : call < s.served
    · have inactive : ∀ f, s.active = some f → f.id ≠ call :=
        fun f active own => waiting ⟨f, active, own⟩
      exact (inv.finished call served inactive).asksOnce
    · rw [inv.unserved call (Nat.le_of_not_lt served)]
      exact List.nodup_nil

/-- Only a call that returned has a result. -/
theorem Inv.finished_of_result (inv : Inv config s) {call : Nat}
    {result : Except String (Option Data)} (h : result ∈ results (history s.log call)) :
    Finished config s.log call := by
  by_cases waiting : ∃ f, s.active = some f ∧ f.id = call
  · obtain ⟨f, active, rfl⟩ := waiting
    obtain ⟨_, _, _, _, _, asked⟩ := inv.waiting f active
    rw [asked.results] at h
    exact absurd h List.not_mem_nil
  · by_cases served : call < s.served
    · exact inv.finished call served fun f active own => waiting ⟨f, active, own⟩
    · rw [inv.unserved call (Nat.le_of_not_lt served)] at h
      exact absurd h List.not_mem_nil

theorem FailsOver.of_everyStep (failover : config.enableFailover = true) (inv : Inv config s)
    (fresh : s.log = []) {run : List (Event Data)}
    (undisturbed : EveryStep (step config) (Undisturbed config) s run) :
    FailsOver config s run := by
  have kept : ∀ (s : State Data) (e : Event Data), Inv config s → Undisturbed config s e →
      Inv config (step config s e) := fun s e inv => inv.step failover
  have final := foldl_of_everyStep kept inv undisturbed
  refine ⟨final.asksOnce, ?_, ?_⟩
  · rintro before after f rfl active enough
    obtain ⟨first, second⟩ := everyStep_append.mp undisturbed
    have middle := foldl_of_everyStep kept inv first
    have progress := Progress.foldl failover middle (.inl ⟨f, active, rfl, rfl⟩) second
    rw [← List.foldl_append] at progress
    obtain ⟨g, waiting, _, answers⟩ | ⟨served, returned⟩ := progress
    · have bound := (final.waiting g waiting).bound
      omega
    · obtain ⟨data, _, _, _, _, result⟩ | ⟨result, _⟩ :=
        (final.finished f.id served returned).returned
      · exact ⟨_, result⟩
      · exact ⟨_, result⟩
  · intro call endpoint inside answers result returned
    obtain ⟨index, requested⟩ := List.getElem?_of_mem inside
    have fresh : index ∉ failures (history s.log call) := by
      rw [fresh]
      exact List.not_mem_nil
    have keptBoth : ∀ (s : State Data) (e : Event Data),
        Inv config s ∧ index ∉ failures (history s.log call) →
        Answers call endpoint s ∧ Undisturbed config s e →
        Inv config (step config s e) ∧
          index ∉ failures (history (step config s e).log call) :=
      fun s e both cond =>
        ⟨kept s e both.1 cond.2, notFailed_step both.1 requested cond.1 both.2⟩
    have notFailed :=
      foldl_of_everyStep keptBoth ⟨inv, fresh⟩ (undisturbed.and_always answers)
    obtain ⟨data, i, source, here, answered, same⟩ | ⟨_, all⟩ :=
      (final.finished_of_result returned).returned
    · rw [same, List.mem_singleton] at returned
      exact ⟨data, i, source, here, mem_log_of_mem_history answered, returned⟩
    · have position := (List.getElem?_eq_some_iff.mp requested).1
      exact absurd (all index position) notFailed.2

end Run

/-- The index is one of the list in every run. In a run where no failed request of a call but
its last finds the index moved, and no answer is JSON's `null`, every call asks an endpoint at
most once and returns data if there is an endpoint that answers throughout. -/
theorem oracle_failover (config : OracleConfig) (failover : config.enableFailover = true)
    (index : Nat) (h : index < (initEndpoints config).length) (now : Int)
    (web : Text → Answer Data) :
    (∀ run : List (Event Data),
      (run.foldl (step config) (.start index now web)).currentEndpointIndex <
        (initEndpoints config).length) ∧
    ∀ run : List (Event Data),
      EveryStep (step config) (Undisturbed config) (.start index now web) run →
      FailsOver config (.start index now web) run :=
  ⟨fun run => index_foldl h run, fun _ undisturbed =>
    FailsOver.of_everyStep failover (inv_start h now web) rfl undisturbed⟩

section Example

/-- The primary endpoint and a backup. -/
def twoEndpoints : OracleConfig := { primaryOracleUrl := ['a'], backupOracleUrls := [['b']] }

def backupEndpoint : OracleEndpoint :=
  { url := ['b'], name := "backup-2".toList, isPrimary := false, priority := 2 }

/-- The primary endpoint does not answer. -/
def onlyBackup : Text → Answer Unit := fun url =>
  if url = ['a'] then .raised (.timeout []) else .body (.ok (some ()))

theorem endpoints_twoEndpoints :
    initEndpoints twoEndpoints =
      [{ url := ['a'], name := "primary".toList, isPrimary := true, priority := 1 },
        backupEndpoint] :=
  initEndpoints_eq twoEndpoints

theorem answers_backup (call : Nat) {s : State Unit} (h : s.web = onlyBackup) :
    Answers call backupEndpoint s := by
  intro f _ _
  refine ⟨(), ?_⟩
  rw [h]
  rcases f.oracleBoxId with _ | _ | ⟨c, oracleBoxId⟩
  · rfl
  · rfl
  · have other : dataUrl backupEndpoint (some (c :: oracleBoxId)) ≠ ['a'] := by
      intro same
      exact absurd (List.cons.inj same).1 (by decide)
    rw [onlyBackup, if_neg other]
    rfl

/-- A call that nothing disturbs goes on to the backup. -/
theorem oracle_failover_backup :
    EveryStep (step twoEndpoints) (Undisturbed twoEndpoints) (.start 0 0 onlyBackup)
        [.call none, .acquire, .answer, .answer] ∧
      FailsOver twoEndpoints (.start 0 0 onlyBackup) [.call none, .acquire, .answer, .answer] := by
  have undisturbed : EveryStep (step twoEndpoints) (Undisturbed twoEndpoints)
      (.start 0 0 onlyBackup) [.call none, .acquire, .answer, .answer] := by
    refine ⟨nofun, nofun, ?_, ?_, trivial⟩
    · rintro - f ⟨⟩
      exact ⟨nofun, fun _ _ => rfl⟩
    · rintro - f ⟨⟩
      exact ⟨nofun, fun _ _ => rfl⟩
  have inside : 0 < (initEndpoints twoEndpoints).length := by
    rw [endpoints_twoEndpoints]
    decide
  exact ⟨undisturbed, (oracle_failover twoEndpoints rfl 0 inside 0 onlyBackup).2 _ undisturbed⟩

/-- The switch to the backup while the primary endpoint's answer is awaited: the call goes on to
the primary endpoint again, and returns nothing. -/
def disturbedRun : List (Event Unit) :=
  [.call none, .acquire, .switch "backup-2".toList, .answer, .answer]

theorem failover_disturbed :
    asks (history (disturbedRun.foldl (step twoEndpoints) (.start 0 0 onlyBackup)).log 0) =
        [0, 0] ∧
      results (history (disturbedRun.foldl (step twoEndpoints) (.start 0 0 onlyBackup)).log 0) =
        [.ok none] ∧
      Always (step twoEndpoints) (Answers 0 backupEndpoint) (.start 0 0 onlyBackup)
        disturbedRun ∧
      ¬ FailsOver twoEndpoints (.start 0 0 onlyBackup) disturbedRun := by
  have asked : asks (history
      (disturbedRun.foldl (step twoEndpoints) (.start 0 0 onlyBackup)).log 0) = [0, 0] := rfl
  have answers : Always (step twoEndpoints) (Answers 0 backupEndpoint) (.start 0 0 onlyBackup)
      disturbedRun :=
    ⟨answers_backup 0 rfl, answers_backup 0 rfl, answers_backup 0 rfl, answers_backup 0 rfl,
      answers_backup 0 rfl, answers_backup 0 rfl⟩
  refine ⟨asked, rfl, answers, fun failsOver => ?_⟩
  have once := failsOver.asksOnce 0
  rw [asked] at once
  exact absurd once (by decide)

end Example

end DuckPools.Backend.OracleService
