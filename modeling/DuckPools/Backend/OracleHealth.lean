import DuckPools.Backend.OracleService
import DuckPools.Language.Traces

/-!
# What the oracle service reports of its endpoints

A failed request is written into the entry of its URL before anything else happens, so the
reports follow the requests. The one writer without a request is the check for a stale feed,
at the end of a round: whatever the current endpoint's entry says by then is replaced by the
age of the feed. An endpoint is its URL here, as it is for the service.
-/

namespace DuckPools.Backend.OracleService

open Traces

variable {Data : Type}

/-- The URL of a request that was answered, and its error. -/
def Happened.request : Happened Data → Option (Text × Option Text)
  | fetched _ _ url (.ok _) => some (url, none)
  | fetched _ _ url (.error error) => some (url, some error)
  | probed url error => some (url, error)
  | _ => none

/-- The error of the most recent request to an endpoint, if there was a request. -/
def lastRequest (log : List (Happened Data)) (url : Text) : Option (Option Text) :=
  (((log.filterMap Happened.request).filter (·.1 = url)).getLast?).map Prod.snd

/-- The most recent request to the endpoint failed with this error. -/
def Failed (s : State Data) (endpoint : OracleEndpoint) (error : Text) : Prop :=
  lastRequest s.log endpoint.url = some (some error)

structure Truthful (config : OracleConfig) (s : State Data) : Prop where
  reported : ∀ endpoint ∈ initEndpoints config, ∀ error, Failed s endpoint error →
    ∃ report, (getHealthStatus config s).lookup endpoint.name = some report ∧
      report.url = endpoint.url ∧ report.status = "unreachable" ∧ report.error = some error
  ok : (getServiceStatus config s).status = "ok" → ∀ endpoint,
    currentEndpoint config s = some endpoint → ∀ error, ¬ Failed s endpoint error

/-- No round ends, after a feed was received, while the current endpoint's most recent request
is one that failed. -/
def KeepsReports (config : OracleConfig) (s : State Data) (e : Event Data) : Prop :=
  e = .settle → Gathered s → s.lastFeedUpdate ≠ none → ∀ endpoint,
    currentEndpoint config s = some endpoint → ∀ error, ¬ Failed s endpoint error

section Requests

theorem lastRequest_concat (log : List (Happened Data)) (h : Happened Data) (url : Text) :
    lastRequest (log ++ [h]) url =
      match h.request with
      | some (requested, error) => if requested = url then some error else lastRequest log url
      | none => lastRequest log url := by
  rw [lastRequest, List.filterMap_append, List.filter_append]
  cases request : h.request with
  | none => simp [request, lastRequest]
  | some entry =>
      obtain ⟨requested, error⟩ := entry
      by_cases same : requested = url
      · simp [request, same]
      · simp [request, same, lastRequest]

end Requests

/-- The entry of an endpoint is what its most recent request failed with. -/
def Recorded (config : OracleConfig) (s : State Data) : Prop :=
  ∀ endpoint ∈ initEndpoints config, ∀ error, Failed s endpoint error →
    ∃ health, s.healthStatus.lookup endpoint.url = some health ∧
      health.status = .UNREACHABLE ∧ health.error = some error

section Reports

variable {config : OracleConfig} {s : State Data}

theorem value_eq_unreachable_iff (status : OracleStatus) :
    status.value = "unreachable" ↔ status = .UNREACHABLE := by
  cases status <;> decide

/-- The reports say of every endpoint what its entry says, and so does the overall status. -/
theorem truthful_iff_recorded : Truthful config s ↔ Recorded config s := by
  constructor
  · intro truthful endpoint inside error failed
    obtain ⟨shown, found, _, status, message⟩ := truthful.reported endpoint inside error failed
    rw [lookup_getHealthStatus inside, Option.some.injEq] at found
    subst found
    rw [report] at status message
    cases entry : s.healthStatus.lookup endpoint.url with
    | none =>
        rw [entry] at status
        have unknown : "unknown" = "unreachable" := status
        exact absurd unknown (by decide)
    | some health =>
        rw [entry] at status message
        exact ⟨health, rfl, (value_eq_unreachable_iff _).mp status, message⟩
  · intro recorded
    refine ⟨?_, ?_⟩
    · intro endpoint inside error failed
      obtain ⟨health, entry, status, message⟩ := recorded endpoint inside error failed
      refine ⟨_, lookup_getHealthStatus inside, ?_⟩
      rw [report, entry]
      exact ⟨rfl, (value_eq_unreachable_iff _).mpr status, message⟩
    · intro ok endpoint current error failed
      obtain ⟨health, entry, status, _⟩ :=
        recorded endpoint (mem_of_currentEndpoint current) error failed
      have degraded : (getServiceStatus config s).status = "degraded" := by
        simp [getServiceStatus, current, entry, status]
      rw [degraded] at ok
      exact absurd ok (by decide)

end Reports

section Steps

variable {config : OracleConfig} {s s' : State Data}

/-- What a step does to the entries and to the log, as far as requests go: nothing, or it
answers one request and leaves the entry of its URL alone only if the request succeeded. -/
inductive HealthMove (s s' : State Data) : Prop
  | quiet (entries : s'.healthStatus = s.healthStatus)
      (log : ∀ url, lastRequest s'.log url = lastRequest s.log url)
  | received (url : Text) (entries : s'.healthStatus = s.healthStatus)
      (log : ∀ u, lastRequest s'.log u = if url = u then some none else lastRequest s.log u)
  | wrote (url : Text) (error : Option Text) (health : OracleHealth)
      (entries : s'.healthStatus = s.healthStatus.insert url health)
      (log : ∀ u, lastRequest s'.log u = if url = u then some error else lastRequest s.log u)
      (recorded : ∀ message, error = some message →
        health.status = .UNREACHABLE ∧ health.error = some message)

theorem Recorded.move (recorded : Recorded config s) (move : HealthMove s s') :
    Recorded config s' := by
  intro endpoint inside error failed
  rw [Failed] at failed
  cases move with
  | quiet entries log =>
      rw [log] at failed
      rw [entries]
      exact recorded endpoint inside error failed
  | received url entries log =>
      rw [log] at failed
      rw [entries]
      split at failed
      · cases failed
      · exact recorded endpoint inside error failed
  | wrote url written health entries log justified =>
      rw [log] at failed
      rw [entries]
      split at failed
      · rename_i same
        obtain ⟨status, message⟩ := justified error (Option.some.inj failed)
        subst same
        exact ⟨health, Finmap.lookup_insert _, status, message⟩
      · rename_i other
        rw [Finmap.lookup_insert_of_ne _ (Ne.symm other)]
        exact recorded endpoint inside error failed

/-- The call goes on, or returns, without a trace in the entries. -/
theorem attempt_quiet (s : State Data) (id : Nat) (oracleBoxId : Option Text) (attempts : Nat) :
    (attempt config s id oracleBoxId attempts).healthStatus = s.healthStatus ∧
    ∀ url, lastRequest (attempt config s id oracleBoxId attempts).log url =
      lastRequest s.log url := by
  rw [attempt]
  split
  · split
    · exact ⟨rfl, fun url => lastRequest_concat _ _ url⟩
    · exact ⟨rfl, fun url => lastRequest_concat _ _ url⟩
  · exact ⟨rfl, fun url => lastRequest_concat _ _ url⟩

theorem acquire_move (s : State Data) : HealthMove s (acquire config s) := by
  rw [acquire]
  split
  · rename_i oracleBoxId rest _ _
    obtain ⟨entries, log⟩ := @attempt_quiet _ config
      { s with waiting := rest, served := s.served + 1 } s.served oracleBoxId 0
    exact .quiet entries log
  · exact .quiet rfl fun _ => rfl

theorem answer_move (s : State Data) : HealthMove s (answer config s) := by
  rw [answer]
  split
  · exact .quiet rfl fun _ => rfl
  · rename_i f _
    split
    · rename_i data _
      refine .received f.endpoint.url rfl fun u => ?_
      exact (lastRequest_concat _ (.returned f.id (.ok data)) u).trans (lastRequest_concat _ _ u)
    · rename_i lastError _
      obtain ⟨entries, log⟩ := @attempt_quiet _ config (failOver config s f lastError) f.id
        f.oracleBoxId (f.attempts + 1)
      refine .wrote f.endpoint.url (some lastError) _ entries ?_ ?_
      · intro u
        rw [log]
        exact lastRequest_concat _ _ u
      · rintro message ⟨⟩
        exact ⟨rfl, rfl⟩

theorem checkEndpoint_move (s : State Data) (i : Nat) :
    HealthMove s (checkEndpoint config s i) := by
  rw [checkEndpoint]
  split
  · exact .quiet rfl fun _ => rfl
  · split
    · rename_i startTime endpoint _ _
      refine .wrote endpoint.url _ _ rfl (fun u => lastRequest_concat _ _ u) ?_
      intro message failed
      rw [failed]
      exact ⟨rfl, rfl⟩
    · exact .quiet rfl fun _ => rfl

/-- Of all steps, only the end of a round changes entries without a request. -/
theorem step_move (s : State Data) (e : Event Data) (h : e ≠ .settle) :
    HealthMove s (step config s e) := by
  cases e with
  | call oracleBoxId => exact .quiet rfl fun _ => rfl
  | acquire => exact acquire_move s
  | answer => exact answer_move s
  | check =>
      rw [step, checkAllEndpoints]
      split <;> exact .quiet rfl fun _ => rfl
  | probe i =>
      rw [step, sendProbe]
      split
      · exact .quiet rfl fun _ => rfl
      · split <;> exact .quiet rfl fun _ => rfl
  | probed i => exact checkEndpoint_move s i
  | settle => exact absurd rfl h
  | switch name =>
      rw [step, switchOracleEndpoint]
      split <;> exact .quiet rfl fun _ => rfl
  | network now web => exact .quiet rfl fun _ => rfl

theorem Recorded.settle_iff (recorded : Recorded config s) :
    Recorded config (settle config s) ↔ KeepsReports config s .settle := by
  by_cases gathered : Gathered s
  · rw [settle, if_pos gathered]
    obtain ⟨same, unset⟩ | ⟨current, health, feed, here, written, noError⟩ :=
      @checkStaleFeed_cases _ config { s with round := none }
    · rw [same]
      refine iff_of_true recorded fun _ _ feed endpoint current => ?_
      obtain never | nowhere := unset
      · exact absurd never feed
      · exact absurd (current.symm.trans nowhere) nofun
    · rw [written]
      constructor
      · intro next _ _ _ endpoint isCurrent error failed
        obtain rfl : current = endpoint := Option.some.inj (here.symm.trans isCurrent)
        obtain ⟨entry, found, _, message⟩ :=
          next current (mem_of_currentEndpoint here) error failed
        obtain rfl : health = entry :=
          Option.some.inj ((Finmap.lookup_insert _).symm.trans found)
        exact absurd (noError.symm.trans message) nofun
      · intro keeps endpoint inside error failed
        have other : endpoint.url ≠ current.url := by
          intro url
          have currentFailed : Failed s current error := by
            rw [Failed, ← url]
            exact failed
          exact keeps rfl gathered feed current here error currentFailed
        obtain ⟨entry, found, status, message⟩ := recorded endpoint inside error failed
        exact ⟨entry, (Finmap.lookup_insert_of_ne _ other).trans found, status, message⟩
  · rw [settle, if_neg gathered]
    exact iff_of_true recorded fun _ done => absurd done gathered

theorem Recorded.step_iff (recorded : Recorded config s) (e : Event Data) :
    Recorded config (step config s e) ↔ KeepsReports config s e := by
  by_cases h : e = .settle
  · subst h
    exact recorded.settle_iff
  · exact iff_of_true (recorded.move (step_move s e h)) fun same => absurd same h

end Steps

/-- In every order of the tasks, all reports are truthful after every step exactly if no round
replaces the entry of a current endpoint whose most recent request failed. -/
theorem reports_truthful_iff (config : OracleConfig) (index : Nat) (now : Int)
    (web : Text → Answer Data) (run : List (Event Data)) :
    Always (step config) (Truthful config) (.start index now web) run ↔
      EveryStep (step config) (KeepsReports config) (.start index now web) run := by
  have initial : Recorded config (.start index now web) := by
    intro endpoint _ error failed
    cases failed
  have exact_step : ∀ (s : State Data) (e : Event Data), True → True → Truthful config s →
      (Truthful config (step config s e) ↔ KeepsReports config s e) := by
    intro s e _ _ truthful
    rw [truthful_iff_recorded]
    exact (truthful_iff_recorded.mp truthful).step_iff e
  exact @always_iff_everyStep _ _ (step config) (fun _ => True) _ (fun _ => True) _
    (fun _ _ _ _ => trivial) exact_step _ trivial (truthful_iff_recorded.mpr initial) run
    fun _ _ => trivial

section Example

/-- Only the primary endpoint. -/
def exampleConfig : OracleConfig := { primaryOracleUrl := ['a'] }

/-- Every request is answered with data. -/
def answering : Text → Answer Unit := fun _ => .body (.ok (some ()))

/-- No request is answered. -/
def silent : Text → Answer Unit := fun _ => .raised (.timeout [])

/-- A call is answered; the network fails, and a round of the health check finds out. -/
def exampleRun : List (Event Unit) :=
  [.call none, .acquire, .answer, .network 0 silent, .check, .probe 0, .probed 0, .settle]

/-- After the round the endpoint is reported as healthy, and the service as ok. -/
theorem failed_probe_replaced :
    ¬ Truthful exampleConfig
        (exampleRun.foldl (step exampleConfig) (.start 0 0 answering)) ∧
    (getServiceStatus exampleConfig
      (exampleRun.foldl (step exampleConfig) (.start 0 0 answering))).status = "ok" := by
  have endpoints : initEndpoints exampleConfig =
      [{ url := ['a'], name := "primary".toList, isPrimary := true, priority := 1 }] :=
    initEndpoints_eq exampleConfig
  have failed : Failed (exampleRun.foldl (step exampleConfig) (.start 0 0 answering))
      { url := ['a'], name := "primary".toList, isPrimary := true, priority := 1 } [] := rfl
  have shown : (getServiceStatus exampleConfig
      (exampleRun.foldl (step exampleConfig) (.start 0 0 answering))).status = "ok" := rfl
  exact ⟨fun truthful => truthful.ok shown _ rfl _ failed, shown⟩

end Example

end DuckPools.Backend.OracleService
