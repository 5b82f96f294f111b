import DuckPools.Language.NumberText
import DuckPools.Language.PythonText
import DuckPools.Language.SetTable
import Mathlib.Data.List.DropRight
import Mathlib.Data.List.Sort
import Mathlib.Data.Rat.Defs

/-!
# The oracle service: `backend/oracle_service.py`, `backend/oracle_routes.py`

The service has been started, and its tasks run between their awaits: calls of
`get_oracle_data`, which wait for the lock in turn and then request one endpoint after the
other, the rounds of the health check, whose probes are under way together, and
`switch_oracle_endpoint`, which waits for nothing. What a request is answered is what the
network has for its URL when the answer comes, and the network changes at any time.

Times are microseconds, where the source shows them as ISO texts. The log is not part of
the service: it records what was requested, answered and returned.
-/

namespace DuckPools.Backend.OracleService

inductive OracleStatus where
  | HEALTHY
  | STALE
  | UNREACHABLE
  | ERROR
  deriving DecidableEq

def OracleStatus.value : OracleStatus → String
  | HEALTHY => "healthy"
  | STALE => "stale"
  | UNREACHABLE => "unreachable"
  | ERROR => "error"

structure OracleEndpoint where
  url : Text
  name : Text
  isPrimary : Bool := false
  priority : Nat := 1
  deriving DecidableEq

structure OracleHealth where
  url : Text
  status : OracleStatus
  lastUpdated : Option Int
  latencyMs : Option ℚ
  error : Option Text

structure OracleConfig where
  primaryOracleUrl : Text := "https://api.oraclepool.xyz".toList
  backupOracleUrls : List Text := []
  staleThresholdSeconds : Int := 300
  healthCheckIntervalSeconds : Int := 30
  enableFailover : Bool := true

/-- What `get` and `raise_for_status` raise. The last message of each is `str(e)`. -/
inductive Raised where
  | timeout (message : Text)
  | httpStatus (statusCode : Nat) (body message : Text)
  | other (message : Text)

/-- An answer with its body read by `response.json()`, where JSON's `null` is `none`, or raises
with a message. -/
inductive Answer (Data : Type) where
  | raised (e : Raised)
  | body (json : Except Text (Option Data))

/-- `last_error` -/
def Raised.lastError : Raised → Text
  | timeout message => "Timeout: ".toList ++ message
  | httpStatus statusCode body _ =>
      "HTTP ".toList ++ Nat.toDigits 10 statusCode ++ ": ".toList ++ body
  | other message => message

/-- `str(e)` -/
def Raised.message : Raised → Text
  | timeout message => message
  | httpStatus _ _ message => message
  | other message => message

/-- What a call makes of an answer. -/
def Answer.data {Data : Type} : Answer Data → Except Text (Option Data)
  | raised e => .error e.lastError
  | body json => json

/-- The error that a probe makes of an answer; its body is not read. -/
def Answer.probeError {Data : Type} : Answer Data → Option Text
  | raised e => some e.message
  | body _ => none

def OracleConfig.backup (url : Text) (i : Nat) : OracleEndpoint :=
  { url, name := "backup-".toList ++ Nat.toDigits 10 i, isPrimary := false, priority := i }

/-- `_init_endpoints` -/
def initEndpoints (config : OracleConfig) : List OracleEndpoint :=
  let primary : OracleEndpoint :=
    { url := config.primaryOracleUrl, name := "primary".toList, isPrimary := true, priority := 1 }
  let backups := (config.backupOracleUrls.zipIdx 2).map fun (url, i) => OracleConfig.backup url i
  (primary :: backups).insertionSort fun a b => a.priority ≤ b.priority

/-- The call that holds the lock, while it waits for an answer. -/
structure Fetch where
  id : Nat
  oracleBoxId : Option Text
  attempts : Nat
  /-- The index of `endpoint`. -/
  requested : Nat
  endpoint : OracleEndpoint

/-- A task of `gather`. -/
inductive Probe where
  | created
  | sent (startTime : Int)
  | finished
  deriving DecidableEq

/-- What is logged: requests of a call, their answers, its result, and answers to probes. -/
inductive Happened (Data : Type) where
  | asked (call index : Nat)
  | fetched (call index : Nat) (url : Text) (outcome : Except Text (Option Data))
  | returned (call : Nat) (result : Except String (Option Data))
  | probed (url : Text) (error : Option Text)

structure State (Data : Type) where
  currentEndpointIndex : Nat
  healthStatus : Dict Text OracleHealth
  lastFeedUpdate : Option Int
  /-- The calls that wait for the lock, by their box. -/
  waiting : List (Option Text)
  /-- The number of calls that have got the lock. -/
  served : Nat
  active : Option Fetch
  round : Option (List Probe)
  now : Int
  web : Text → Answer Data
  log : List (Happened Data)

/-- After `start`, with any endpoint selected. -/
def State.start {Data : Type} (index : Nat) (now : Int) (web : Text → Answer Data) : State Data :=
  { currentEndpointIndex := index, healthStatus := ∅, lastFeedUpdate := none, waiting := []
    served := 0, active := none, round := none, now, web, log := [] }

inductive Event (Data : Type) where
  | call (oracleBoxId : Option Text)
  | acquire
  | answer
  | check
  | probe (i : Nat)
  | probed (i : Nat)
  | settle
  | switch (targetEndpointName : Text)
  | network (now : Int) (web : Text → Answer Data)

section Source

variable {Data : Type} (config : OracleConfig) (s : State Data)

/-- `current_endpoint` -/
def currentEndpoint : Option OracleEndpoint := (initEndpoints config)[s.currentEndpointIndex]?

/-- `url.rstrip('/')` -/
def rstripSlash (url : Text) : Text := url.rdropWhile (· = '/')

/-- "Build request URL"; the empty id is as good as none. -/
def dataUrl (endpoint : OracleEndpoint) : Option Text → Text
  | none | some [] => endpoint.url
  | some oracleBoxId => rstripSlash endpoint.url ++ "/box/".toList ++ oracleBoxId

def infoUrl (endpoint : OracleEndpoint) : Text := rstripSlash endpoint.url ++ "/info".toList

/-- The call returns, or raises, and gives the lock back. -/
def finish (id : Nat) (result : Except String (Option Data)) : State Data :=
  { s with active := none, log := s.log ++ [.returned id result] }

/-- The head of the loop of `get_oracle_data`, up to the request. -/
def attempt (id : Nat) (oracleBoxId : Option Text) (attempts : Nat) : State Data :=
  if attempts < (initEndpoints config).length then
    match (initEndpoints config)[s.currentEndpointIndex]? with
    | none => finish s id (.error "list index out of range")
    | some endpoint =>
        { s with
          active := some
            { id, oracleBoxId, attempts, requested := s.currentEndpointIndex, endpoint }
          log := s.log ++ [.asked id s.currentEndpointIndex] }
  else finish s id (.ok none)

/-- `async with self._lock` -/
def acquire : State Data :=
  match s.active, s.waiting with
  | none, oracleBoxId :: rest =>
      attempt config { s with waiting := rest, served := s.served + 1 } s.served oracleBoxId 0
  | _, _ => s

def unreachable (url : Text) (error : Text) : OracleHealth :=
  { url, status := .UNREACHABLE, lastUpdated := some s.now, latencyMs := none, error := some error }

/-- "Mark this endpoint as unhealthy and try next" -/
def failOver (f : Fetch) (lastError : Text) : State Data :=
  let index := s.currentEndpointIndex
  { s with
    healthStatus := s.healthStatus.insert f.endpoint.url (unreachable s f.endpoint.url lastError)
    currentEndpointIndex :=
      if config.enableFailover then (index + 1) % (initEndpoints config).length else index
    log := s.log ++ [.fetched f.id f.requested f.endpoint.url (.error lastError)] }

/-- The rest of the loop of `get_oracle_data`, from the answer on. -/
def answer : State Data :=
  match s.active with
  | none => s
  | some f =>
      match (s.web (dataUrl f.endpoint f.oracleBoxId)).data with
      | .ok data =>
          finish
            { s with
              lastFeedUpdate := some s.now
              log := s.log ++ [.fetched f.id f.requested f.endpoint.url (.ok data)] }
            f.id (.ok data)
      | .error lastError =>
          attempt config (failOver config s f lastError) f.id f.oracleBoxId (f.attempts + 1)

/-- `_check_all_endpoints`, up to `gather`. -/
def checkAllEndpoints : State Data :=
  match s.round with
  | none => { s with round := some (List.replicate (initEndpoints config).length .created) }
  | some _ => s

/-- `_check_endpoint`, up to the request. -/
def sendProbe (i : Nat) : State Data :=
  match s.round with
  | none => s
  | some probes =>
      if probes[i]? = some .created then { s with round := some (probes.set i (.sent s.now)) }
      else s

/-- What a probe that was sent at `startTime` writes about its endpoint. -/
def probeHealth (url : Text) (startTime : Int) : Option Text → OracleHealth
  | none =>
      { url, status := .HEALTHY, lastUpdated := some s.now
        latencyMs := some ((s.now - startTime : Int) / 1000), error := none }
  | some error => unreachable s url error

/-- `_check_endpoint`, from the answer on. -/
def checkEndpoint (i : Nat) : State Data :=
  match s.round with
  | none => s
  | some probes =>
      match probes[i]?, (initEndpoints config)[i]? with
      | some (.sent startTime), some endpoint =>
          let error := (s.web (infoUrl endpoint)).probeError
          { s with
            round := some (probes.set i .finished)
            healthStatus :=
              s.healthStatus.insert endpoint.url (probeHealth s endpoint.url startTime error)
            log := s.log ++ [.probed endpoint.url error] }
      | _, _ => s

/-- "Check for stale feed" -/
def checkStaleFeed : State Data :=
  match s.lastFeedUpdate with
  | none => s
  | some lastFeedUpdate =>
      let status : OracleStatus :=
        if s.now - lastFeedUpdate > config.staleThresholdSeconds * 1000000 then .STALE
        else .HEALTHY
      match currentEndpoint config s with
      | none => s
      | some current =>
          { s with
            healthStatus := s.healthStatus.insert current.url
              { url := current.url
                status
                lastUpdated := s.lastFeedUpdate
                latencyMs := (s.healthStatus.lookup current.url).bind OracleHealth.latencyMs
                error := none } }

/-- All tasks of `gather` are done. -/
def Gathered : Prop := ∃ probes, s.round = some probes ∧ ∀ p ∈ probes, p = .finished

instance : Decidable (Gathered s) :=
  match h : s.round with
  | none => isFalse fun ⟨_, same, _⟩ => by rw [h] at same; cases same
  | some probes =>
      decidable_of_iff (∀ p ∈ probes, p = .finished)
        ⟨fun done => ⟨probes, h, done⟩, fun ⟨_, same, done⟩ => by
          rw [h] at same
          cases same
          exact done⟩

/-- `_check_all_endpoints`, from `gather` on. -/
def settle : State Data :=
  if Gathered s then checkStaleFeed config { s with round := none } else s

structure SwitchResponse where
  message : Text
  currentEndpoint : Option Text

/-- `switch_oracle_endpoint`; an `HTTPException` is its status and its detail. -/
def switchOracleEndpoint (targetEndpointName : Text) :
    Except (Nat × Text) SwitchResponse × State Data :=
  match (initEndpoints config).findIdx? (·.name = targetEndpointName) with
  | none => (.error (404, "Endpoint '".toList ++ targetEndpointName ++ "' not found".toList), s)
  | some targetIndex =>
      let s := { s with currentEndpointIndex := targetIndex }
      (.ok
        { message := "Switched to endpoint '".toList ++ targetEndpointName ++ "'".toList
          currentEndpoint := (currentEndpoint config s).map OracleEndpoint.name }, s)

/-- What an event does; one that does not apply does nothing. -/
def step : Event Data → State Data
  | .call oracleBoxId => { s with waiting := s.waiting ++ [oracleBoxId] }
  | .acquire => acquire config s
  | .answer => answer config s
  | .check => checkAllEndpoints config s
  | .probe i => sendProbe s i
  | .probed i => checkEndpoint config s i
  | .settle => settle config s
  | .switch targetEndpointName => (switchOracleEndpoint config s targetEndpointName).2
  | .network now web => { s with now, web }

structure HealthReport where
  url : Text
  isPrimary : Bool
  isCurrent : Bool
  status : String
  lastUpdated : Option Int
  latencyMs : Option ℚ
  error : Option Text

/-- The entry of `get_health_status` for an endpoint. -/
def report (endpoint : OracleEndpoint) : HealthReport :=
  let isCurrent := decide (some endpoint = currentEndpoint config s)
  match s.healthStatus.lookup endpoint.url with
  | some health =>
      { url := endpoint.url, isPrimary := endpoint.isPrimary, isCurrent
        status := health.status.value, lastUpdated := health.lastUpdated
        latencyMs := health.latencyMs, error := health.error }
  | none =>
      { url := endpoint.url, isPrimary := endpoint.isPrimary, isCurrent
        status := "unknown", lastUpdated := none, latencyMs := none
        error := some "No health data yet".toList }

def getHealthStatus : Dict Text HealthReport :=
  (initEndpoints config).foldl
    (fun result endpoint => result.insert endpoint.name (report config s endpoint)) ∅

structure ServiceStatus where
  status : String
  currentEndpoint : Option Text
  totalEndpoints : Nat
  lastFeedUpdate : Option Int
  staleThresholdSeconds : Int
  healthCheckIntervalSeconds : Int
  enableFailover : Bool

def getServiceStatus : ServiceStatus :=
  let current := currentEndpoint config s
  let health := current.bind fun current => s.healthStatus.lookup current.url
  { status :=
      if health.map OracleHealth.status = some .STALE then "stale"
      else if health.map OracleHealth.status = some .UNREACHABLE then "degraded"
      else if current.isSome then "ok"
      else "no_endpoints"
    currentEndpoint := current.map OracleEndpoint.name
    totalEndpoints := (initEndpoints config).length
    lastFeedUpdate := s.lastFeedUpdate
    staleThresholdSeconds := config.staleThresholdSeconds
    healthCheckIntervalSeconds := config.healthCheckIntervalSeconds
    enableFailover := config.enableFailover }

end Source

section Endpoints

variable (config : OracleConfig)

theorem initEndpoints_eq :
    initEndpoints config =
      { url := config.primaryOracleUrl, name := "primary".toList, isPrimary := true
        priority := 1 } ::
        (config.backupOracleUrls.zipIdx 2).map fun (url, i) => OracleConfig.backup url i := by
  apply List.Pairwise.insertionSort_eq
  rw [List.pairwise_cons]
  constructor
  · intro endpoint h
    obtain ⟨⟨url, i⟩, inside, rfl⟩ := List.mem_map.mp h
    have low : 2 ≤ i := List.le_snd_of_mem_zipIdx inside
    exact Nat.le_of_succ_le low
  · rw [List.pairwise_iff_getElem]
    intro i j hi hj before
    simp only [List.getElem_map, List.getElem_zipIdx, OracleConfig.backup]
    omega

theorem initEndpoints_ne_nil : initEndpoints config ≠ [] := by
  rw [initEndpoints_eq]
  exact List.cons_ne_nil _ _

theorem length_initEndpoints_pos : 0 < (initEndpoints config).length :=
  List.length_pos_of_ne_nil (initEndpoints_ne_nil config)

/-- The names number the endpoints. -/
theorem nodup_names : ((initEndpoints config).map OracleEndpoint.name).Nodup := by
  rw [initEndpoints_eq, List.map_cons, List.nodup_cons, List.map_map]
  constructor
  · intro h
    obtain ⟨⟨url, i⟩, _, same⟩ := List.mem_map.mp h
    exact absurd (List.cons.inj same).1 (by decide)
  · rw [List.Nodup, List.pairwise_iff_getElem]
    intro i j hi hj before same
    simp only [List.getElem_map, List.getElem_zipIdx, Function.comp_apply, OracleConfig.backup]
      at same
    have digits := Js.toDigits_injective (List.append_cancel_left same)
    omega

variable {Data : Type} {config} {s : State Data}

theorem lookup_getHealthStatus {endpoint : OracleEndpoint} (h : endpoint ∈ initEndpoints config) :
    (getHealthStatus config s).lookup endpoint.name = some (report config s endpoint) :=
  Dict.lookup_fill OracleEndpoint.name (report config s) (nodup_names config) h ∅

theorem mem_of_currentEndpoint {endpoint : OracleEndpoint}
    (h : currentEndpoint config s = some endpoint) : endpoint ∈ initEndpoints config :=
  List.mem_of_getElem? h

end Endpoints

section Steps

variable {Data : Type} {config : OracleConfig}

/-- Once a feed was received, the check writes an entry without an error for the current
endpoint. -/
theorem checkStaleFeed_cases (s : State Data) :
    (checkStaleFeed config s = s ∧
      (s.lastFeedUpdate = none ∨ currentEndpoint config s = none)) ∨
    ∃ current health, s.lastFeedUpdate ≠ none ∧ currentEndpoint config s = some current ∧
      checkStaleFeed config s =
        { s with healthStatus := s.healthStatus.insert current.url health } ∧
      health.error = none := by
  rw [checkStaleFeed]
  cases feed : s.lastFeedUpdate with
  | none => exact .inl ⟨rfl, .inl rfl⟩
  | some lastFeedUpdate =>
      cases here : currentEndpoint config s with
      | none => exact .inl ⟨rfl, .inr rfl⟩
      | some current => exact .inr ⟨current, _, nofun, rfl, rfl, rfl⟩

end Steps

end DuckPools.Backend.OracleService
