import DuckPools.Wallet.Session

/-!
# The wallet hook: `wallet/useErgoWallet.ts`

Each asynchronous function of the hook is a flow, cut at its `await`s. The phase of a flow
says what it waits for; an answer runs it up to the next `await`, or to its end. Answers are
given by the wallet, or by the timer a promise races with. Flows answer in any order, and
between two answers anything may happen to the hook.

React applies the updates of the state at once, and the effects of a new `walletKey`
together with the change. The functions that the hook returns close over the values of the
render they come from. A component may still hold those of an earlier render, so that their
calls carry these values.
-/

namespace DuckPools.Wallet

/-- The state, the refs and the storage of the hook. -/
structure Hook where
  walletKey : Option Text
  state : WalletState := {}
  ergo : Option Context := none
  connectGuard : Bool := false
  lastError : Option Text := none
  storage : Storage
  /-- `Date.now()` -/
  now : Int

namespace Hook

def setState (h : Hook) (update : WalletState → WalletState) : Hook :=
  { h with state := update h.state }

def setErgo (h : Hook) (ctx : Option Context) : Hook := { h with ergo := ctx }

def clearSession (h : Hook) (walletKey : Text) : Hook :=
  { h with storage := h.storage.removeSessionForWallet walletKey }

def saveSession (h : Hook) (walletKey : Text) (state : WalletState) : Hook :=
  { h with storage := h.storage.saveSession h.now walletKey state state.tokens }

end Hook

/-- What a pending promise turns out to be. -/
inductive Answer
  /-- of `waitForConnector`, with whether the wallet of the flow is installed -/
  | connector (available installed : Bool)
  /-- of `isConnected` and `connect` -/
  | bool (b : Bool)
  /-- of `getContext`, which may be null -/
  | context (given : Bool)
  /-- of `get_change_address` and `get_balance` -/
  | text (t : Text)
  /-- of `get_utxos` -/
  | utxos (boxes : List ErgoBox)
  /-- of `disconnect` -/
  | settled
  | rejected (e : Thrown)

section Reading

/-- The reads from a context, in their order. -/
inductive Reading
  | getChangeAddress
  | getBalance (address : Text)
  | getUtxos (address : Text) (balance : Js.Number)

inductive Progress
  | waits (r : Reading)
  | throws (e : Thrown)
  | reads (address : Text) (balance : Js.Number) (tokens : List Asset)

def Progress.failed : Progress → Bool
  | .throws _ => true
  | _ => false

def Reading.settle : Reading → Answer → Progress
  | .getChangeAddress, .text address => .waits (.getBalance address)
  | .getBalance address, .text raw => .waits (.getUtxos address (parseNanoErg raw))
  | .getUtxos address balance, .utxos boxes =>
      match extractTokens boxes with
      | .ok tokens => .reads address balance tokens
      | .error e => .throws e
  | _, .rejected e => .throws e
  | r, _ => .waits r

/-- `{ ...prev, isConnected: true, isLocked: false, ... }` -/
def WalletState.connected (prev : WalletState) (address : Address) (balance : Js.Number)
    (tokens : List Asset) : WalletState :=
  { prev with
    isConnected := true
    isLocked := false
    walletAddress := some address
    balance := some balance
    network := getNetworkFromAddress address.text
    tokens := some tokens }

end Reading

/-- The phases of `connect`. From `approving` on, the popup was opened by `conn.connect()`. -/
inductive ConnectPhase
  | waitForConnector
  | resetting
  | preflight
  | checking
  | fastContext
  | fastReading (r : Reading)
  | fastMismatch
  | approving
  | context
  | reading (r : Reading)
  | mismatch

inductive RestorePhase
  | waitForConnector
  | isConnected (persistedSession : Bool)
  | context
  | reading (r : Reading)

inductive ReconnectPhase
  | isConnected
  | context
  | reading (r : Reading)

inductive RefreshPhase
  | balance
  | utxos (balance : Js.Number)

/-- A call of an asynchronous function, with the `walletKey` it closes over. -/
inductive Flow
  | connect (walletKey : Text) (phase : ConnectPhase)
  | restore (walletKey : Text) (cancelled : Bool) (phase : RestorePhase)
  | reconnect (walletKey : Text) (phase : ReconnectPhase)
  | disconnect (walletKey : Text)
  | refresh (phase : RefreshPhase)
  | done

section Connect

variable (cfg : Config) (h : Hook) (walletKey : Text)

/-- From the reset of the last error to the pre-flight check. -/
def connecting : Hook × Flow :=
  ({ h with lastError := none }.setState fun prev =>
      { prev with error := none, isConnecting := true },
    .connect walletKey .preflight)

/-- `connectGuard.current = true` and `conn.connect()`. -/
def openPopup : Hook × Flow :=
  ({ h with connectGuard := true }, .connect walletKey .approving)

/-- `setState(prev => ({ ...prev, isConnecting: false, error }))` -/
def Hook.setError (error : WalletError) : Hook :=
  h.setState fun prev => { prev with isConnecting := false, error := some error }

/-- The `finally` block. -/
def finishConnect : Hook × Flow := ({ h with connectGuard := false }, .done)

/-- The `catch` block. -/
def catchConnect (e : Thrown) : Hook × Flow :=
  finishConnect
    ({ h with lastError := some (e.messageOr "unknown".toList) }.setError
      (connectError walletKey e))

/-- The `TypeError` of `ctx.get_change_address()` without a context. -/
def nullContext : Thrown :=
  let message := "Cannot read properties of null (reading 'get_change_address')".toList
  ⟨some message, none, "TypeError: ".toList ++ message⟩

/-- The reads of the fast path. -/
def settleFastReading : Progress → Hook × Flow
  | .waits r => (h, .connect walletKey (.fastReading r))
  | .throws _ => openPopup h walletKey
  | .reads address balance tokens =>
      match networkMismatch cfg address with
      | some network =>
          (h.setError (networkMismatchError walletKey cfg network),
            .connect walletKey .fastMismatch)
      | none =>
          (h.setState fun prev =>
            { prev.connected ⟨walletKey, address⟩ balance tokens with isConnecting := false },
            .done)

/-- The reads after the popup. -/
def settleReading : Progress → Hook × Flow
  | .waits r => (h, .connect walletKey (.reading r))
  | .throws e => catchConnect h walletKey e
  | .reads address balance tokens =>
      match networkMismatch cfg address with
      | some network =>
          (h.setError (networkMismatchError walletKey cfg network),
            .connect walletKey .mismatch)
      | none =>
          let finalState := WalletState.connected {} ⟨walletKey, address⟩ balance tokens
          finishConnect
            ((h.setState fun prev =>
              { prev.connected ⟨walletKey, address⟩ balance tokens with
                isConnecting := false, error := none }).saveSession walletKey finalState)

def settleConnect : ConnectPhase → Answer → Hook × Flow
  | .waitForConnector, .connector available installed =>
      if available && installed then
        if h.lastError.isSome then (h, .connect walletKey .resetting)
        else connecting h walletKey
      else (h.setState fun prev => { prev with error := some (notInstalled walletKey) }, .done)
  | .resetting, .settled => connecting h walletKey
  | .resetting, .rejected _ => connecting h walletKey
  | .preflight, .bool _ => (h, .connect walletKey .checking)
  | .preflight, .rejected e =>
      if e.message = some "preflight_timeout".toList then
        ({ h with lastError := e.message }.setError (preflightTimeout walletKey), .done)
      else if e.code = some (-3) then (h, .connect walletKey .checking)
      else (h.setError (preflightError walletKey e), .done)
  | .checking, .bool true => (h, .connect walletKey .fastContext)
  | .checking, .bool false => openPopup h walletKey
  | .checking, .rejected _ => openPopup h walletKey
  | .fastContext, .context true =>
      (h.setErgo (some ⟨walletKey⟩), .connect walletKey (.fastReading .getChangeAddress))
  | .fastContext, .context false => openPopup h walletKey
  | .fastContext, .rejected _ => openPopup h walletKey
  | .fastReading r, answer => settleFastReading cfg h walletKey (r.settle answer)
  | .fastMismatch, .settled => (h.setErgo none, .done)
  | .fastMismatch, .rejected _ => openPopup h walletKey
  | .approving, .bool true => (h, .connect walletKey .context)
  | .approving, .bool false => finishConnect (h.setError (userRejected walletKey))
  | .approving, .rejected _ =>
      finishConnect
        ({ h with lastError := some "timeout".toList }.setError (connectTimeout walletKey))
  | .context, .context true =>
      (h.setErgo (some ⟨walletKey⟩), .connect walletKey (.reading .getChangeAddress))
  | .context, .context false => catchConnect (h.setErgo none) walletKey nullContext
  | .context, .rejected e => catchConnect h walletKey e
  | .reading r, answer => settleReading cfg h walletKey (r.settle answer)
  | .mismatch, .settled => finishConnect (h.setErgo none)
  | .mismatch, .rejected e => catchConnect h walletKey e
  | phase, _ => (h, .connect walletKey phase)

end Connect

section Others

variable (h : Hook) (walletKey : Text)

/-- The persisted session is shown before the wallet is asked. -/
def restorePersisted (cancelled available installed : Bool) : Hook × Flow :=
  if cancelled || !(available && installed) then (h, .done)
  else
    match h.storage.persistedSession h.now walletKey with
    | (some session, storage) =>
        ({ h with storage }.setState fun prev =>
          { prev with
            isConnected := true
            isLocked := false
            walletAddress := session.walletAddress
            balance := session.balance
            network := session.network
            tokens := session.tokens },
          .restore walletKey cancelled (.isConnected true))
    | (none, storage) =>
        ({ h with storage }, .restore walletKey cancelled (.isConnected false))

def settleRestoreReading (cancelled : Bool) : Progress → Hook × Flow
  | .waits r => (h, .restore walletKey cancelled (.reading r))
  | .throws _ => (h.clearSession walletKey, .done)
  | .reads address balance tokens =>
      if cancelled then (h, .done)
      else
        let session := WalletState.connected {} ⟨walletKey, address⟩ balance tokens
        ((h.setState fun prev =>
          prev.connected ⟨walletKey, address⟩ balance tokens).saveSession walletKey session,
          .done)

/-- `restore`; `cancelled` is read after every `await` but the first reads. -/
def settleRestore (cancelled : Bool) : RestorePhase → Answer → Hook × Flow
  | .waitForConnector, .connector available installed =>
      restorePersisted h walletKey cancelled available installed
  | .isConnected persistedSession, .bool connected =>
      if cancelled || !connected then
        if persistedSession then
          ((h.clearSession walletKey).setState fun prev =>
            { prev with
              isConnected := false
              isLocked := false
              walletAddress := none
              balance := none
              network := none
              tokens := none },
            .done)
        else (h, .done)
      else (h, .restore walletKey cancelled .context)
  | .isConnected _, .rejected _ => (h.clearSession walletKey, .done)
  | .context, .context given =>
      if cancelled || !given then (h, .done)
      else
        (h.setErgo (some ⟨walletKey⟩),
          .restore walletKey cancelled (.reading .getChangeAddress))
  | .context, .rejected _ => (h.clearSession walletKey, .done)
  | .reading r, answer => settleRestoreReading h walletKey cancelled (r.settle answer)
  | phase, _ => (h, .restore walletKey cancelled phase)

def settleReconnectReading : Progress → Hook × Flow
  | .waits r => (h, .reconnect walletKey (.reading r))
  | .throws _ => (h, .done)
  | .reads address balance tokens =>
      (h.setState fun prev => prev.connected ⟨walletKey, address⟩ balance tokens, .done)

/-- A tick of the interval; it is not cancelled by `clearInterval`. -/
def settleReconnect : ReconnectPhase → Answer → Hook × Flow
  | .isConnected, .bool true => (h, .reconnect walletKey .context)
  | .isConnected, .bool false => (h, .done)
  | .context, .context true =>
      (h.setErgo (some ⟨walletKey⟩), .reconnect walletKey (.reading .getChangeAddress))
  | .context, .context false => (h, .done)
  | .reading r, answer => settleReconnectReading h walletKey (r.settle answer)
  | .isConnected, .rejected _ => (h, .done)
  | .context, .rejected _ => (h, .done)
  | phase, _ => (h, .reconnect walletKey phase)

def finishDisconnect : Hook := { h.clearSession walletKey with ergo := none, state := {} }

def settleDisconnect : Answer → Hook × Flow
  | .settled => (finishDisconnect h walletKey, .done)
  | .rejected _ => (finishDisconnect h walletKey, .done)
  | _ => (h, .disconnect walletKey)

def failRefresh (e : Thrown) : Hook × Flow :=
  if e.code = some (-3) then (h.setState fun prev => { prev with isLocked := true }, .done)
  else (h, .done)

def settleRefresh : RefreshPhase → Answer → Hook × Flow
  | .balance, .text raw => (h, .refresh (.utxos (parseNanoErg raw)))
  | .utxos balance, .utxos boxes =>
      match extractTokens boxes with
      | .ok tokens =>
          (h.setState fun prev =>
            { prev with balance := some balance, tokens := some tokens }, .done)
      | .error e => failRefresh h e
  | _, .rejected e => failRefresh h e
  | phase, _ => (h, .refresh phase)

end Others

/-- An answer that the flow does not wait for changes nothing. -/
def Flow.settle (cfg : Config) (h : Hook) : Flow → Answer → Hook × Flow
  | .connect walletKey phase, answer => settleConnect cfg h walletKey phase answer
  | .restore walletKey cancelled phase, answer =>
      settleRestore h walletKey cancelled phase answer
  | .reconnect walletKey phase, answer => settleReconnect h walletKey phase answer
  | .disconnect walletKey, answer => settleDisconnect h walletKey answer
  | .refresh phase, answer => settleRefresh h phase answer
  | .done, _ => (h, .done)

/-- The clean-up of the effect that restores. -/
def Flow.cancel : Flow → Flow
  | .restore walletKey _ phase => .restore walletKey true phase
  | flow => flow

structure System where
  hook : Hook
  flows : List Flow

inductive Event
  /-- of the `connect` of a render with this `walletKey` -/
  | connect (walletKey : Option Text)
  | disconnect (walletKey : Option Text) (installed : Bool)
  /-- of the `refreshBalance` of a render with this context, connected or not -/
  | refreshBalance (ergo : Option Context) (isConnected : Bool)
  | clearError
  /-- of the interval that reconnects a locked wallet -/
  | tick (installed : Bool)
  | answer (flow : Nat) (answer : Answer)
  /-- another `walletKey` is passed to the hook -/
  | switch (walletKey : Option Text)
  /-- the page is loaded again -/
  | reload (walletKey : Option Text)
  | wait (milliseconds : Nat)

namespace System

/-- The effect that restores, for the wallet of the hook. -/
def restores : Option Text → List Flow
  | none => []
  | some walletKey => [.restore walletKey false .waitForConnector]

def mount (storage : Storage) (now : Int) (walletKey : Option Text) : System where
  hook := { walletKey, storage := storage.cleanupExpiredSessions now, now }
  flows := restores walletKey

def start (s : System) (flow : Flow) : System := { s with flows := s.flows ++ [flow] }

def connect (s : System) (walletKey : Option Text) : System :=
  match walletKey with
  | none =>
      { s with
        hook := s.hook.setState fun prev => { prev with error := some noWalletSelected } }
  | some walletKey =>
      if s.hook.connectGuard then s else s.start (.connect walletKey .waitForConnector)

def disconnect (s : System) (walletKey : Option Text) (installed : Bool) : System :=
  match walletKey with
  | none => { s with hook := { s.hook with ergo := none, state := {} } }
  | some walletKey =>
      if installed then s.start (.disconnect walletKey)
      else { s with hook := finishDisconnect s.hook walletKey }

def refreshBalance (s : System) (ergo : Option Context) (isConnected : Bool) : System :=
  if ergo.isNone || !isConnected then s else s.start (.refresh .balance)

def tick (s : System) (installed : Bool) : System :=
  match s.hook.walletKey with
  | none => s
  | some walletKey =>
      if !s.hook.state.isLocked || s.hook.state.isConnected || !installed then s
      else s.start (.reconnect walletKey .isConnected)

def switch (s : System) (walletKey : Option Text) : System :=
  if walletKey = s.hook.walletKey then s
  else
    { hook := { walletKey, storage := s.hook.storage, now := s.hook.now }
      flows := s.flows.map Flow.cancel ++ restores walletKey }

variable (cfg : Config)

def answer (s : System) (i : Nat) (a : Answer) : System :=
  match s.flows[i]? with
  | none => s
  | some flow =>
      let (hook, flow) := flow.settle cfg s.hook a
      ⟨hook, s.flows.set i flow⟩

def step (s : System) : Event → System
  | .connect walletKey => s.connect walletKey
  | .disconnect walletKey installed => s.disconnect walletKey installed
  | .refreshBalance ergo isConnected => s.refreshBalance ergo isConnected
  | .clearError => { s with hook := s.hook.setState fun prev => { prev with error := none } }
  | .tick installed => s.tick installed
  | .answer i a => s.answer cfg i a
  | .switch walletKey => s.switch walletKey
  | .reload walletKey => mount s.hook.storage s.hook.now walletKey
  | .wait milliseconds =>
      { s with hook := { s.hook with now := s.hook.now + milliseconds } }

end System

end DuckPools.Wallet
