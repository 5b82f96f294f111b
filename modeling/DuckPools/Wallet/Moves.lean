import DuckPools.Wallet.Hook

/-!
# What a step of the wallet hook can do

Only a continuation stores a context, or marks the wallet connected. What it is going to
store can be told from the flow, the answer and the storage before the step. Anything else
that changes the hook leaves it with what it held, or with less.
-/

namespace DuckPools.Wallet

/-- The call is between `conn.connect()` and its `finally` block. -/
def ConnectPhase.popup : ConnectPhase → Bool
  | .approving | .context | .reading _ | .mismatch => true
  | _ => false

def Flow.popup : Flow → Bool
  | .connect _ phase => phase.popup
  | _ => false

def PersistedWalletSession.Own (session : PersistedWalletSession) : Prop :=
  ∀ address, session.walletAddress = some address → address.wallet = session.walletKey

/-- Nothing is held after the step that was not held before. -/
structure Drops (h h' : Hook) : Prop where
  walletKey : h'.walletKey = h.walletKey
  ergo : h'.ergo = h.ergo ∨ h'.ergo = none
  state :
    h'.state.isConnected = h.state.isConnected ∧
        h'.state.walletAddress = h.state.walletAddress ∨
      h'.state.isConnected = false ∧ h'.state.walletAddress = none
  storage : h'.storage.get ⊆ h.storage.get

theorem Drops.same (h : Hook) : Drops h h :=
  ⟨rfl, .inl rfl, .inl ⟨rfl, rfl⟩, List.Subset.refl _⟩

/-- What a continuation stores in the hook. -/
inductive Held
  | context (wallet : Text)
  /-- with which the wallet is marked connected -/
  | address (address : Option Address)

section Takes

/-- The address that was read, once the last read succeeds. -/
def Progress.takes (walletKey : Text) : Progress → Option Held
  | .reads address _ _ => some (.address (some ⟨walletKey, address⟩))
  | _ => none

def Progress.takesChecked (cfg : Config) (walletKey : Text) : Progress → Option Held
  | .reads address _ _ =>
      if (networkMismatch cfg address).isNone then
        some (.address (some ⟨walletKey, address⟩))
      else none
  | _ => none

def ConnectPhase.takes (cfg : Config) (walletKey : Text) : ConnectPhase → Answer → Option Held
  | .fastContext, .context true => some (.context walletKey)
  | .context, .context true => some (.context walletKey)
  | .fastReading r, answer => (r.settle answer).takesChecked cfg walletKey
  | .reading r, answer => (r.settle answer).takesChecked cfg walletKey
  | _, _ => none

def RestorePhase.takes (h : Hook) (walletKey : Text) : RestorePhase → Answer → Option Held
  | .waitForConnector, .connector true true =>
      (h.storage.persistedSession h.now walletKey).1.map fun session =>
        .address session.walletAddress
  | .context, .context true => some (.context walletKey)
  | .reading r, answer => (r.settle answer).takes walletKey
  | _, _ => none

def ReconnectPhase.takes (walletKey : Text) : ReconnectPhase → Answer → Option Held
  | .context, .context true => some (.context walletKey)
  | .reading r, answer => (r.settle answer).takes walletKey
  | _, _ => none

/-- A restore that was cancelled takes nothing. -/
def Flow.takes (cfg : Config) (h : Hook) : Flow → Answer → Option Held
  | .connect walletKey phase, answer => phase.takes cfg walletKey answer
  | .restore walletKey false phase, answer => phase.takes h walletKey answer
  | .reconnect walletKey phase, answer => phase.takes walletKey answer
  | _, _ => none

end Takes

theorem Progress.takesChecked_mismatch {cfg : Config} {walletKey address : Text}
    {balance : Js.Number} {tokens : List Asset} {network : Network}
    (mismatch : networkMismatch cfg address = some network) :
    (Progress.reads address balance tokens).takesChecked cfg walletKey = none := by
  simp [Progress.takesChecked, mismatch]

theorem Progress.takesChecked_fits {cfg : Config} {walletKey address : Text}
    {balance : Js.Number} {tokens : List Asset} (fits : networkMismatch cfg address = none) :
    (Progress.reads address balance tokens).takesChecked cfg walletKey =
      some (.address (some ⟨walletKey, address⟩)) := by
  simp [Progress.takesChecked, fits]

/-- A continuation stores what it takes, and nothing else. -/
inductive HeldMove (h h' : Hook) : Option Held → Prop
  | drops (drops : Drops h h') : HeldMove h h' none
  | context {wallet : Text} (stored : h' = h.setErgo (some ⟨wallet⟩)) :
      HeldMove h h' (some (.context wallet))
  | address {address : Option Address} (walletKey : h'.walletKey = h.walletKey)
      (ergo : h'.ergo = h.ergo) (isConnected : h'.state.isConnected = true)
      (walletAddress : h'.state.walletAddress = address)
      (storage : ∀ session ∈ h'.storage.get, session ∈ h.storage.get ∨ session.Own) :
      HeldMove h h' (some (.address address))

section HeldMove

variable {h h' : Hook} {takes : Option Held}

theorem HeldMove.walletKey_eq (move : HeldMove h h' takes) :
    h'.walletKey = h.walletKey := by
  cases move with
  | drops drops => exact drops.walletKey
  | context stored => rw [stored]; rfl
  | address key => exact key

theorem HeldMove.sessions (move : HeldMove h h' takes)
    (own : ∀ session ∈ h.storage.get, session.Own) :
    ∀ session ∈ h'.storage.get, session.Own := by
  intro session mem
  cases move with
  | drops drops => exact own session (drops.storage mem)
  | context stored =>
    rw [stored] at mem
    exact own session mem
  | address _ _ _ _ storage =>
    rcases storage session mem with mem | h
    · exact own session mem
    · exact h

end HeldMove

section Continuations

variable (cfg : Config) (h : Hook) (walletKey : Text)

/-- The session that is saved for a wallet holds the address of that wallet. -/
theorem own_of_saveSession {state : WalletState} {address : Text}
    (hstate : state.walletAddress = some ⟨walletKey, address⟩) :
    ∀ session ∈ (h.saveSession walletKey state).storage.get,
      session ∈ h.storage.get ∨ session.Own := by
  intro session hmem
  rcases Storage.mem_saveSession hmem with hmem | ⟨hkey, haddress⟩
  · exact .inl hmem
  · refine .inr fun a ha => ?_
    rw [haddress, hstate] at ha
    cases ha
    exact hkey.symm

theorem settleFastReading_heldMove (progress : Progress) :
    HeldMove h (settleFastReading cfg h walletKey progress).1
      (progress.takesChecked cfg walletKey) := by
  fun_cases settleFastReading cfg h walletKey progress with
  | case1 r => exact .drops (.same h)
  | case2 e => exact .drops ⟨rfl, .inl rfl, .inl ⟨rfl, rfl⟩, List.Subset.refl _⟩
  | case3 address balance tokens network mismatch =>
    rw [Progress.takesChecked_mismatch mismatch]
    exact .drops ⟨rfl, .inl rfl, .inl ⟨rfl, rfl⟩, List.Subset.refl _⟩
  | case4 address balance tokens fits =>
    rw [Progress.takesChecked_fits fits]
    exact .address rfl rfl rfl rfl fun _ hmem => .inl hmem

theorem settleReading_heldMove (progress : Progress) :
    HeldMove h (settleReading cfg h walletKey progress).1
      (progress.takesChecked cfg walletKey) := by
  fun_cases settleReading cfg h walletKey progress with
  | case1 r => exact .drops (.same h)
  | case2 e => exact .drops ⟨rfl, .inl rfl, .inl ⟨rfl, rfl⟩, List.Subset.refl _⟩
  | case3 address balance tokens network mismatch =>
    rw [Progress.takesChecked_mismatch mismatch]
    exact .drops ⟨rfl, .inl rfl, .inl ⟨rfl, rfl⟩, List.Subset.refl _⟩
  | case4 address balance tokens fits =>
    rw [Progress.takesChecked_fits fits]
    exact .address rfl rfl rfl rfl (own_of_saveSession _ walletKey rfl)

theorem settleConnect_heldMove (phase : ConnectPhase) (a : Answer) :
    HeldMove h (settleConnect cfg h walletKey phase a).1 (phase.takes cfg walletKey a) := by
  fun_cases settleConnect cfg h walletKey phase a
  all_goals first
    | exact .drops ⟨rfl, .inl rfl, .inl ⟨rfl, rfl⟩, List.Subset.refl _⟩
    | exact .drops ⟨rfl, .inr rfl, .inl ⟨rfl, rfl⟩, List.Subset.refl _⟩
    | exact .context rfl
    | exact settleFastReading_heldMove cfg h walletKey _
    | exact settleReading_heldMove cfg h walletKey _
    | skip
  -- an answer that the phase does not wait for
  have none : phase.takes cfg walletKey a = none := by
    fun_cases phase.takes cfg walletKey a <;> simp_all
  rw [none]
  exact .drops (.same h)

theorem drops_clearSession : Drops h (h.clearSession walletKey) :=
  ⟨rfl, .inl rfl, .inl ⟨rfl, rfl⟩, Storage.removeSessionForWallet_subset _ _⟩

/-- A restore that was cancelled stores nothing, whatever it waited for. -/
theorem settleRestore_cancelled (phase : RestorePhase) (a : Answer) :
    Drops h (settleRestore h walletKey true phase a).1 := by
  cases phase with
  | waitForConnector => cases a <;> exact .same h
  | isConnected persistedSession =>
    cases a with
    | bool connected =>
      cases persistedSession with
      | false => exact .same h
      | true =>
        exact ⟨rfl, .inl rfl, .inr ⟨rfl, rfl⟩, Storage.removeSessionForWallet_subset _ _⟩
    | rejected e => exact drops_clearSession h walletKey
    | _ => exact .same h
  | context =>
    cases a with
    | rejected e => exact drops_clearSession h walletKey
    | _ => exact .same h
  | reading r =>
    change Drops h (settleRestoreReading h walletKey true (r.settle a)).1
    cases r.settle a with
    | waits r => exact .same h
    | throws e => exact drops_clearSession h walletKey
    | reads address balance tokens => exact .same h

/-- Reading the persisted session may clean the storage up; it shows what it finds. -/
theorem restorePersisted_heldMove (available installed : Bool) :
    HeldMove h (restorePersisted h walletKey false available installed).1
      (RestorePhase.waitForConnector.takes h walletKey (.connector available installed)) := by
  cases available with
  | false => cases installed <;> exact .drops (.same h)
  | true =>
    cases installed with
    | false => exact .drops (.same h)
    | true =>
      simp only [restorePersisted, RestorePhase.takes, Bool.and_self, Bool.not_true,
        Bool.or_self, Bool.false_eq_true, if_false]
      rcases hread : h.storage.persistedSession h.now walletKey with ⟨found, after⟩
      have subset := (Storage.persistedSession_reads hread).1
      cases found with
      | none => exact .drops ⟨rfl, .inl rfl, .inl ⟨rfl, rfl⟩, subset⟩
      | some session => exact .address rfl rfl rfl rfl fun _ hmem => .inl (subset hmem)

theorem settleRestore_heldMove (phase : RestorePhase) (a : Answer) :
    HeldMove h (settleRestore h walletKey false phase a).1 (phase.takes h walletKey a) := by
  cases phase with
  | waitForConnector =>
    cases a with
    | connector available installed =>
      exact restorePersisted_heldMove h walletKey available installed
    | _ => exact .drops (.same h)
  | isConnected persistedSession =>
    cases a with
    | bool connected =>
      cases connected with
      | true => exact .drops (.same h)
      | false =>
        cases persistedSession with
        | false => exact .drops (.same h)
        | true =>
          exact .drops
            ⟨rfl, .inl rfl, .inr ⟨rfl, rfl⟩, Storage.removeSessionForWallet_subset _ _⟩
    | rejected e => exact .drops (drops_clearSession h walletKey)
    | _ => exact .drops (.same h)
  | context =>
    cases a with
    | context given =>
      cases given with
      | false => exact .drops (.same h)
      | true => exact .context rfl
    | rejected e => exact .drops (drops_clearSession h walletKey)
    | _ => exact .drops (.same h)
  | reading r =>
    change HeldMove h (settleRestoreReading h walletKey false (r.settle a)).1
      ((r.settle a).takes walletKey)
    cases r.settle a with
    | waits r => exact .drops (.same h)
    | throws e => exact .drops (drops_clearSession h walletKey)
    | reads address balance tokens =>
      exact .address rfl rfl rfl rfl (own_of_saveSession _ walletKey rfl)

theorem settleReconnect_heldMove (phase : ReconnectPhase) (a : Answer) :
    HeldMove h (settleReconnect h walletKey phase a).1 (phase.takes walletKey a) := by
  cases phase with
  | isConnected =>
    cases a with
    | bool connected => cases connected <;> exact .drops (.same h)
    | _ => exact .drops (.same h)
  | context =>
    cases a with
    | context given =>
      cases given with
      | false => exact .drops (.same h)
      | true => exact .context rfl
    | _ => exact .drops (.same h)
  | reading r =>
    change HeldMove h (settleReconnectReading h walletKey (r.settle a)).1
      ((r.settle a).takes walletKey)
    cases r.settle a with
    | waits r => exact .drops (.same h)
    | throws e => exact .drops (.same h)
    | reads address balance tokens =>
      exact .address rfl rfl rfl rfl fun _ hmem => .inl hmem

theorem drops_finishDisconnect : Drops h (finishDisconnect h walletKey) :=
  ⟨rfl, .inr rfl, .inr ⟨rfl, rfl⟩, Storage.removeSessionForWallet_subset _ _⟩

theorem drops_failRefresh (e : Thrown) : Drops h (failRefresh h e).1 := by
  unfold failRefresh
  split
  · exact ⟨rfl, .inl rfl, .inl ⟨rfl, rfl⟩, List.Subset.refl _⟩
  · exact .same h

theorem drops_settleRefresh (phase : RefreshPhase) (a : Answer) :
    Drops h (settleRefresh h phase a).1 := by
  fun_cases settleRefresh h phase a with
  | case1 => exact .same h
  | case2 => exact ⟨rfl, .inl rfl, .inl ⟨rfl, rfl⟩, List.Subset.refl _⟩
  | case3 | case4 => exact drops_failRefresh h _
  | case5 => exact .same h

theorem settle_heldMove (flow : Flow) (a : Answer) :
    HeldMove h (flow.settle cfg h a).1 (flow.takes cfg h a) := by
  cases flow with
  | connect walletKey phase => exact settleConnect_heldMove cfg h walletKey phase a
  | restore walletKey cancelled phase =>
    cases cancelled with
    | false => exact settleRestore_heldMove h walletKey phase a
    | true => exact .drops (settleRestore_cancelled h walletKey phase a)
  | reconnect walletKey phase => exact settleReconnect_heldMove h walletKey phase a
  | disconnect walletKey =>
    refine .drops ?_
    cases a with
    | settled | rejected => exact drops_finishDisconnect h walletKey
    | _ => exact .same h
  | refresh phase => exact .drops (drops_settleRefresh h phase a)
  | done => exact .drops (.same h)

end Continuations

section Calls

variable (cfg : Config) (h : Hook) (walletKey : Text)

/-- A continuation belongs to the call it continues, or ends it. -/
inductive Flow.GoesOn : Flow → Flow → Prop
  | ends {flow : Flow} : GoesOn flow .done
  | connect {walletKey : Text} {phase next : ConnectPhase} :
      GoesOn (.connect walletKey phase) (.connect walletKey next)
  | restore {walletKey : Text} {cancelled : Bool} {phase next : RestorePhase} :
      GoesOn (.restore walletKey cancelled phase) (.restore walletKey cancelled next)
  | reconnect {walletKey : Text} {phase next : ReconnectPhase} :
      GoesOn (.reconnect walletKey phase) (.reconnect walletKey next)
  | disconnect {walletKey : Text} : GoesOn (.disconnect walletKey) (.disconnect walletKey)
  | refresh {phase next : RefreshPhase} : GoesOn (.refresh phase) (.refresh next)

theorem settleConnect_goesOn (phase : ConnectPhase) (a : Answer) :
    (Flow.connect walletKey phase).GoesOn (settleConnect cfg h walletKey phase a).2 := by
  have fast : ∀ progress, (Flow.connect walletKey phase).GoesOn
      (settleFastReading cfg h walletKey progress).2 := by
    intro progress
    fun_cases settleFastReading cfg h walletKey progress with
    | case1 | case2 | case3 => exact .connect
    | case4 => exact .ends
  have full : ∀ progress, (Flow.connect walletKey phase).GoesOn
      (settleReading cfg h walletKey progress).2 := by
    intro progress
    fun_cases settleReading cfg h walletKey progress with
    | case1 | case3 => exact .connect
    | case2 | case4 => exact .ends
  fun_cases settleConnect cfg h walletKey phase a
  all_goals first
    | exact fast _
    | exact full _
    | exact .connect
    | exact .ends

/-- The guard is only touched by `connect`. -/
structure Unguarded (h : Hook) (flow : Flow) (next : Hook × Flow) : Prop where
  goesOn : flow.GoesOn next.2
  connectGuard : next.1.connectGuard = h.connectGuard

theorem settleRestore_unguarded (cancelled : Bool) (phase : RestorePhase) (a : Answer) :
    Unguarded h (.restore walletKey cancelled phase)
      (settleRestore h walletKey cancelled phase a) := by
  have persisted : ∀ available installed, Unguarded h (.restore walletKey cancelled phase)
      (restorePersisted h walletKey cancelled available installed) := by
    intro available installed
    fun_cases restorePersisted h walletKey cancelled available installed with
    | case1 => exact ⟨.ends, rfl⟩
    | case2 | case3 => exact ⟨.restore, rfl⟩
  have reading : ∀ progress, Unguarded h (.restore walletKey cancelled phase)
      (settleRestoreReading h walletKey cancelled progress) := by
    intro progress
    fun_cases settleRestoreReading h walletKey cancelled progress with
    | case1 => exact ⟨.restore, rfl⟩
    | case2 | case3 | case4 => exact ⟨.ends, rfl⟩
  fun_cases settleRestore h walletKey cancelled phase a
  all_goals first
    | exact persisted _ _
    | exact reading _
    | exact ⟨.restore, rfl⟩
    | exact ⟨.ends, rfl⟩

theorem settleReconnect_unguarded (phase : ReconnectPhase) (a : Answer) :
    Unguarded h (.reconnect walletKey phase) (settleReconnect h walletKey phase a) := by
  have reading : ∀ progress, Unguarded h (.reconnect walletKey phase)
      (settleReconnectReading h walletKey progress) := by
    intro progress
    cases progress with
    | waits => exact ⟨.reconnect, rfl⟩
    | throws | reads => exact ⟨.ends, rfl⟩
  fun_cases settleReconnect h walletKey phase a
  all_goals first
    | exact reading _
    | exact ⟨.reconnect, rfl⟩
    | exact ⟨.ends, rfl⟩

theorem settleDisconnect_unguarded (a : Answer) :
    Unguarded h (.disconnect walletKey) (settleDisconnect h walletKey a) := by
  cases a with
  | settled | rejected => exact ⟨.ends, rfl⟩
  | _ => exact ⟨.disconnect, rfl⟩

theorem settleRefresh_unguarded (phase : RefreshPhase) (a : Answer) :
    Unguarded h (.refresh phase) (settleRefresh h phase a) := by
  have failed : ∀ e, Unguarded h (.refresh phase) (failRefresh h e) := by
    intro e
    unfold failRefresh
    split <;> exact ⟨.ends, rfl⟩
  fun_cases settleRefresh h phase a with
  | case1 => exact ⟨.refresh, rfl⟩
  | case2 => exact ⟨.ends, rfl⟩
  | case3 | case4 => exact failed _
  | case5 => exact ⟨.refresh, rfl⟩

theorem settle_goesOn (flow : Flow) (a : Answer) : flow.GoesOn (flow.settle cfg h a).2 := by
  cases flow with
  | connect walletKey phase => exact settleConnect_goesOn cfg h walletKey phase a
  | restore walletKey cancelled phase =>
    exact (settleRestore_unguarded h walletKey cancelled phase a).goesOn
  | reconnect walletKey phase => exact (settleReconnect_unguarded h walletKey phase a).goesOn
  | disconnect walletKey => exact (settleDisconnect_unguarded h walletKey a).goesOn
  | refresh phase => exact (settleRefresh_unguarded h phase a).goesOn
  | done => exact .ends

end Calls

section Steps

/-- A flow that starts with a call or a tick: there is no popup yet, and it is no restore. -/
def Flow.Fresh (flow : Flow) : Prop :=
  flow.popup = false ∧ ∀ walletKey cancelled phase, flow ≠ .restore walletKey cancelled phase

/-- The events that are no answer, no change of the wallet and no reload. -/
def Event.Ordinary : Event → Prop
  | .answer _ _ | .switch _ | .reload _ => False
  | _ => True

/-- What these events do: a call or a tick runs up to its first `await`, and nothing is
stored. -/
inductive Calm (s : System) : System → Prop
  | starts {flow : Flow} (fresh : flow.Fresh) : Calm s (s.start flow)
  | hook {h : Hook} (drops : Drops s.hook h) (guard : h.connectGuard = s.hook.connectGuard) :
      Calm s { s with hook := h }

namespace System

variable (s : System)

theorem calm_same : Calm s s := .hook (.same s.hook) rfl

theorem calm_connect (walletKey : Option Text) : Calm s (s.connect walletKey) := by
  unfold connect
  split
  · exact .hook ⟨rfl, .inl rfl, .inl ⟨rfl, rfl⟩, List.Subset.refl _⟩ rfl
  · split
    · exact calm_same s
    · exact .starts ⟨rfl, by simp⟩

theorem calm_disconnect (walletKey : Option Text) (installed : Bool) :
    Calm s (s.disconnect walletKey installed) := by
  unfold disconnect
  split
  · exact .hook ⟨rfl, .inr rfl, .inr ⟨rfl, rfl⟩, List.Subset.refl _⟩ rfl
  · split
    · exact .starts ⟨rfl, by simp⟩
    · exact .hook (drops_finishDisconnect s.hook _) rfl

theorem calm_refreshBalance (ergo : Option Context) (isConnected : Bool) :
    Calm s (s.refreshBalance ergo isConnected) := by
  unfold refreshBalance
  split
  · exact calm_same s
  · exact .starts ⟨rfl, by simp⟩

theorem calm_tick (installed : Bool) : Calm s (s.tick installed) := by
  unfold tick
  split
  · exact calm_same s
  · split
    · exact calm_same s
    · exact .starts ⟨rfl, by simp⟩

theorem calm_step (cfg : Config) {e : Event} (ordinary : e.Ordinary) :
    Calm s (s.step cfg e) := by
  cases e with
  | connect walletKey => exact calm_connect s walletKey
  | disconnect walletKey installed => exact calm_disconnect s walletKey installed
  | refreshBalance ergo isConnected => exact calm_refreshBalance s ergo isConnected
  | clearError => exact .hook ⟨rfl, .inl rfl, .inl ⟨rfl, rfl⟩, List.Subset.refl _⟩ rfl
  | tick installed => exact calm_tick s installed
  | wait milliseconds => exact .hook ⟨rfl, .inl rfl, .inl ⟨rfl, rfl⟩, List.Subset.refl _⟩ rfl
  | answer | switch | reload => cases ordinary

/-- The condition on the continuation that the event runs, if it runs one. -/
def Continues (e : Event) (P : Flow → Answer → Prop) : Prop :=
  ∀ i a flow, e = .answer i a → s.flows[i]? = some flow → P flow a

variable {s} {P : Flow → Answer → Prop}

theorem continues_of_ne {e : Event} (h : ∀ i a, e ≠ .answer i a) : s.Continues e P :=
  fun i a _ he _ => absurd he (h i a)

theorem continues_of_none {i : Nat} (h : s.flows[i]? = none) (a : Answer) :
    s.Continues (.answer i a) P := by
  intro i' a' flow he waiting
  cases he
  rw [h] at waiting
  cases waiting

theorem continues_iff {i : Nat} {flow : Flow} (waiting : s.flows[i]? = some flow) (a : Answer) :
    s.Continues (.answer i a) P ↔ P flow a := by
  constructor
  · intro h
    exact h i a flow rfl waiting
  · intro h i' a' flow' he waiting'
    cases he
    rw [waiting] at waiting'
    cases waiting'
    exact h

/-- The rule for a step: a property that calm events, a change of the wallet and a reload
keep is kept exactly if the continuations that are run meet their condition. -/
theorem step_iff {cfg : Config} {Good : System → Prop} {e : Event} (good : Good s)
    (calm : ∀ s', Calm s s' → Good s')
    (switched : ∀ key, e = .switch key → Good (s.switch key))
    (mounted : ∀ key, Good (mount s.hook.storage s.hook.now key))
    (answered : ∀ i flow a, s.flows[i]? = some flow →
      (Good ⟨(flow.settle cfg s.hook a).1, s.flows.set i (flow.settle cfg s.hook a).2⟩ ↔
        P flow a)) :
    Good (s.step cfg e) ↔ s.Continues e P := by
  cases e with
  | answer i a =>
    change Good (s.answer cfg i a) ↔ _
    cases waiting : s.flows[i]? with
    | none =>
      have same : s.answer cfg i a = s := by simp only [answer, waiting]
      rw [same]
      exact iff_of_true good (continues_of_none waiting a)
    | some flow =>
      have next : s.answer cfg i a =
          ⟨(flow.settle cfg s.hook a).1, s.flows.set i (flow.settle cfg s.hook a).2⟩ := by
        simp only [answer, waiting]
      rw [next, continues_iff waiting]
      exact answered i flow a waiting
  | switch key => exact iff_of_true (switched key rfl) (continues_of_ne (by simp))
  | reload key => exact iff_of_true (mounted key) (continues_of_ne (by simp))
  | _ => exact iff_of_true (calm _ (calm_step s cfg trivial)) (continues_of_ne (by simp))

end System

end Steps

end DuckPools.Wallet
