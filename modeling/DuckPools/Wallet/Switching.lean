import DuckPools.Language.Traces
import DuckPools.Wallet.Moves

/-!
# Switching between wallets

The effect of a new `walletKey` clears what the hook holds and cancels the restore of the
old one. Calls of `connect` and ticks of the interval are not cancelled, so that they go on
with the wallet they started with, and a component that selects a wallet and then calls the
`connect` it already holds starts with the wallet that was selected before.
-/

namespace DuckPools.Wallet

open Traces

/-- The `walletKey` that a flow closes over, if it may store something. -/
def Flow.walletKey : Flow → Option Text
  | .connect walletKey _ | .restore walletKey _ _ | .reconnect walletKey _ => some walletKey
  | _ => none

/-- The flows that do not ask whether they were cancelled. -/
def Flow.uncancelled : Flow → Bool
  | .restore .. => false
  | _ => true

/-- The wallet of a restore that was not cancelled. -/
def Flow.restoring : Flow → Option Text
  | .restore walletKey false _ => some walletKey
  | _ => none

namespace System

/-- Connected, the hook holds no context and no address of another wallet. -/
def NotMixed (s : System) : Prop :=
  s.hook.state.isConnected = true →
    (∀ ctx, s.hook.ergo = some ctx → s.hook.walletKey = some ctx.wallet) ∧
      ∀ address, s.hook.state.walletAddress = some address →
        s.hook.walletKey = some address.wallet

/-- Connected or not, what the hook holds is of the selected wallet. -/
structure HoldsOwn (s : System) : Prop where
  ergo : ∀ ctx, s.hook.ergo = some ctx → s.hook.walletKey = some ctx.wallet
  address : ∀ address, s.hook.state.walletAddress = some address →
    s.hook.walletKey = some address.wallet

theorem HoldsOwn.notMixed {s : System} (h : s.HoldsOwn) : s.NotMixed :=
  fun _ => ⟨h.ergo, h.address⟩

/-- A call of `connect`, or a tick, that stores something was started for the wallet that is
selected now. -/
def StoresOwn (cfg : Config) (s : System) (e : Event) : Prop :=
  s.Continues e fun flow a => flow.uncancelled = true →
    flow.takes cfg s.hook a ≠ none → flow.walletKey = s.hook.walletKey

/-- Stored sessions hold addresses of their wallets, and restores that were not cancelled
are of the selected one. -/
structure Tidy (s : System) : Prop where
  sessions : ∀ session ∈ s.hook.storage.get, session.Own
  restores : ∀ flow ∈ s.flows, ∀ walletKey, flow.restoring = some walletKey →
    s.hook.walletKey = some walletKey

end System

section Takes

variable {cfg : Config} {h : Hook} {a : Answer}

theorem Progress.takes_some {walletKey : Text} (progress : Progress) {held : Held}
    (takes : progress.takes walletKey = some held) :
    ∃ text, held = .address (some ⟨walletKey, text⟩) := by
  cases progress with
  | waits | throws => cases takes
  | reads address balance tokens =>
    cases takes
    exact ⟨address, rfl⟩

theorem Progress.takesChecked_some {walletKey : Text} (progress : Progress) {held : Held}
    (takes : progress.takesChecked cfg walletKey = some held) :
    ∃ text, held = .address (some ⟨walletKey, text⟩) := by
  cases progress with
  | waits | throws => cases takes
  | reads address balance tokens =>
    simp only [Progress.takesChecked, Option.ite_none_right_eq_some, Option.some.injEq] at takes
    exact ⟨address, takes.2.symm⟩

/-- What a flow stores is of its wallet: the context, the address that was read, or what is
persisted for it. -/
inductive TakesOwn (h : Hook) (flow : Flow) : Held → Prop
  | context {walletKey : Text} (key : flow.walletKey = some walletKey) :
      TakesOwn h flow (.context walletKey)
  | read {walletKey text : Text} (key : flow.walletKey = some walletKey) :
      TakesOwn h flow (.address (some ⟨walletKey, text⟩))
  | persisted {session : PersistedWalletSession} (restore : flow.uncancelled = false)
      (key : flow.walletKey = some session.walletKey) (stored : session ∈ h.storage.get) :
      TakesOwn h flow (.address session.walletAddress)

theorem TakesOwn.of_context {flow : Flow} {wallet : Text}
    (own : TakesOwn h flow (.context wallet)) : flow.walletKey = some wallet := by
  cases own with
  | context key => exact key

theorem TakesOwn.of_address {flow : Flow} {address : Option Address} {found : Address}
    (own : TakesOwn h flow (.address address)) (hfound : address = some found)
    (sessions : ∀ session ∈ h.storage.get, session.Own) :
    flow.walletKey = some found.wallet := by
  cases own with
  | read key =>
    cases hfound
    exact key
  | persisted restore key stored =>
    rw [sessions _ stored found hfound]
    exact key

theorem ConnectPhase.takes_own {walletKey : Text} (phase : ConnectPhase) (cfg : Config)
    (a : Answer) {held : Held}
    (takes : phase.takes cfg walletKey a = some held) :
    TakesOwn h (.connect walletKey phase) held := by
  cases phase with
  | fastReading r | reading r =>
    obtain ⟨text, rfl⟩ := Progress.takesChecked_some (r.settle a) takes
    exact .read rfl
  | fastContext | context =>
    cases a with
    | context given =>
      cases given with
      | false => cases takes
      | true =>
        cases takes
        exact .context rfl
    | _ => cases takes
  | _ => cases takes

theorem RestorePhase.takes_own {walletKey : Text} {cancelled : Bool} (phase : RestorePhase)
    (a : Answer) {held : Held} (takes : phase.takes h walletKey a = some held) :
    TakesOwn h (.restore walletKey cancelled phase) held := by
  cases phase with
  | waitForConnector =>
    cases a with
    | connector available installed =>
      cases available <;> cases installed
      case true.true =>
        obtain ⟨session, found, rfl⟩ := Option.map_eq_some_iff.mp takes
        obtain ⟨stored, rfl⟩ := (Storage.persistedSession_reads rfl).2 session found
        exact .persisted rfl rfl stored
      all_goals cases takes
    | _ => cases takes
  | isConnected => cases takes
  | context =>
    cases a with
    | context given =>
      cases given with
      | false => cases takes
      | true =>
        cases takes
        exact .context rfl
    | _ => cases takes
  | reading r =>
    obtain ⟨text, rfl⟩ := Progress.takes_some (r.settle a) takes
    exact .read rfl

theorem ReconnectPhase.takes_own {walletKey : Text} (phase : ReconnectPhase) (a : Answer)
    {held : Held} (takes : phase.takes walletKey a = some held) :
    TakesOwn h (.reconnect walletKey phase) held := by
  cases phase with
  | isConnected => cases takes
  | context =>
    cases a with
    | context given =>
      cases given with
      | false => cases takes
      | true =>
        cases takes
        exact .context rfl
    | _ => cases takes
  | reading r =>
    obtain ⟨text, rfl⟩ := Progress.takes_some (r.settle a) takes
    exact .read rfl

theorem Flow.takes_own {flow : Flow} {held : Held} (takes : flow.takes cfg h a = some held) :
    TakesOwn h flow held := by
  cases flow with
  | connect walletKey phase => exact phase.takes_own cfg a takes
  | restore walletKey cancelled phase =>
    cases cancelled with
    | false => exact phase.takes_own a takes
    | true => cases takes
  | reconnect walletKey phase => exact phase.takes_own a takes
  | disconnect | refresh | done => cases takes

end Takes

section Restores

/-- A continuation of a restore has its wallet and its flag. -/
theorem Flow.GoesOn.restoring {flow next : Flow} (goesOn : flow.GoesOn next) :
    next.restoring = none ∨ next.restoring = flow.restoring := by
  cases goesOn with
  | @restore walletKey cancelled phase next => cases cancelled <;> exact .inr rfl
  | _ => exact .inl rfl

theorem cancel_restoring (flow : Flow) : flow.cancel.restoring = none := by
  cases flow <;> rfl

end Restores

namespace System

variable {cfg : Config} {s : System}

theorem restores_restoring {key : Option Text} {flow : Flow} (mem : flow ∈ restores key)
    {walletKey : Text} (h : flow.restoring = some walletKey) : key = some walletKey := by
  cases key with
  | none => cases mem
  | some key =>
    obtain rfl := List.mem_singleton.mp mem
    exact h

theorem tidy_mount {storage : Storage} (own : ∀ session ∈ storage.get, session.Own)
    (now : Int) (key : Option Text) : (mount storage now key).Tidy where
  sessions session mem := own session (Storage.cleanupExpiredSessions_subset now storage mem)
  restores _ mem _ h := restores_restoring mem h

theorem tidy_switch (tidy : s.Tidy) (key : Option Text) : (s.switch key).Tidy := by
  unfold switch
  split
  · exact tidy
  · refine ⟨tidy.sessions, fun flow mem walletKey h => ?_⟩
    rcases List.mem_append.mp mem with mem | mem
    · obtain ⟨before, -, rfl⟩ := List.mem_map.mp mem
      rw [cancel_restoring] at h
      cases h
    · exact restores_restoring mem h

theorem tidy_calm {s' : System} (tidy : s.Tidy) (calm : Calm s s') : s'.Tidy := by
  cases calm with
  | @starts flow fresh =>
    refine ⟨tidy.sessions, fun next mem walletKey h => ?_⟩
    rcases List.mem_append.mp mem with mem | mem
    · exact tidy.restores next mem walletKey h
    · obtain rfl := List.mem_singleton.mp mem
      cases next with
      | restore key cancelled phase => exact absurd rfl (fresh.2 key cancelled phase)
      | _ => cases h
  | hook drops guard =>
    refine ⟨fun session mem => tidy.sessions session (drops.storage mem), ?_⟩
    intro flow mem walletKey h
    exact drops.walletKey.trans (tidy.restores flow mem walletKey h)

theorem tidy_settle (tidy : s.Tidy) {i : Nat} {flow : Flow} (waiting : s.flows[i]? = some flow)
    (a : Answer) :
    Tidy ⟨(flow.settle cfg s.hook a).1, s.flows.set i (flow.settle cfg s.hook a).2⟩ := by
  have move := settle_heldMove cfg s.hook flow a
  refine ⟨move.sessions tidy.sessions, fun next mem walletKey h => ?_⟩
  change (flow.settle cfg s.hook a).1.walletKey = some walletKey
  rw [move.walletKey_eq]
  rcases List.mem_or_eq_of_mem_set mem with mem | rfl
  · exact tidy.restores next mem walletKey h
  · rcases (settle_goesOn cfg s.hook flow a).restoring with ended | goesOn
    · rw [ended] at h
      cases h
    · exact tidy.restores flow (List.mem_of_getElem? waiting) walletKey (goesOn.symm.trans h)

theorem tidy_step (tidy : s.Tidy) (e : Event) : (s.step cfg e).Tidy :=
  (step_iff tidy (fun _ => tidy_calm tidy) (fun key _ => tidy_switch tidy key)
    (tidy_mount tidy.sessions s.hook.now) fun _ _ a waiting =>
      iff_of_true (tidy_settle tidy waiting a) trivial).mpr fun _ _ _ _ _ => trivial

theorem holdsOwn_of_drops {h : Hook} (good : s.HoldsOwn) (drops : Drops s.hook h)
    (flows : List Flow) : (⟨h, flows⟩ : System).HoldsOwn := by
  constructor
  · intro ctx hctx
    rcases drops.ergo with same | gone
    · exact drops.walletKey.trans (good.ergo ctx (same.symm.trans hctx))
    · rw [gone] at hctx
      cases hctx
  · intro address haddress
    rcases drops.state with ⟨-, same⟩ | ⟨-, gone⟩
    · exact drops.walletKey.trans (good.address address (same.symm.trans haddress))
    · rw [gone] at haddress
      cases haddress

theorem holdsOwn_calm {s' : System} (good : s.HoldsOwn) (calm : Calm s s') : s'.HoldsOwn := by
  cases calm with
  | starts fresh => exact ⟨good.ergo, good.address⟩
  | hook drops guard => exact holdsOwn_of_drops good drops s.flows

/-- A restore that stores something was not cancelled, so its wallet is still selected. -/
theorem Tidy.restore_own (tidy : s.Tidy) {flow : Flow} (mem : flow ∈ s.flows) (cfg : Config)
    (a : Answer) (restore : flow.uncancelled = false) (takes : flow.takes cfg s.hook a ≠ none) :
    flow.walletKey = s.hook.walletKey := by
  cases flow with
  | restore walletKey cancelled phase =>
    cases cancelled with
    | false => exact (tidy.restores _ mem walletKey rfl).symm
    | true => exact absurd rfl takes
  | _ => cases restore

theorem holdsOwn_settle_iff (tidy : s.Tidy) (good : s.HoldsOwn) {flow : Flow}
    (mem : flow ∈ s.flows) (a : Answer) (flows : List Flow) :
    HoldsOwn ⟨(flow.settle cfg s.hook a).1, flows⟩ ↔
      (flow.uncancelled = true → flow.takes cfg s.hook a ≠ none →
        flow.walletKey = s.hook.walletKey) := by
  have restored := tidy.restore_own mem cfg a
  have own : ∀ held, flow.takes cfg s.hook a = some held → TakesOwn s.hook flow held :=
    fun _ => Flow.takes_own
  have move := settle_heldMove cfg s.hook flow a
  generalize flow.takes cfg s.hook a = takes at move own restored ⊢
  -- for a restore the condition holds anyway
  have condition : (flow.uncancelled = true → takes ≠ none →
      flow.walletKey = s.hook.walletKey) ↔
        (takes ≠ none → flow.walletKey = s.hook.walletKey) := by
    cases hflow : flow.uncancelled with
    | false => exact iff_of_true (fun h => by cases h) (restored hflow)
    | true => exact ⟨fun h => h rfl, fun h _ => h⟩
  rw [condition]
  cases move with
  | drops drops => exact iff_of_true (holdsOwn_of_drops good drops flows) (by simp)
  | @context wallet stored =>
    have key : flow.walletKey = some wallet := (own _ rfl).of_context
    rw [stored]
    constructor
    · intro h _
      rw [key]
      exact (h.ergo ⟨wallet⟩ rfl).symm
    · intro h
      refine ⟨fun ctx hctx => ?_, good.address⟩
      cases hctx
      exact (h (by simp)).symm.trans key
  | @address address walletKey ergo isConnected walletAddress storage =>
    constructor
    · intro h stores
      cases own _ rfl with
      | @read key text flowKey =>
        rw [flowKey]
        exact (walletKey.symm.trans (h.address ⟨key, text⟩ walletAddress)).symm
      | persisted restore => exact restored restore stores
    · intro h
      have same : flow.walletKey = s.hook.walletKey := h (by simp)
      refine ⟨fun ctx hctx => ?_, fun found hfound => ?_⟩
      · exact walletKey.trans (good.ergo ctx (ergo.symm.trans hctx))
      · have taken : address = some found := walletAddress.symm.trans hfound
        have key : flow.walletKey = some found.wallet := (own _ rfl).of_address taken tidy.sessions
        exact walletKey.trans (same.symm.trans key)

/-- A step keeps what is held of the selected wallet exactly if what a call of `connect` or
a tick stores is of it too. -/
theorem holdsOwn_step_iff (tidy : s.Tidy) (good : s.HoldsOwn) (e : Event) :
    (s.step cfg e).HoldsOwn ↔ s.StoresOwn cfg e := by
  refine step_iff good (fun _ => holdsOwn_calm good) (fun key _ => ?_)
    (fun _ => ⟨fun _ h => (by cases h), fun _ h => by cases h⟩)
    fun _ _ a waiting => holdsOwn_settle_iff tidy good (List.mem_of_getElem? waiting) a _
  unfold switch
  split
  · exact good
  · exact ⟨fun _ h => (by cases h), fun _ h => by cases h⟩

section Runs

variable (cfg : Config) (available : Bool) (now : Int) (walletKey : Option Text)

/-- Over a run that starts without sessions: the hook only ever holds what is of the
selected wallet exactly if calls of `connect` and ticks only store what is. -/
theorem holdsOwn_iff (run : List Event) :
    Always (step cfg) HoldsOwn (mount ⟨available, []⟩ now walletKey) run ↔
      EveryStep (step cfg) (StoresOwn cfg) (mount ⟨available, []⟩ now walletKey) run := by
  have tidy : (mount ⟨available, []⟩ now walletKey).Tidy := by
    refine tidy_mount (fun session mem => ?_) now walletKey
    cases available <;> cases mem
  have own : (mount ⟨available, []⟩ now walletKey).HoldsOwn :=
    ⟨fun _ h => (by cases h), fun _ h => by cases h⟩
  exact @always_iff_everyStep _ _ (step cfg) Tidy HoldsOwn (fun _ => True) (StoresOwn cfg)
    (fun _ e tidy _ => tidy_step tidy e) (fun _ e tidy _ good => holdsOwn_step_iff tidy good e)
    _ tidy own run fun _ _ => trivial

/-- Wallets are not mixed if no call of `connect` and no tick stores anything unless its
wallet is the selected one. -/
theorem notMixed_of_storesOwn {run : List Event}
    (h : EveryStep (step cfg) (StoresOwn cfg) (mount ⟨available, []⟩ now walletKey) run) :
    Always (step cfg) NotMixed (mount ⟨available, []⟩ now walletKey) run :=
  ((holdsOwn_iff cfg available now walletKey run).mpr h).mono fun _ => HoldsOwn.notMixed

end Runs

/-- The selector of wallets: another wallet is selected, and then the `connect` is called that
the selector got when it was last rendered, before the change. -/
def connectAfterSelecting : List Event :=
  [.switch (some "safew".toList), .connect (some "nautilus".toList),
    .answer 2 (.connector true true), .answer 2 (.bool true), .answer 2 (.bool true),
    .answer 2 (.context true), .answer 2 (.text ("3W".toList ++ List.replicate 49 'x')),
    .answer 2 (.text "1000".toList), .answer 2 (.utxos [])]

theorem connectAfterSelecting_mixed :
    ¬ Always (step ⟨some .testnet⟩) NotMixed
      (mount ⟨true, []⟩ 0 (some "nautilus".toList)) connectAfterSelecting := by
  intro h
  have own := (always_of_foldl h rfl).2 _ rfl
  exact absurd own (by decide)

/-- A call that ends before the wallet changes. -/
def switchAfterConnecting : List Event :=
  [.connect (some "nautilus".toList), .answer 1 (.connector true true), .answer 1 (.bool true),
    .answer 1 (.bool true), .answer 1 (.context true),
    .answer 1 (.text ("3W".toList ++ List.replicate 49 'x')), .answer 1 (.text "1000".toList),
    .answer 1 (.utxos []), .switch (some "safew".toList)]

theorem notMixed_switchAfterConnecting :
    Always (step ⟨some .testnet⟩) NotMixed (mount ⟨true, []⟩ 0 (some "nautilus".toList))
      switchAfterConnecting := by
  refine notMixed_of_storesOwn ⟨some .testnet⟩ true 0 (some "nautilus".toList)
    ⟨?_, ?_, ?_, ?_, ?_, ?_, ?_, ?_, ?_, trivial⟩
  all_goals
    intro i a flow event waiting _ _
    cases event
  all_goals
    cases waiting
    rfl

end System

end DuckPools.Wallet
