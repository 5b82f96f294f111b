import DuckPools.Language.Traces
import DuckPools.Wallet.Moves

/-!
# The popups of a wallet

`connectGuard` is read when `connect` is called and set when the popup is opened. In between
the call waits several times, and so may other calls that were let through.
-/

namespace DuckPools.Wallet

open Traces

/-- The continuation goes on to `conn.connect()`: the fast path was not taken or failed. -/
def ConnectPhase.opensPopup : ConnectPhase → Answer → Bool
  | .checking, .bool connected => !connected
  | .checking, .rejected _ => true
  | .fastContext, .context given => !given
  | .fastContext, .rejected _ => true
  | .fastReading r, answer => (r.settle answer).failed
  | .fastMismatch, .rejected _ => true
  | _, _ => false

def Flow.opensPopup : Flow → Answer → Bool
  | .connect _ phase, answer => phase.opensPopup answer
  | _, _ => false

/-- What a continuation does to the popup of its call, and to the guard. -/
inductive PopupMove (opens before after guard guard' : Bool) : Prop
  | stays (quiet : opens = false) (same : after = before) (kept : guard' = guard)
  | opened (opening : opens = true) (closed : before = false) (shown : after = true)
      (set : guard' = true)
  | finished (quiet : opens = false) (shown : before = true) (closed : after = false)
      (cleared : guard' = false)

section Continuations

variable (cfg : Config) (h : Hook) (walletKey : Text)

theorem settleFastReading_popupMove (progress : Progress) :
    PopupMove progress.failed false (settleFastReading cfg h walletKey progress).2.popup
      h.connectGuard (settleFastReading cfg h walletKey progress).1.connectGuard := by
  fun_cases settleFastReading cfg h walletKey progress with
  | case1 => exact .stays rfl rfl rfl
  | case2 => exact .opened rfl rfl rfl rfl
  | case3 => exact .stays rfl rfl rfl
  | case4 => exact .stays rfl rfl rfl

theorem settleReading_popupMove (progress : Progress) :
    PopupMove false true (settleReading cfg h walletKey progress).2.popup h.connectGuard
      (settleReading cfg h walletKey progress).1.connectGuard := by
  fun_cases settleReading cfg h walletKey progress with
  | case1 => exact .stays rfl rfl rfl
  | case2 => exact .finished rfl rfl rfl rfl
  | case3 => exact .stays rfl rfl rfl
  | case4 => exact .finished rfl rfl rfl rfl

theorem settleConnect_popupMove (phase : ConnectPhase) (a : Answer) :
    PopupMove (phase.opensPopup a) phase.popup (settleConnect cfg h walletKey phase a).2.popup
      h.connectGuard (settleConnect cfg h walletKey phase a).1.connectGuard := by
  fun_cases settleConnect cfg h walletKey phase a
  all_goals first
    | exact settleFastReading_popupMove cfg h walletKey _
    | exact settleReading_popupMove cfg h walletKey _
    | exact .stays rfl rfl rfl
    | exact .opened rfl rfl rfl rfl
    | exact .finished rfl rfl rfl rfl
    | skip
  -- an answer that the phase does not wait for
  have quiet : phase.opensPopup a = false := by
    fun_cases phase.opensPopup a <;> simp_all
  exact .stays quiet rfl rfl

/-- Other flows have no popup and leave the guard alone. -/
theorem Unguarded.popupMove {flow : Flow} {next : Hook × Flow} (h : Hook)
    (unguarded : Unguarded h flow next)
    (noConnect : ∀ walletKey phase, flow ≠ .connect walletKey phase) :
    PopupMove false flow.popup next.2.popup h.connectGuard next.1.connectGuard := by
  refine .stays rfl ?_ unguarded.connectGuard
  have goesOn := unguarded.goesOn
  generalize next.2 = after at goesOn
  cases goesOn with
  | connect => exact absurd rfl (noConnect _ _)
  | ends =>
    cases flow with
    | connect walletKey phase => exact absurd rfl (noConnect walletKey phase)
    | _ => rfl
  | _ => rfl

theorem settle_popupMove (flow : Flow) (a : Answer) :
    PopupMove (flow.opensPopup a) flow.popup (flow.settle cfg h a).2.popup h.connectGuard
      (flow.settle cfg h a).1.connectGuard := by
  cases flow with
  | connect walletKey phase => exact settleConnect_popupMove cfg h walletKey phase a
  | restore walletKey cancelled phase =>
    exact (settleRestore_unguarded h walletKey cancelled phase a).popupMove h (by simp)
  | reconnect walletKey phase =>
    exact (settleReconnect_unguarded h walletKey phase a).popupMove h (by simp)
  | disconnect walletKey => exact (settleDisconnect_unguarded h walletKey a).popupMove h (by simp)
  | refresh phase => exact (settleRefresh_unguarded h phase a).popupMove h (by simp)
  | done => exact .stays rfl rfl rfl

end Continuations

namespace System

/-- The calls of `connect` that are between `conn.connect()` and their `finally` block. -/
def popups (s : System) : Nat := s.flows.countP Flow.popup

/-- There is at most one popup, and the guard is set exactly while there is one. -/
def OnePopup (s : System) : Prop :=
  s.popups ≤ 1 ∧ (s.hook.connectGuard = true ↔ s.popups = 1)

/-- A call that goes on to open the popup finds the guard clear. -/
def OpensUnguarded (s : System) (e : Event) : Prop :=
  s.Continues e fun flow a => flow.opensPopup a = true → s.hook.connectGuard = false

theorem popups_start (s : System) {flow : Flow} (h : flow.popup = false) :
    (s.start flow).popups = s.popups := by
  simp [popups, start, h]

theorem popups_mount (storage : Storage) (now : Int) (walletKey : Option Text) :
    (mount storage now walletKey).popups = 0 := by
  cases walletKey <;> rfl

theorem onePopup_mount (storage : Storage) (now : Int) (walletKey : Option Text) :
    (mount storage now walletKey).OnePopup := by
  unfold OnePopup
  rw [popups_mount]
  exact ⟨by omega, by simp [mount]⟩

/-- The number of popups after an answer. -/
theorem popups_set {s : System} {i : Nat} {flow : Flow} (hflow : s.flows[i]? = some flow)
    (h : Hook) (next : Flow) :
    (⟨h, s.flows.set i next⟩ : System).popups =
      s.popups - flow.popup.toNat + next.popup.toNat := by
  obtain ⟨hi, rfl⟩ := List.getElem?_eq_some_iff.mp hflow
  unfold popups
  rw [List.countP_set hi]
  cases s.flows[i].popup <;> cases next.popup <;> rfl

theorem one_le_popups {s : System} {i : Nat} {flow : Flow} (hflow : s.flows[i]? = some flow)
    (h : flow.popup = true) : 1 ≤ s.popups :=
  List.one_le_countP_iff.mpr ⟨flow, List.mem_of_getElem? hflow, h⟩

variable {cfg : Config} {s : System}

theorem onePopup_settle_iff (good : s.OnePopup) {i : Nat} {flow : Flow}
    (waiting : s.flows[i]? = some flow) (a : Answer) :
    OnePopup ⟨(flow.settle cfg s.hook a).1, s.flows.set i (flow.settle cfg s.hook a).2⟩ ↔
      (flow.opensPopup a = true → s.hook.connectGuard = false) := by
  obtain ⟨atMost, guarded⟩ := good
  unfold OnePopup
  rw [popups_set waiting]
  rcases settle_popupMove cfg s.hook flow a with
    ⟨quiet, same, kept⟩ | ⟨opening, closed, shown, set⟩ | ⟨quiet, shown, closed, cleared⟩
  · have : s.popups - flow.popup.toNat + flow.popup.toNat = s.popups := by
      cases h : flow.popup with
      | false => rfl
      | true => exact Nat.sub_add_cancel (one_le_popups waiting h)
    rw [same, this, kept, quiet]
    exact iff_of_true ⟨atMost, guarded⟩ (by simp)
  · rw [closed, shown, set]
    cases hg : s.hook.connectGuard with
    | false =>
      have none : s.popups = 0 := by
        have : s.popups ≠ 1 := fun h => by simp [guarded.mpr h] at hg
        omega
      simp [none]
    | true =>
      have one : s.popups = 1 := guarded.mp hg
      simp [one, opening]
  · have one : s.popups = 1 := by
      have := one_le_popups waiting shown
      omega
    rw [shown, closed, cleared, one, quiet]
    simp

theorem onePopup_calm {s' : System} (good : s.OnePopup) (calm : Calm s s') : s'.OnePopup := by
  cases calm with
  | starts fresh =>
    unfold OnePopup
    rw [popups_start s fresh.1]
    exact good
  | hook drops guard =>
    unfold OnePopup
    rw [guard]
    exact good

/-- Without a change of the wallet, a step keeps the popups apart exactly if it opens none
while the guard is set. -/
theorem onePopup_step_iff (good : s.OnePopup) {e : Event} (same : ∀ key, e ≠ .switch key) :
    (s.step cfg e).OnePopup ↔ s.OpensUnguarded e :=
  step_iff good (fun _ => onePopup_calm good) (fun key he => absurd he (same key))
    (onePopup_mount _ _) fun _ _ a waiting => onePopup_settle_iff good waiting a

/-- A run without a change of the wallet never has two popups, nor the guard without a
popup, exactly if each call finds the guard clear when it opens the popup. -/
theorem onePopup_iff (cfg : Config) (storage : Storage) (now : Int) (walletKey : Option Text)
    {run : List Event} (same : ∀ key, Event.switch key ∉ run) :
    Always (step cfg) OnePopup (mount storage now walletKey) run ↔
      EveryStep (step cfg) OpensUnguarded (mount storage now walletKey) run := by
  refine @always_iff_everyStep _ _ (step cfg) (fun _ => True) OnePopup
    (fun e => ∀ key, e ≠ .switch key) OpensUnguarded (fun _ _ _ _ => trivial)
    (fun s e _ allowed good => onePopup_step_iff good allowed) _ trivial
    (onePopup_mount storage now walletKey) run fun e he key h => ?_
  subst h
  exact same key he

/-- The second call is let through while the first one waits for the wallet. -/
def twoCalls : List Event :=
  [.connect (some "nautilus".toList), .connect (some "nautilus".toList),
    .answer 1 (.connector true true), .answer 2 (.connector true true), .answer 1 (.bool false),
    .answer 2 (.bool false), .answer 1 (.bool false), .answer 2 (.bool false)]

def exampleStorage : Storage := ⟨true, []⟩

theorem twoCalls_two_popups :
    ¬ Always (step ⟨some .testnet⟩) OnePopup (mount exampleStorage 0 (some "nautilus".toList))
      twoCalls := by
  intro h
  have two : (twoCalls.foldl (step ⟨some .testnet⟩)
      (mount exampleStorage 0 (some "nautilus".toList))).popups = 2 := by decide
  have := (always_of_foldl h).1
  omega

/-- One call that opens its popup, which the user declines. -/
def oneCall : List Event :=
  [.connect (some "nautilus".toList), .answer 1 (.connector true true), .answer 1 (.bool false),
    .answer 1 (.bool false), .answer 1 (.bool false)]

theorem onePopup_iff_oneCall :
    Always (step ⟨some .testnet⟩) OnePopup (mount exampleStorage 0 (some "nautilus".toList))
        oneCall ↔
      EveryStep (step ⟨some .testnet⟩) OpensUnguarded
        (mount exampleStorage 0 (some "nautilus".toList)) oneCall :=
  onePopup_iff ⟨some .testnet⟩ exampleStorage 0 (some "nautilus".toList) (by simp [oneCall])

end System

end DuckPools.Wallet
