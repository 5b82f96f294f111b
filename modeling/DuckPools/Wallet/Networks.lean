import DuckPools.Language.Traces
import DuckPools.Wallet.Moves

/-!
# The network of a connected wallet

`connect` compares the network of an address with the expected one before it marks the
wallet connected. A restore and the reconnection of a locked wallet do not.
-/

namespace DuckPools.Wallet

open Traces

def OnExpectedNetwork (cfg : Config) (address : Option Address) : Prop :=
  ∃ a, address = some a ∧
    getNetworkFromAddress a.text ≠ some (getExpectedNetworkType cfg).opposite

/-- The flows that mark the wallet connected without looking at its network. -/
def Flow.unchecked : Flow → Bool
  | .restore .. | .reconnect .. => true
  | _ => false

theorem Flow.checked_takes {cfg : Config} {h : Hook} {flow : Flow} {a : Answer}
    {address : Option Address} (checked : flow.unchecked = false)
    (takes : flow.takes cfg h a = some (.address address)) : OnExpectedNetwork cfg address := by
  have reads : ∀ walletKey (progress : Progress),
      progress.takesChecked cfg walletKey = some (.address address) →
        OnExpectedNetwork cfg address := by
    intro walletKey progress takes
    cases progress with
    | waits | throws => cases takes
    | reads text balance tokens =>
      simp only [Progress.takesChecked, Option.ite_none_right_eq_some, Option.some.injEq,
        Held.address.injEq, Option.isNone_iff_eq_none] at takes
      obtain ⟨fits, rfl⟩ := takes
      exact ⟨_, rfl, (networkMismatch_eq_none cfg text).mp fits⟩
  cases flow with
  | connect walletKey phase =>
    change phase.takes cfg walletKey a = _ at takes
    cases phase with
    | fastReading r => exact reads walletKey (r.settle a) takes
    | reading r => exact reads walletKey (r.settle a) takes
    | fastContext | context =>
      cases a with
      | context given => cases given <;> cases takes
      | _ => cases takes
    | _ => cases takes
  | restore | reconnect => cases checked
  | disconnect | refresh | done => cases takes

namespace System

/-- A connected wallet has an address, and it is not one of the other network. -/
def ConnectedAsExpected (cfg : Config) (s : System) : Prop :=
  s.hook.state.isConnected = true → OnExpectedNetwork cfg s.hook.state.walletAddress

/-- A restore or a reconnection only takes an address that is not of the other network. -/
def TakesExpected (cfg : Config) (s : System) (e : Event) : Prop :=
  s.Continues e fun flow a => flow.unchecked = true →
    ∀ address, flow.takes cfg s.hook a = some (.address address) → OnExpectedNetwork cfg address

variable {cfg : Config} {s : System}

theorem connectedAsExpected_of_drops {h : Hook} (good : s.ConnectedAsExpected cfg)
    (drops : Drops s.hook h) (flows : List Flow) :
    (⟨h, flows⟩ : System).ConnectedAsExpected cfg := by
  intro connected
  rcases drops.state with ⟨sameConnected, sameAddress⟩ | ⟨disconnected, -⟩
  · change OnExpectedNetwork cfg h.state.walletAddress
    rw [sameAddress]
    exact good (sameConnected.symm.trans connected)
  · rw [disconnected] at connected
    cases connected

theorem connectedAsExpected_calm {s' : System} (good : s.ConnectedAsExpected cfg)
    (calm : Calm s s') : s'.ConnectedAsExpected cfg := by
  cases calm with
  | starts fresh => exact good
  | hook drops guard => exact connectedAsExpected_of_drops good drops s.flows

theorem connectedAsExpected_settle_iff (good : s.ConnectedAsExpected cfg) (flow : Flow)
    (a : Answer) (flows : List Flow) :
    ConnectedAsExpected cfg ⟨(flow.settle cfg s.hook a).1, flows⟩ ↔
      (flow.unchecked = true → ∀ address,
        flow.takes cfg s.hook a = some (.address address) → OnExpectedNetwork cfg address) := by
  have checked : flow.unchecked = false → ∀ address,
      flow.takes cfg s.hook a = some (.address address) → OnExpectedNetwork cfg address :=
    fun h _ => flow.checked_takes h
  have move := settle_heldMove cfg s.hook flow a
  generalize flow.takes cfg s.hook a = takes at move checked ⊢
  cases move with
  | drops drops => exact iff_of_true (connectedAsExpected_of_drops good drops flows) (by simp)
  | context stored =>
    rw [stored]
    exact iff_of_true good (by simp)
  | @address address walletKey ergo isConnected walletAddress storage =>
    have next : ConnectedAsExpected cfg ⟨(flow.settle cfg s.hook a).1, flows⟩ ↔
        OnExpectedNetwork cfg address := by
      simp [ConnectedAsExpected, isConnected, walletAddress]
    rw [next]
    constructor
    · intro h _ other hother
      cases hother
      exact h
    · intro h
      cases hflow : flow.unchecked with
      | false => exact checked hflow address rfl
      | true => exact h hflow address rfl

/-- A step keeps the wallet on its network exactly if a restore or a reconnection does not
take an address of the other one. -/
theorem connectedAsExpected_step_iff (good : s.ConnectedAsExpected cfg) (e : Event) :
    (s.step cfg e).ConnectedAsExpected cfg ↔ s.TakesExpected cfg e := by
  refine step_iff good (fun _ => connectedAsExpected_calm good) (fun key _ => ?_)
    (fun _ connected => by cases connected)
    fun _ flow a _ => connectedAsExpected_settle_iff good flow a _
  unfold switch
  split
  · exact good
  · intro connected
    cases connected

/-- Over a run, from any stored sessions: a connected wallet is never on the other network
exactly if no restore and no reconnection takes an address of it. -/
theorem connectedAsExpected_iff (cfg : Config) (storage : Storage) (now : Int)
    (walletKey : Option Text) (run : List Event) :
    Always (step cfg) (ConnectedAsExpected cfg) (mount storage now walletKey) run ↔
      EveryStep (step cfg) (TakesExpected cfg) (mount storage now walletKey) run :=
  @always_iff_everyStep _ _ (step cfg) (fun _ => True) (ConnectedAsExpected cfg)
    (fun _ => True) (TakesExpected cfg) (fun _ _ _ _ => trivial)
    (fun _ e _ _ good => connectedAsExpected_step_iff good e) _ trivial
    (fun connected => by cases connected) run fun _ _ => trivial

/-- A wallet on the mainnet is restored. -/
def mainnetRestore : List Event :=
  [.answer 0 (.connector true true), .answer 0 (.bool true), .answer 0 (.context true),
    .answer 0 (.text ("9h".toList ++ List.replicate 49 'x')), .answer 0 (.text "1000".toList),
    .answer 0 (.utxos [])]

theorem mainnetRestore_unexpected :
    ¬ Always (step ⟨some .testnet⟩) (ConnectedAsExpected ⟨some .testnet⟩)
      (mount ⟨true, []⟩ 0 (some "nautilus".toList)) mainnetRestore := by
  intro h
  have good := always_of_foldl h
  obtain ⟨a, haddress, other⟩ := good rfl
  cases haddress
  exact other (by decide)

end System

end DuckPools.Wallet
