import DuckPools.Backend.WsSessions

/-!
# Connection slots

A handler that has ended should have left nothing in the tables of the manager. Two things
keep it from that. The confirmation is sent before the `try` that ends in `disconnect`, so
if it raises the connection stays in all tables, and no later step of a handler or a
broadcast takes it out. And `disconnect` leaves an empty client address alone.
-/

namespace DuckPools.Backend

variable {WS Event : Type} {rt : Runtime} {w : World WS Event}

/-- The connection is in none of the tables. -/
structure Absent (m : ConnectionManager WS) (c : Nat) : Prop where
  connAddresses : c ∉ m.connAddresses
  connIps : c ∉ m.connIps
  ipConnections : ∀ clientIp, c ∉ m.ipConnections.get clientIp
  connOwner : c ∉ m.connOwner
  subscriptions : ∀ a ws, (ws, c) ∉ m.subscriptions.get a

variable [DecidableEq WS]

theorem absent_iff {lower : Text → Text} (reached : Reachable lower w) {c : Nat} {clientIp : Text}
    (issued : (c, clientIp) ∈ w.issued) :
    Absent w.manager c ↔ c ∉ w.sockets ∧ clientIp ≠ [] := by
  have consistent := reached.consistent
  have accounted := reached.ipAccounted
  constructor
  · intro absent
    have gone : c ∉ w.sockets := by
      rw [← consistent.mirrored.keys]
      exact absent.connAddresses
    refine ⟨gone, ?_⟩
    rintro rfl
    exact absent.ipConnections [] ((accounted.sets c []).mpr ⟨issued, Or.inr rfl⟩)
  · rintro ⟨gone, nonempty⟩
    constructor
    · rw [consistent.mirrored.keys]
      exact gone
    · intro hc
      obtain ⟨ip, found⟩ := Finmap.mem_iff.mp hc
      exact gone ((accounted.ips c ip).mp found).1
    · intro ip filed
      obtain ⟨issued', live | empty⟩ := (accounted.sets c ip).mp filed
      · exact gone live
      · exact nonempty ((consistent.clientIp_unique issued issued').trans empty)
    · intro hc
      exact gone (accounted.owners c hc)
    · intro a ws found
      exact gone (Finmap.mem_of_lookup_eq_some ((consistent.mirrored.mirror ws c a).mp found).1)

/-- A handler that has ended left no slot behind exactly if its confirmation did not raise
and its client address is not empty. -/
theorem slot_released_iff {s : System WS Event} (reached : SystemReachable rt s) {i : Nat}
    {h : Handler WS} (found : s.handlers.lookup i = some h) (ended : h.phase = .ended) {c : Nat}
    (id : h.connId = some c) :
    Absent s.world.manager c ↔
      h.confirmationRaised = false ∧ getClientIp h.request ≠ [] := by
  have ok := reached.ok
  have mine := ok.handlers i h found
  have free : h.phase.holds = false := congrArg Phase.holds ended
  rw [absent_iff ok.reachable (mine.issued c id), mine.released free c id, Bool.not_eq_true]

/-- A client without a proxy in front of it. -/
def directClient : ClientRequest where
  forwardedFor := none
  clientHost := some "10.0.0.7".toList

/-- The address of the payload that `sampleRuntime` has the signature of. -/
def sampleAddress : Text := "9hwHewPEKeSTPpVKPyJrQkzRxsDBNCPbpUyCbuDXPphYshWPacA".toList

theorem sampleAddress_acceptable : Acceptable sampleAddress := by
  constructor <;> decide

theorem sampleRuntime_secret : sampleRuntime.WS_TOKEN_SECRET ≠ [] := by decide

/-- A subscription to `sampleAddress` whose confirmation is about to be sent. -/
theorem sampleSession_attained :
    Attained sampleRuntime [(sessionToken sampleRuntime 1711584000 sampleAddress, sampleAddress)]
      (sessionExpiry sampleRuntime 1711584000)
      (sessionWorld sampleRuntime 7 sampleAddress directClient : World Nat Unit)
      (sessionHandler sampleRuntime 1711584000 7 sampleAddress directClient
        (.confirming (Handler.confirmation (sampleRuntime.lower sampleAddress) 0)) (some 0)) :=
  session_attained sampleRuntime_lawful sampleRuntime_secret sampleAddress_acceptable _ _ _

/-- The client goes away while the handler listens. -/
theorem slot_released_iff_left :
    ∃ (s : System Nat Unit) (h : Handler Nat), SystemReachable sampleRuntime s ∧
      s.handlers.lookup 0 = some h ∧ h.phase = .ended ∧ h.connId = some 0 ∧
      (Absent s.world.manager 0 ↔
        h.confirmationRaised = false ∧ getClientIp h.request ≠ []) := by
  have listening := sampleSession_attained.step (.confirm rfl)
  have leaving := listening.step (.receiveRaises rfl)
  have unsubscribed := leaving.step (.leaveAddress rfl rfl (Finset.mem_singleton_self _))
  have ended := unsubscribed.step (.leave rfl rfl (Finset.erase_singleton _))
  obtain ⟨s, reached, found, _⟩ := ended
  exact ⟨s, _, reached, found, rfl, rfl, slot_released_iff reached found rfl rfl⟩

/-- The client goes away before the confirmation. -/
theorem slot_not_released :
    ¬ ∀ (s : System Nat Unit) (i : Nat) (h : Handler Nat) (c : Nat),
      SystemReachable sampleRuntime s → s.handlers.lookup i = some h → h.phase = .ended →
        h.connId = some c → Absent s.world.manager c := by
  intro claim
  have ended := sampleSession_attained.step (.confirmRaises rfl)
  obtain ⟨s, reached, found, _⟩ := ended
  have absent := claim s 0 _ 0 reached found rfl rfl
  have live : 0 ∈ s.world.sockets :=
    ((reached.ok.handlers 0 _ found).released rfl 0 rfl).mpr rfl
  exact absent.connAddresses ((reached.ok.reachable.consistent.mirrored.keys 0).mpr live)

end DuckPools.Backend
