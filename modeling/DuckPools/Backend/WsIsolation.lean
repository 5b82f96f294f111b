import DuckPools.Backend.WsSlots

/-!
# Whose events a connection receives

A connection is subscribed to one address only, the one its token was verified for
(`subscription_locked`). Addresses are put into lower case before they are compared, in the
token, in the path and in the tables, and so are the targets of broadcasts. So a connection
receives an event exactly if the two addresses agree up to case, and two Ergo addresses that
differ in case only, being in Base58, belong to different people (`isolated_iff`).
-/

namespace DuckPools.Backend

variable {WS Event : Type} {rt : Runtime} {s s' : System WS Event}

/-- Some handler has this connection, and its address agrees with the target up to case. -/
def Addressed (rt : Runtime) (s : System WS Event) (c : Nat) (target : Text) : Prop :=
  ∃ i h, s.handlers.lookup i = some h ∧ h.connId = some c ∧
    rt.lower target = rt.lower h.authenticatedAddress

/-- Connections stay with their handlers and addresses. -/
def Kept (s s' : System WS Event) : Prop :=
  ∀ i h c, s.handlers.lookup i = some h → h.connId = some c →
    ∃ h', s'.handlers.lookup i = some h' ∧ h'.connId = some c ∧
      h'.authenticatedAddress = h.authenticatedAddress

theorem Addressed.mono {c : Nat} {target : Text} (addressed : Addressed rt s c target)
    (kept : Kept s s') : Addressed rt s' c target := by
  obtain ⟨i, h, found, id, same⟩ := addressed
  obtain ⟨h', found', id', auth⟩ := kept i h c found id
  exact ⟨i, h', found', id', same.trans (congrArg rt.lower auth.symm)⟩

/-- Who receives and who will, and which tokens there are. -/
structure Delivery (rt : Runtime) (s : System WS Event) : Prop where
  pending : ∀ i b target, s.world.broadcasts.lookup i = some b → b.target = some target →
    ∀ p ∈ b.pending, Addressed rt s p.2 target
  received : ∀ c target event, (c, some target, event) ∈ s.world.received →
    Addressed rt s c target
  issued : ∀ token address, (token, address) ∈ s.tokens →
    ∃ now later body response, wsAuthenticate rt now later body = .ok response ∧
      response.token = token ∧ Py.strip body.address = address

theorem Delivery.initial : Delivery rt (System.initial : System WS Event) where
  pending i b target found := by
    rw [System.initial, World.initial, Finmap.lookup_empty] at found
    cases found
  received c target event received := by cases received
  issued token address issued := by cases issued

/-- What is remembered goes over to a system with the same broadcasts and tokens. -/
theorem Delivery.frame (delivery : Delivery rt s) (kept : Kept s s')
    (broadcasts : s'.world.broadcasts = s.world.broadcasts)
    (received : s'.world.received = s.world.received) (tokens : s'.tokens = s.tokens) :
    Delivery rt s' where
  pending i b target found htarget p hp := by
    rw [broadcasts] at found
    exact (delivery.pending i b target found htarget p hp).mono kept
  received c target event hc := by
    rw [received] at hc
    exact (delivery.received c target event hc).mono kept
  issued token address hissued := by
    rw [tokens] at hissued
    exact delivery.issued token address hissued

variable [DecidableEq WS]

/-- Every subscription is to the address that owns the connection, which is the subject of a
token that was verified for it. -/
theorem subscription_locked (idempotent : ∀ text, rt.lower (rt.lower text) = rt.lower text)
    (reached : SystemReachable rt s) {ws : WS} {c : Nat} {a : Text}
    (found : (ws, c) ∈ s.world.manager.subscriptions.get a) :
    s.world.manager.connOwner.lookup c = some a ∧
      ∃ i h now payload, s.handlers.lookup i = some h ∧ h.connId = some c ∧
        verifyToken rt now h.token = some payload ∧
        payload.item "sub".toList = some (.string a) := by
  have ok := reached.ok
  obtain ⟨live, subscribed⟩ := (ok.reachable.consistent.mirrored.mirror ws c a).mp found
  have hlive := Finmap.mem_of_lookup_eq_some live
  obtain ⟨i, h, running, id⟩ := ok.covered c hlive
  have mine := ok.handlers i h running
  obtain ⟨owned, same⟩ := mine.addresses c id a subscribed
  obtain ⟨normal, now, payload, verified, sub⟩ := mine.verified_of_id id
  have address : a = h.authenticatedAddress := by
    rw [same, normal, Handler.address, idempotent]
  refine ⟨?_, i, h, now, payload, running, id, verified, ?_⟩
  · rw [mine.owner c id owned hlive, same]
  · rw [address]
    exact sub

/-- The subscription of a session is in the tables. -/
theorem mem_sessionWorld (rt : Runtime) (ws : WS) (address : Text) (request : ClientRequest) :
    (ws, 0) ∈ (sessionWorld rt ws address request : World WS Event).manager.subscriptions.get
      (rt.lower (rt.lower address)) := by
  have subscriptions : (sessionWorld rt ws address request : World WS Event).manager.subscriptions =
      SetTable.modify ∅ (rt.lower (rt.lower address)) (insert (ws, 0)) := rfl
  rw [subscriptions, SetTable.get_modify, if_pos rfl]
  exact Finset.mem_insert_self _ _

theorem subscription_locked_sample :
    ∃ s : System Nat Unit, SystemReachable sampleRuntime s ∧
      s.world.manager.connOwner.lookup 0 =
          some (sampleRuntime.lower (sampleRuntime.lower sampleAddress)) ∧
        ∃ i h now payload, s.handlers.lookup i = some h ∧ h.connId = some 0 ∧
          verifyToken sampleRuntime now h.token = some payload ∧
          payload.item "sub".toList =
            some (.string (sampleRuntime.lower (sampleRuntime.lower sampleAddress))) := by
  obtain ⟨s, reached, _, world, _⟩ := sampleSession_attained
  have found : (7, 0) ∈ s.world.manager.subscriptions.get
      (sampleRuntime.lower (sampleRuntime.lower sampleAddress)) := by
    rw [world]
    exact mem_sessionWorld sampleRuntime 7 sampleAddress directClient
  exact ⟨s, reached, subscription_locked sampleRuntime_lawful.lower_lower reached found⟩

section Delivery

theorem HandlerStep.authenticatedAddress {now : ℚ} {h h' : Handler WS} {w w' : World WS Event}
    (step : HandlerStep rt now h w h' w') (late : h.phase ≠ .starting) :
    h'.authenticatedAddress = h.authenticatedAddress := by
  cases step with
  | authenticate phase => exact absurd phase late
  | connect accepted phase =>
      rcases w.connect_cases h.websocket accepted (getClientIp h.request) with ⟨e, heq⟩ | heq
      · rw [heq]
        cases e <;> rfl
      · rw [heq]
        rfl
  | @subscribe c address phase id =>
      rw [Handler.afterSubscribe.eq_def]
      split <;> rfl
  | setOwner | firstSubscribe | reject | confirm | confirmRaises | receive | receiveRaises => rfl
  | unsubscribe | reply | replyRaises | leaveAddress | leave | close => rfl

theorem SystemStep.kept (ok : SystemOk rt s) (step : SystemStep rt s s') : Kept s s' := by
  intro i h c found id
  cases step with
  | time now => exact ⟨h, found, id, rfl⟩
  | authenticate issued => exact ⟨h, found, id, rfl⟩
  | «open» websocket path token request unused =>
      refine ⟨h, (Finmap.lookup_insert_of_ne _ ?_).trans found, id, rfl⟩
      rintro rfl
      exact unused (Finmap.mem_of_lookup_eq_some found)
  | @handler j hj hj' w running step =>
      by_cases same : i = j
      · subst same
        obtain rfl : h = hj := Option.some.inj (found.symm.trans running)
        have mine := ok.handlers i h running
        have late : ∀ phase, phase = .starting ∨ phase = .connecting → h.phase ≠ phase := by
          rintro phase early rfl
          cases (mine.early early).symm.trans id
        refine ⟨hj', Finmap.lookup_insert _, ?_, ?_⟩
        · rcases step.effect.connId with kept | ⟨phase, _⟩
          · exact kept.trans id
          · exact absurd phase (late _ (Or.inr rfl))
        · exact step.authenticatedAddress (late _ (Or.inl rfl))
      · exact ⟨h, (Finmap.lookup_insert_of_ne _ same).trans found, id, rfl⟩
  | broadcast step => exact ⟨h, found, id, rfl⟩

/-- Handlers do not take part in broadcasts. -/
theorem Effect.broadcasts {h h' : Handler WS} {w w' : World WS Event}
    (effect : Effect rt h w h' w') :
    w'.broadcasts = w.broadcasts ∧ w'.received = w.received := by
  cases effect <;> exact ⟨rfl, rfl⟩

/-- The receivers of a broadcast are subscribed to its target. -/
theorem SystemOk.addressed_of_snapshot (ok : SystemOk rt s) {target : Text}
    {receivers : Finset (WS × Nat)}
    (snapshot : Snapshot rt.lower s.world.manager (some target) receivers) {p : WS × Nat}
    (hp : p ∈ receivers) : Addressed rt s p.2 target := by
  obtain rfl : receivers = _ := snapshot
  obtain ⟨live, subscribed⟩ := (ok.reachable.consistent.mirrored.mirror p.1 p.2 _).mp hp
  obtain ⟨i, h, found, id⟩ := ok.covered p.2 (Finmap.mem_of_lookup_eq_some live)
  exact ⟨i, h, found, id, ((ok.handlers i h found).addresses p.2 id _ subscribed).2⟩

theorem Delivery.broadcastStep (delivery : Delivery rt s) (ok : SystemOk rt s)
    {w : World WS Event} (step : BroadcastStep rt.lower s.world w) :
    Delivery rt { s with world := w } := by
  cases step with
  | @start i target receivers event unused snapshot =>
      refine { delivery with pending := ?_ }
      intro j b target' found htarget p hp
      rcases Dict.lookup_insert_cases found with ⟨rfl, rfl⟩ | ⟨_, old⟩
      · obtain rfl : target = some target' := htarget
        exact ok.addressed_of_snapshot snapshot hp
      · exact delivery.pending j b target' old htarget p hp
  | @send i b p running waits =>
      refine { delivery with pending := ?_, received := ?_ }
      · intro j b' target found htarget q hq
        rcases Dict.lookup_insert_cases found with ⟨rfl, rfl⟩ | ⟨_, old⟩
        · exact delivery.pending j b target running htarget q (Finset.mem_of_mem_erase hq)
        · exact delivery.pending j b' target old htarget q hq
      · intro c target event received
        rcases List.mem_append.mp received with old | new
        · exact delivery.received c target event old
        · rw [List.mem_singleton, Prod.mk.injEq, Prod.mk.injEq] at new
          obtain ⟨rfl, htarget, rfl⟩ := new
          exact delivery.pending i b target running htarget.symm p waits
  | @sendRaises i b p running waits =>
      refine { delivery with pending := ?_ }
      intro j b' target found htarget q hq
      rcases Dict.lookup_insert_cases found with ⟨rfl, rfl⟩ | ⟨_, old⟩
      · exact delivery.pending j b target running htarget q (Finset.mem_of_mem_erase hq)
      · exact delivery.pending j b' target old htarget q hq
  | @finish i b running done =>
      refine { delivery with pending := ?_ }
      intro j b' target found htarget q hq
      by_cases same : j = i
      · rw [same, Finmap.lookup_erase] at found
        cases found
      · rw [Finmap.lookup_erase_ne same] at found
        exact delivery.pending j b' target found htarget q hq

theorem Delivery.step (delivery : Delivery rt s) (ok : SystemOk rt s)
    (step : SystemStep rt s s') : Delivery rt s' := by
  have kept := step.kept ok
  cases step with
  | time now => exact delivery.frame kept rfl rfl rfl
  | @authenticate later body response issued =>
      refine { delivery with issued := ?_ }
      intro token address htoken
      rcases List.mem_append.mp htoken with old | new
      · exact delivery.issued token address old
      · rw [List.mem_singleton, Prod.mk.injEq] at new
        exact ⟨s.now, later, body, response, issued, new.1.symm, new.2.symm⟩
  | «open» websocket path token request unused => exact delivery.frame kept rfl rfl rfl
  | handler running step =>
      obtain ⟨broadcasts, received⟩ := step.effect.broadcasts
      exact delivery.frame kept broadcasts received rfl
  | broadcast step => exact delivery.broadcastStep ok step

theorem SystemReachable.delivery (reached : SystemReachable rt s) : Delivery rt s := by
  induction reached with
  | refl => exact Delivery.initial
  | tail before step ih => exact ih.step (SystemReachable.ok before) step

end Delivery

/-- No connection whose token was issued for `B` received an event that was sent to `A`. -/
def Isolated (s : System WS Event) (A B : Text) : Prop :=
  ∀ i h c event, s.handlers.lookup i = some h → h.connId = some c → (h.token, B) ∈ s.tokens →
    (c, some A, event) ∉ s.world.received

theorem isolated_of_lower_ne (lawful : rt.Lawful) (reached : SystemReachable rt s) {A B : Text}
    (differ : rt.lower A ≠ rt.lower B) : Isolated s A B := by
  intro i h c event found id issuedFor received
  obtain ⟨j, hj, found', id', same⟩ := reached.delivery.received c A event received
  obtain rfl := reached.ok.distinct i j h hj c found found' id id'
  obtain rfl : h = hj := Option.some.inj (found.symm.trans found')
  obtain ⟨now, later, body, response, issued, htoken, haddress⟩ :=
    reached.delivery.issued h.token B issuedFor
  obtain ⟨_, now', payload, verified, sub⟩ := (reached.ok.handlers i h found).verified_of_id id
  rw [← htoken] at verified
  have subject := sub_of_issued lawful issued verified
  rw [haddress, sub] at subject
  obtain heq : h.authenticatedAddress = rt.lower B := Json.string.inj (Option.some.inj subject)
  apply differ
  rw [same, heq, lawful.lower_lower]

/-- Without a secret nobody is connected. -/
theorem isolated_of_no_secret (reached : SystemReachable rt s) (secret : rt.WS_TOKEN_SECRET = [])
    (A B : Text) : Isolated s A B := by
  intro i h c event found id _ _
  obtain ⟨_, now, payload, verified, _⟩ := (reached.ok.handlers i h found).verified_of_id id
  rw [verifyToken, secret] at verified
  cases verified

/-- If the addresses agree up to case, an event reaches the wrong session. -/
theorem exists_not_isolated (lawful : rt.Lawful) (secret : rt.WS_TOKEN_SECRET ≠ []) {A B : Text}
    (acceptable : Acceptable B) (same : rt.lower A = rt.lower B) (now : ℚ) (ws : WS)
    (event : Event) : ∃ s : System WS Event, SystemReachable rt s ∧ ¬ Isolated s A B := by
  have subscribed : Attained rt _ _ (sessionWorld rt ws B ⟨none, none⟩ : World WS Event) _ :=
    session_attained lawful secret acceptable now ws ⟨none, none⟩
  have found : (ws, 0) ∈
      (sessionWorld rt ws B ⟨none, none⟩ : World WS Event).manager.subscriptions.get
        (rt.lower A) := by
    rw [same, ← lawful.lower_lower B]
    exact mem_sessionWorld rt ws B ⟨none, none⟩
  have unused : 0 ∉ (sessionWorld rt ws B ⟨none, none⟩ : World WS Event).broadcasts :=
    Finmap.notMem_empty
  have snapshot : Snapshot rt.lower
      (sessionWorld rt ws B ⟨none, none⟩ : World WS Event).manager (some A) _ := rfl
  have started := subscribed.broadcast (.start event unused snapshot)
  have sent := started.broadcast (.send (Finmap.lookup_insert _) found)
  obtain ⟨s, reached, running, world, tokens, _⟩ := sent
  refine ⟨s, reached, ?_⟩
  intro isolated
  refine isolated 0 _ 0 event running rfl ?_ ?_
  · rw [tokens]
    exact List.mem_cons_self
  · rw [world]
    exact List.mem_append_right _ List.mem_cons_self

/-- The addresses between which events stay apart in every run. Without a secret there is no
session at all. -/
theorem isolated_iff [Nonempty WS] [Nonempty Event] (lawful : rt.Lawful) {A B : Text}
    (acceptable : Acceptable B) :
    (∀ s : System WS Event, SystemReachable rt s → Isolated s A B) ↔
      rt.lower A ≠ rt.lower B ∨ rt.WS_TOKEN_SECRET = [] := by
  constructor
  · intro isolated
    by_contra neither
    rw [not_or, not_not] at neither
    obtain ⟨s, reached, shared⟩ := exists_not_isolated lawful neither.2 acceptable neither.1 0
      (Classical.arbitrary WS) (Classical.arbitrary Event)
    exact shared (isolated s reached)
  · rintro (differ | secret) s reached
    · exact isolated_of_lower_ne lawful reached differ
    · exact isolated_of_no_secret reached secret A B

/-- The address of another key, in the letters of `sampleAddress`. -/
def twinAddress : Text := "9hwHewPEKeSTPpVKPyJrQkzrXSDbNCpbPUYCBUDxPPhYsHwpAcA".toList

/-- An address in other letters. -/
def otherAddress : Text := "3WyrB3D5AMpyEc88UJ7FpdsBMXAZKwzQzkKeDbAQVfXytDPgxF26".toList

theorem isolated_iff_other :
    sampleRuntime.lower otherAddress ≠ sampleRuntime.lower sampleAddress ∧
      ((∀ s : System Nat Unit, SystemReachable sampleRuntime s →
          Isolated s otherAddress sampleAddress) ↔
        sampleRuntime.lower otherAddress ≠ sampleRuntime.lower sampleAddress ∨
          sampleRuntime.WS_TOKEN_SECRET = []) := by
  refine ⟨by decide, ?_⟩
  exact isolated_iff sampleRuntime_lawful sampleAddress_acceptable

theorem isolation_fails :
    ¬ ∀ A B : Text, Acceptable A → Acceptable B → A ≠ B →
      ∀ s : System Nat Unit, SystemReachable sampleRuntime s → Isolated s A B := by
  intro claim
  have acceptable : Acceptable twinAddress := by
    constructor <;> decide
  have same : sampleRuntime.lower twinAddress = sampleRuntime.lower sampleAddress := by decide
  obtain ⟨s, reached, shared⟩ := exists_not_isolated sampleRuntime_lawful
    sampleRuntime_secret sampleAddress_acceptable same 1711584000 7 ()
  exact shared (claim twinAddress sampleAddress acceptable sampleAddress_acceptable (by decide)
    s reached)

end DuckPools.Backend
