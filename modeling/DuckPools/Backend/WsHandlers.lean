import DuckPools.Backend.WsEffects

/-!
# Handlers own the connections

`HandlerOk` relates a handler to the entries of its connection: while it holds the
connection, the websocket and the owner are its own, and every address of the connection
is the one its token was verified for; afterwards the connection is gone, unless the
confirmation could not be sent. `SystemOk` adds that two handlers never share a connection
and that every open connection has a handler. Both hold in every reachable system.
-/

namespace DuckPools.Backend

variable {WS Event : Type} {rt : Runtime} {w w' : World WS Event} {h h' : Handler WS}

/-- The address of the handler is the subject of a token that was verified for it. -/
def Handler.Verified (rt : Runtime) (h : Handler WS) : Prop :=
  h.authenticatedAddress = h.address rt ∧
    ∃ now payload, verifyToken rt now h.token = some payload ∧
      payload.item "sub".toList = some (.string h.authenticatedAddress)

structure HandlerOk (rt : Runtime) (w : World WS Event) (h : Handler WS) : Prop where
  early : h.phase = .starting ∨ h.phase = .connecting → h.connId = none
  holding : h.phase.holds = true → ∃ c, h.connId = some c ∧ w.sockets.lookup c = some h.websocket
  released : h.phase.holds = false → ∀ c, h.connId = some c →
    (c ∈ w.sockets ↔ h.confirmationRaised = true)
  raised : h.confirmationRaised = true → h.phase = .ended
  issued : ∀ c, h.connId = some c → (c, getClientIp h.request) ∈ w.issued
  verified : h.phase = .connecting ∨ h.connId ≠ none → h.Verified rt
  owner : ∀ c, h.connId = some c → h.phase ≠ .connected → c ∈ w.sockets →
    w.manager.connOwner.lookup c = some (rt.lower h.authenticatedAddress)
  addresses : ∀ c, h.connId = some c → ∀ a ∈ w.manager.connAddresses.get c,
    h.phase ≠ .connected ∧ a = rt.lower h.authenticatedAddress
  requested : ∀ a, h.phase = .subscribing a → a = h.authenticatedAddress

theorem HandlerOk.initial (rt : Runtime) (w : World WS Event) (websocket : WS) (path token : Text)
    (request : ClientRequest) : HandlerOk rt w (.initial websocket path token request) where
  early _ := rfl
  holding h := by cases h
  released _ c id := by cases id
  raised h := by cases h
  issued c id := by cases id
  verified h := by
    rcases h with h | h
    · cases h
    · exact absurd rfl h
  owner c id := by cases id
  addresses c id := by cases id
  requested a h := by cases h

/-- Only verified handlers have connections. -/
theorem HandlerOk.verified_of_id (ok : HandlerOk rt w h) {c : Nat} (id : h.connId = some c) :
    h.Verified rt := by
  apply ok.verified
  rw [id]
  exact Or.inr (Option.some_ne_none c)

/-- A handler whose entries are untouched. -/
theorem HandlerOk.frame (ok : HandlerOk rt w h)
    (untouched : ∀ c, h.connId = some c → Untouched w w' c) : HandlerOk rt w' h where
  early := ok.early
  holding holds := by
    obtain ⟨c, id, live⟩ := ok.holding holds
    exact ⟨c, id, (untouched c id).socket.trans live⟩
  released free c id := by
    rw [(untouched c id).mem_sockets]
    exact ok.released free c id
  raised := ok.raised
  issued c id := (untouched c id).issued _ (ok.issued c id)
  verified := ok.verified
  owner c id phase live := by
    rw [(untouched c id).owner]
    exact ok.owner c id phase ((untouched c id).mem_sockets.mp live)
  addresses c id a ha := ok.addresses c id a ((untouched c id).addresses ha)
  requested := ok.requested

/-- A phase after `set_owner`, in which only the owner's address is subscribed. -/
def Phase.Locked (owner : Text) : Phase → Prop
  | .subscribing address => address = owner
  | .starting | .connecting | .connected | .closing _ _ | .ended => False
  | .owned | .rejected _ | .confirming _ | .listening | .unsubscribing _ | .replying _ => True
  | .leaving => True

theorem Phase.Locked.holds {owner : Text} {phase : Phase} (locked : phase.Locked owner) :
    phase.holds = true := by
  cases phase <;> first | rfl | cases locked

theorem Phase.Locked.ne_connected {owner : Text} {phase : Phase} (locked : phase.Locked owner) :
    phase ≠ .connected := by
  rintro rfl
  exact locked

/-- The handler goes on while it holds its connection. -/
theorem HandlerOk.goOn (ok : HandlerOk rt w h) (before : h.phase.Locked h.authenticatedAddress)
    {phase : Phase} (locked : phase.Locked h.authenticatedAddress) (subscribed : Finset Text) :
    HandlerOk rt w { h with phase, subscribedAddresses := subscribed } where
  early late := by
    rcases late with rfl | rfl <;> cases locked
  holding _ := ok.holding before.holds
  released free := by
    cases locked.holds.symm.trans free
  raised raised := by
    rw [ok.raised raised] at before
    cases before
  issued := ok.issued
  verified late := by
    apply ok.verified
    rcases late with rfl | late
    · cases locked
    · exact Or.inr late
  owner c id _ live := ok.owner c id before.ne_connected live
  addresses c id a ha := ⟨locked.ne_connected, (ok.addresses c id a ha).2⟩
  requested a subscribing := by
    obtain rfl : phase = .subscribing a := subscribing
    exact locked

/-- A handler that will not touch the tables again. -/
def Phase.Over (phase : Phase) : Prop :=
  phase = .ended ∨ ∃ code reason, phase = .closing code reason

theorem Phase.Over.free {phase : Phase} (past : phase.Over) : phase.holds = false := by
  rcases past with rfl | ⟨code, reason, rfl⟩ <;> rfl

theorem Phase.Over.not_early {phase : Phase} (past : phase.Over) :
    ¬ (phase = .starting ∨ phase = .connecting) := by
  rintro (rfl | rfl) <;> rcases past with past | ⟨code, reason, past⟩ <;> cases past

theorem Phase.ne_connected_of_free {phase : Phase} (free : phase.holds = false) :
    phase ≠ .connected := by
  rintro rfl
  cases free

theorem Phase.ne_subscribing_of_free {phase : Phase} (free : phase.holds = false) (a : Text) :
    phase ≠ .subscribing a := by
  rintro rfl
  cases free

theorem HandlerOk.quiet (ok : HandlerOk rt w h) (running : h.phase ≠ .ended) :
    h.confirmationRaised = false := by
  rw [← Bool.not_eq_true]
  intro raised
  exact running (ok.raised raised)

/-- A handler that holds nothing comes to its end. -/
theorem HandlerOk.finish (ok : HandlerOk rt w h) (free : h.phase.holds = false)
    (running : h.phase ≠ .ended) {phase : Phase} (past : phase.Over) :
    HandlerOk rt w { h with phase } where
  early late := absurd late past.not_early
  holding holds := by
    cases past.free.symm.trans holds
  released _ := ok.released free
  raised raised := by
    cases (ok.quiet running).symm.trans raised
  issued := ok.issued
  verified late := by
    rcases late with late | late
    · exact absurd (Or.inr late) past.not_early
    · exact ok.verified (Or.inr late)
  owner c id _ live := ok.owner c id (Phase.ne_connected_of_free free) live
  addresses c id a ha := ⟨Phase.ne_connected_of_free past.free, (ok.addresses c id a ha).2⟩
  requested a subscribing := absurd subscribing (Phase.ne_subscribing_of_free past.free a)

/-- Whatever the client sends, the handler stays locked to its address. -/
theorem Handler.locked_act (rt : Runtime) (h : Handler WS) (msg action : Json) :
    (h.act rt msg action).Locked h.authenticatedAddress := by
  rw [act.eq_def]
  split
  · split
    · split
      · dsimp only
        split
        · trivial
        · split
          · trivial
          · rename_i same
            exact not_not.mp same
      · trivial
    · split
      · split
        · split
          · split <;> trivial
          · trivial
        · trivial
      · split <;> trivial
  · trivial

theorem Handler.locked_handleMessage (rt : Runtime) (h : Handler WS) (data : Text) :
    (h.handleMessage rt data).Locked h.authenticatedAddress := by
  rw [handleMessage]
  split
  · trivial
  · trivial
  · split
    · exact h.locked_act rt _ _
    · trivial

theorem HandlerOk.authenticate (ok : HandlerOk rt w h) (now : ℚ) (phase : h.phase = .starting) :
    HandlerOk rt w (h.authenticate rt now) := by
  have free : h.phase.holds = false := congrArg Phase.holds phase
  have none := ok.early (Or.inl phase)
  have running : h.phase ≠ .ended := by
    rw [phase]
    intro ended
    cases ended
  rcases h.authenticate_cases rt now with ⟨payload, verified, sub, heq⟩ | ⟨phase', past, heq⟩
  · rw [heq]
    constructor
    · intro _
      exact none
    · intro holds
      cases holds
    · intro _ c id
      cases none.symm.trans id
    · intro raised
      exact absurd (ok.raised raised) running
    · exact ok.issued
    · intro _
      exact ⟨rfl, now, payload, verified, sub⟩
    · intro c id
      cases none.symm.trans id
    · intro c id
      cases none.symm.trans id
    · intro a subscribing
      cases subscribing
  · rw [heq]
    exact ok.finish free running past

/-- A new connection has no addresses and no owner yet. -/
theorem HandlerOk.accept (ok : HandlerOk rt w h) (phase : h.phase = .connecting) :
    HandlerOk rt (w.accept h.websocket (getClientIp h.request))
      { h with phase := .connected, connId := some w.manager.nextId } := by
  have empty : (w.accept h.websocket (getClientIp h.request)).manager.connAddresses.get
      w.manager.nextId = ∅ := by
    rw [World.accept, SetTable.get_insert, if_pos rfl]
  constructor
  · intro late
    rcases late with late | late <;> cases late
  · intro _
    exact ⟨w.manager.nextId, rfl, Finmap.lookup_insert _⟩
  · intro free
    cases free
  · intro raised
    rw [ok.raised raised] at phase
    cases phase
  · rintro c ⟨⟩
    exact List.mem_append_right _ List.mem_cons_self
  · intro _
    exact ok.verified (Or.inl phase)
  · intro c _ owned
    exact absurd rfl owned
  · rintro c ⟨⟩ a ha
    rw [empty] at ha
    exact absurd ha (Finset.notMem_empty a)
  · intro a subscribing
    cases subscribing

theorem HandlerOk.connect (ok : HandlerOk rt w h) (phase : h.phase = .connecting)
    (accepted : Bool) :
    HandlerOk rt (w.connect h.websocket accepted (getClientIp h.request)).2
      (h.afterConnect (w.connect h.websocket accepted (getClientIp h.request)).1) := by
  have free : h.phase.holds = false := congrArg Phase.holds phase
  have running : h.phase ≠ .ended := by
    rw [phase]
    intro ended
    cases ended
  rcases w.connect_cases h.websocket accepted (getClientIp h.request) with ⟨e, heq⟩ | heq
  · rw [heq]
    cases e with
    | ConnectionLimitExceeded message => exact ok.finish free running (Or.inr ⟨_, _, rfl⟩)
    | notAccepted => exact ok.finish free running (Or.inl rfl)
    | KeyError c => exact ok.finish free running (Or.inl rfl)
  · rw [heq]
    exact ok.accept phase

theorem HandlerOk.setOwner (ok : HandlerOk rt w h) (phase : h.phase = .connected) {c : Nat}
    (id : h.connId = some c) :
    HandlerOk rt (w.setOwner rt.lower c h.authenticatedAddress) { h with phase := .owned } := by
  have holds : h.phase.holds = true := congrArg Phase.holds phase
  constructor
  · intro late
    rcases late with late | late <;> cases late
  · intro _
    exact ok.holding holds
  · intro free
    cases free
  · intro raised
    rw [ok.raised raised] at phase
    cases phase
  · exact ok.issued
  · intro _
    exact ok.verified_of_id id
  · intro c' id' _ _
    obtain rfl : c = c' := Option.some.inj (id.symm.trans id')
    exact Finmap.lookup_insert _
  · intro c' id' a ha
    exact absurd phase (ok.addresses c' id' a ha).1
  · intro a subscribing
    cases subscribing

/-- The confirmation raises outside of `try`, so the connection stays. -/
theorem HandlerOk.confirmRaises (ok : HandlerOk rt w h)
    (before : h.phase.Locked h.authenticatedAddress) :
    HandlerOk rt w { h with phase := .ended, confirmationRaised := true } := by
  obtain ⟨c, id, live⟩ := ok.holding before.holds
  have past : Phase.ended.Over := Or.inl rfl
  constructor
  · intro late
    exact absurd late past.not_early
  · intro holds
    cases holds
  · intro _ c' id'
    obtain rfl : c = c' := Option.some.inj (id.symm.trans id')
    exact iff_of_true (Finmap.mem_of_lookup_eq_some live) rfl
  · intro _
    rfl
  · exact ok.issued
  · intro _
    exact ok.verified_of_id id
  · intro c' id' _ live'
    exact ok.owner c' id' before.ne_connected live'
  · intro c' id' a ha
    exact ⟨Phase.ne_connected_of_free past.free, (ok.addresses c' id' a ha).2⟩
  · intro a subscribing
    cases subscribing

variable [DecidableEq WS]

/-- The owner's address is subscribed. -/
theorem HandlerOk.subscribed (ok : HandlerOk rt w h)
    (before : h.phase.Locked h.authenticatedAddress) (c : Nat) :
    HandlerOk rt (w.subscribe rt.lower c h.authenticatedAddress h.websocket).2 h := by
  have accounts :=
    sameAccounts_subscribe rt.lower w.manager c h.authenticatedAddress h.websocket
  refine { ok with owner := ?_, addresses := ?_ }
  · intro c' id' phase live
    rw [World.subscribe]
    dsimp only
    rw [accounts.connOwner]
    exact ok.owner c' id' phase live
  · intro c' id' a ha
    rcases mem_connAddresses_subscribe ha with old | ⟨_, new⟩
    · exact ok.addresses c' id' a old
    · exact ⟨before.ne_connected, new⟩

/-- After `disconnect` nothing of the connection is left. -/
theorem HandlerOk.disconnect (ok : HandlerOk rt w h) (holds : h.phase.holds = true) {c : Nat}
    (id : h.connId = some c) {phase : Phase} (past : phase.Over) :
    HandlerOk rt (w.disconnect c) { h with phase } := by
  have running : h.phase ≠ .ended := by
    intro ended
    rw [ended] at holds
    cases holds
  have gone : ∀ c', h.connId = some c' → c' ∉ (w.disconnect c).sockets := by
    intro c' id' live
    obtain rfl : c = c' := Option.some.inj (id.symm.trans id')
    exact (Finmap.mem_erase.mp live).1 rfl
  constructor
  · intro late
    exact absurd late past.not_early
  · intro holds'
    cases past.free.symm.trans holds'
  · intro _ c' id'
    exact iff_of_false (gone c' id') (by simp [ok.quiet running])
  · intro raised
    exact absurd (ok.raised raised) running
  · exact ok.issued
  · intro _
    exact ok.verified_of_id id
  · intro c' id' _ live
    exact absurd live (gone c' id')
  · intro c' id' a ha
    obtain rfl : c = c' := Option.some.inj (id.symm.trans id')
    rw [World.disconnect, ConnectionManager.disconnect, SetTable.get_erase, if_pos rfl] at ha
    exact absurd ha (Finset.notMem_empty a)
  · intro a subscribing
    exact absurd subscribing (Phase.ne_subscribing_of_free past.free a)

/-- On a live connection `subscribe` raises at a limit only. -/
theorem Consistent.subscribe_result (consistent : Consistent w) (lower : Text → Text) {c : Nat}
    {ws : WS} (live : w.sockets.lookup c = some ws) (address : Text) :
    (w.subscribe lower c address ws).1 = .ok () ∨
      ∃ message, (w.subscribe lower c address ws).1 =
        .error (.ConnectionLimitExceeded message) := by
  obtain ⟨addresses, found⟩ := Finmap.mem_iff.mp
    ((consistent.mirrored.keys c).mpr (Finmap.mem_of_lookup_eq_some live))
  rw [World.subscribe, ConnectionManager.subscribe, found]
  dsimp only
  split_ifs with crowded full
  · exact Or.inr ⟨_, rfl⟩
  · exact Or.inr ⟨_, rfl⟩
  · exact Or.inl rfl

theorem HandlerOk.firstSubscribe (ok : HandlerOk rt w h) (consistent : Consistent w)
    (phase : h.phase = .owned) {c : Nat} (id : h.connId = some c) :
    HandlerOk rt (w.subscribe rt.lower c (h.address rt) h.websocket).2
      (h.afterFirstSubscribe rt c (w.subscribe rt.lower c (h.address rt) h.websocket).1) := by
  have before : h.phase.Locked h.authenticatedAddress := by
    rw [phase]
    trivial
  obtain ⟨c', id', live⟩ := ok.holding before.holds
  obtain rfl : c = c' := Option.some.inj (id.symm.trans id')
  have result := consistent.subscribe_result rt.lower live (h.address rt)
  obtain ⟨same, _⟩ := ok.verified_of_id id
  have subscribed := ok.subscribed before c
  rw [same] at subscribed
  rcases result with heq | ⟨message, heq⟩
  · rw [heq]
    exact subscribed.goOn before (by trivial) h.subscribedAddresses
  · rw [heq]
    exact subscribed.goOn before (by trivial) h.subscribedAddresses

theorem HandlerOk.subscribe (ok : HandlerOk rt w h) (consistent : Consistent w) {address : Text}
    (phase : h.phase = .subscribing address) {c : Nat} (id : h.connId = some c) :
    HandlerOk rt (w.subscribe rt.lower c address h.websocket).2
      (h.afterSubscribe address (w.subscribe rt.lower c address h.websocket).1) := by
  obtain rfl := ok.requested address phase
  have before : h.phase.Locked h.authenticatedAddress := by
    rw [phase]
    exact rfl
  obtain ⟨c', id', live⟩ := ok.holding before.holds
  obtain rfl : c = c' := Option.some.inj (id.symm.trans id')
  have subscribed := ok.subscribed before c
  rcases consistent.subscribe_result rt.lower live h.authenticatedAddress with heq | ⟨message, heq⟩
  · rw [heq]
    exact subscribed.goOn before (by trivial) _
  · rw [heq]
    exact subscribed.goOn before (by trivial) h.subscribedAddresses

theorem HandlerOk.unsubscribe (ok : HandlerOk rt w h)
    (before : h.phase.Locked h.authenticatedAddress) {phase : Phase}
    (locked : phase.Locked h.authenticatedAddress) (subscribed : Finset Text) (c : Nat)
    (address : Text) :
    HandlerOk rt (w.unsubscribe rt.lower c address)
      { h with phase, subscribedAddresses := subscribed } := by
  have kept : HandlerOk rt (w.unsubscribe rt.lower c address) h :=
    ok.frame fun c' _ => untouched_unsubscribe rt.lower w address c c'
  exact kept.goOn before locked subscribed

/-- The step lemma of a handler. -/
theorem HandlerOk.step (ok : HandlerOk rt w h) (consistent : Consistent w) {now : ℚ}
    (step : HandlerStep rt now h w h' w') : HandlerOk rt w' h' := by
  have locked : ∀ {phase : Phase}, h.phase = phase → phase.Locked h.authenticatedAddress →
      h.phase.Locked h.authenticatedAddress := by
    rintro phase rfl locked
    exact locked
  cases step with
  | authenticate phase => exact ok.authenticate now phase
  | connect accepted phase => exact ok.connect phase accepted
  | setOwner phase id => exact ok.setOwner phase id
  | firstSubscribe phase id => exact ok.firstSubscribe consistent phase id
  | reject phase id => exact ok.disconnect (congrArg Phase.holds phase) id (Or.inr ⟨_, _, rfl⟩)
  | confirm phase => exact ok.goOn (locked phase trivial) (by trivial) _
  | confirmRaises phase => exact ok.confirmRaises (locked phase trivial)
  | receive data phase =>
      exact ok.goOn (locked phase trivial) (h.locked_handleMessage rt data) h.subscribedAddresses
  | receiveRaises phase => exact ok.goOn (locked phase trivial) (by trivial) h.subscribedAddresses
  | subscribe phase id => exact ok.subscribe consistent phase id
  | @unsubscribe c address phase id =>
      exact ok.unsubscribe (locked phase trivial) (by trivial) _ c address
  | reply phase => exact ok.goOn (locked phase trivial) (by trivial) h.subscribedAddresses
  | replyRaises phase => exact ok.goOn (locked phase trivial) (by trivial) h.subscribedAddresses
  | @leaveAddress c address phase id subscribed =>
      have before := locked phase trivial
      exact ok.unsubscribe before before _ c address
  | leave phase id done => exact ok.disconnect (congrArg Phase.holds phase) id (Or.inl rfl)
  | close phase =>
      refine ok.finish (congrArg Phase.holds phase) ?_ (Or.inl rfl)
      rw [phase]
      intro ended
      cases ended

section System

variable {s s' : System WS Event}

/-- What holds between the steps of all handlers, broadcasts and requests. -/
structure SystemOk (rt : Runtime) (s : System WS Event) : Prop where
  reachable : Reachable rt.lower s.world
  handlers : ∀ i h, s.handlers.lookup i = some h → HandlerOk rt s.world h
  distinct : ∀ i j h h' c, s.handlers.lookup i = some h → s.handlers.lookup j = some h' →
    h.connId = some c → h'.connId = some c → i = j
  covered : ∀ c ∈ s.world.sockets, ∃ i h, s.handlers.lookup i = some h ∧ h.connId = some c

theorem SystemOk.initial : SystemOk rt (System.initial : System WS Event) where
  reachable := Relation.ReflTransGen.refl
  handlers i h found := by
    rw [System.initial, Finmap.lookup_empty] at found
    cases found
  distinct i j h h' c found := by
    rw [System.initial, Finmap.lookup_empty] at found
    cases found
  covered c hc := absurd hc Finmap.notMem_empty

/-- The id that a handler has after its step is nobody else's. -/
theorem SystemOk.connId_ne (ok : SystemOk rt s) {i j : Nat} {h h' hj : Handler WS}
    {w' : World WS Event} (running : s.handlers.lookup i = some h)
    (effect : Effect rt h s.world h' w') (found : s.handlers.lookup j = some hj) (other : j ≠ i)
    {c : Nat} (id : hj.connId = some c) : h'.connId ≠ some c := by
  intro id'
  rcases effect.connId with same | ⟨_, new⟩
  · exact other (ok.distinct j i hj h c found running id (same.symm.trans id'))
  · obtain rfl := Option.some.inj (new.symm.trans id')
    exact Nat.lt_irrefl _
      (ok.reachable.consistent.fresh _ ((ok.handlers j hj found).issued _ id))

theorem SystemOk.handlerStep (ok : SystemOk rt s) {i : Nat} {h h' : Handler WS}
    {w' : World WS Event} (running : s.handlers.lookup i = some h)
    (step : HandlerStep rt s.now h s.world h' w') :
    SystemOk rt { s with world := w', handlers := s.handlers.insert i h' } := by
  have effect := step.effect
  have mine := ok.handlers i h running
  constructor
  · apply ok.reachable.trans
    apply effect.worldStep
    intro holds c id
    obtain ⟨c', id', live⟩ := mine.holding holds
    rwa [Option.some.inj (id.symm.trans id')]
  · intro j hj found
    rcases Dict.lookup_insert_cases found with ⟨_, rfl⟩ | ⟨other, found⟩
    · exact mine.step ok.reachable.consistent step
    · apply (ok.handlers j hj found).frame
      intro c id
      exact effect.untouched (ok.connId_ne running effect found other id)
  · intro j k hj hk c foundj foundk idj idk
    rcases Dict.lookup_insert_cases foundj with ⟨rfl, rfl⟩ | ⟨otherj, oldj⟩
    · rcases Dict.lookup_insert_cases foundk with ⟨rfl, rfl⟩ | ⟨otherk, oldk⟩
      · rfl
      · exact absurd idj (ok.connId_ne running effect oldk otherk idk)
    · rcases Dict.lookup_insert_cases foundk with ⟨rfl, rfl⟩ | ⟨otherk, oldk⟩
      · exact absurd idk (ok.connId_ne running effect oldj otherj idj)
      · exact ok.distinct j k hj hk c oldj oldk idj idk
  · intro c live
    by_cases id : h'.connId = some c
    · exact ⟨i, h', Finmap.lookup_insert _, id⟩
    · obtain ⟨j, hj, found, idj⟩ := ok.covered c ((effect.untouched id).mem_sockets.mp live)
      by_cases same : j = i
      · subst same
        obtain rfl : h = hj := Option.some.inj (running.symm.trans found)
        rcases effect.connId with kept | ⟨phase, _⟩
        · exact absurd (kept.trans idj) id
        · cases (mine.early (Or.inr phase)).symm.trans idj
      · exact ⟨j, hj, (Finmap.lookup_insert_of_ne _ same).trans found, idj⟩

theorem SystemOk.open (ok : SystemOk rt s) {i : Nat} (unused : i ∉ s.handlers) (websocket : WS)
    (path token : Text) (request : ClientRequest) :
    SystemOk rt
      { s with handlers := s.handlers.insert i (.initial websocket path token request) } where
  reachable := ok.reachable
  handlers j h found := by
    rcases Dict.lookup_insert_cases found with ⟨_, rfl⟩ | ⟨_, found⟩
    · exact HandlerOk.initial rt s.world websocket path token request
    · exact ok.handlers j h found
  distinct j k hj hk c foundj foundk idj idk := by
    rcases Dict.lookup_insert_cases foundj with ⟨rfl, rfl⟩ | ⟨otherj, foundj⟩
    · cases idj
    · rcases Dict.lookup_insert_cases foundk with ⟨rfl, rfl⟩ | ⟨otherk, foundk⟩
      · cases idk
      · exact ok.distinct j k hj hk c foundj foundk idj idk
  covered c live := by
    obtain ⟨j, hj, found, id⟩ := ok.covered c live
    refine ⟨j, hj, (Finmap.lookup_insert_of_ne _ ?_).trans found, id⟩
    rintro rfl
    exact unused (Finmap.mem_of_lookup_eq_some found)

theorem SystemOk.step (ok : SystemOk rt s) (step : SystemStep rt s s') : SystemOk rt s' := by
  cases step with
  | time now => exact { ok with }
  | authenticate issued => exact { ok with }
  | «open» websocket path token request unused => exact ok.open unused websocket path token request
  | handler running step => exact ok.handlerStep running step
  | @broadcast w step =>
      refine { ok with
        reachable := ok.reachable.tail (.broadcast step), handlers := ?_, covered := ?_ }
      · intro i h found
        exact (ok.handlers i h found).frame fun c _ => untouched_broadcast step c
      · intro c live
        exact ok.covered c ((untouched_broadcast step c).mem_sockets.mp live)

/-- The run lemma. -/
theorem SystemReachable.ok (reached : SystemReachable rt s) : SystemOk rt s := by
  induction reached with
  | refl => exact SystemOk.initial
  | tail _ step ih => exact ih.step step

end System

end DuckPools.Backend
