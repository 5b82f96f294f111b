import DuckPools.Backend.WsRoutes

/-!
# What handlers do to the tables

`Effect` says once which operation of the manager a handler step performs. The steps of a
system are then steps of its world (`Effect.worldStep`), and a handler touches the entries
of its own connection only (`Effect.untouched`), a broadcast those of nobody
(`untouched_broadcast`): it may only drop addresses.
-/

namespace DuckPools.Backend

variable {WS Event : Type} {rt : Runtime} {w w' : World WS Event} {h h' : Handler WS}

/-- Between `connect` and `disconnect`. -/
def Phase.holds : Phase → Bool
  | .connected | .owned | .rejected _ | .confirming _ | .listening | .subscribing _ => true
  | .unsubscribing _ | .replying _ | .leaving => true
  | .starting | .connecting | .closing _ _ | .ended => false

/-- The world after a connection was accepted. -/
def World.accept (w : World WS Event) (ws : WS) (clientIp : Text) : World WS Event :=
  { w with
    manager :=
      { w.manager with
        nextId := w.manager.nextId + 1
        connAddresses := w.manager.connAddresses.insert w.manager.nextId ∅
        connIps := w.manager.connIps.insert w.manager.nextId clientIp
        ipConnections := w.manager.ipConnections.modify clientIp (insert w.manager.nextId) }
    sockets := w.sockets.insert w.manager.nextId ws
    issued := w.issued ++ [(w.manager.nextId, clientIp)] }

theorem World.connect_cases (w : World WS Event) (ws : WS) (accepted : Bool) (clientIp : Text) :
    (∃ e, w.connect ws accepted clientIp = (.error e, w)) ∨
      w.connect ws accepted clientIp = (.ok w.manager.nextId, w.accept ws clientIp) := by
  rw [World.connect, ConnectionManager.connect]
  split_ifs with full busy refused
  · exact Or.inl ⟨_, rfl⟩
  · exact Or.inl ⟨_, rfl⟩
  · exact Or.inl ⟨_, rfl⟩
  · exact Or.inr rfl

section Untouched

/-- The entries of a connection stay as they were, apart from addresses that go. -/
structure Untouched (w w' : World WS Event) (c : Nat) : Prop where
  issued : ∀ clientIp, (c, clientIp) ∈ w.issued → (c, clientIp) ∈ w'.issued
  socket : w'.sockets.lookup c = w.sockets.lookup c
  owner : w'.manager.connOwner.lookup c = w.manager.connOwner.lookup c
  addresses : w'.manager.connAddresses.get c ⊆ w.manager.connAddresses.get c

theorem Untouched.refl (w : World WS Event) (c : Nat) : Untouched w w c :=
  ⟨fun _ hc => hc, rfl, rfl, Finset.Subset.refl _⟩

theorem Untouched.mem_sockets {c : Nat} (hc : Untouched w w' c) :
    c ∈ w'.sockets ↔ c ∈ w.sockets := by
  rw [Finmap.mem_iff, Finmap.mem_iff, hc.socket]

theorem untouched_accept (w : World WS Event) (ws : WS) (clientIp : Text) {c : Nat}
    (other : c ≠ w.manager.nextId) : Untouched w (w.accept ws clientIp) c where
  issued _ hc := List.mem_append_left _ hc
  socket := Finmap.lookup_insert_of_ne _ other
  owner := rfl
  addresses := by
    rw [World.accept, SetTable.get_insert, if_neg other]

theorem untouched_setOwner (lower : Text → Text) (w : World WS Event) (address : Text)
    {c c' : Nat} (other : c' ≠ c) : Untouched w (w.setOwner lower c address) c' where
  issued _ hc := hc
  socket := rfl
  owner := Finmap.lookup_insert_of_ne _ other
  addresses := Finset.Subset.refl _

theorem connAddresses_foldl_subset {round : ConnectionManager WS → WS × Nat → ConnectionManager WS}
    {c : Nat} (each : ∀ m p, (round m p).connAddresses.get c ⊆ m.connAddresses.get c)
    (m : ConnectionManager WS) (dead : List (WS × Nat)) :
    (dead.foldl round m).connAddresses.get c ⊆ m.connAddresses.get c := by
  induction dead generalizing m with
  | nil => exact Finset.Subset.refl _
  | cons p dead ih => exact (ih (round m p)).trans (each m p)

variable [DecidableEq WS]

/-- The only address that `subscribe` adds, and where. -/
theorem mem_connAddresses_subscribe {lower : Text → Text} {m : ConnectionManager WS} {c c' : Nat}
    {address a : Text} {ws : WS}
    (ha : a ∈ (m.subscribe lower c address ws).2.connAddresses.get c') :
    a ∈ m.connAddresses.get c' ∨ (c' = c ∧ a = lower address) := by
  rw [ConnectionManager.subscribe] at ha
  dsimp only at ha
  split at ha
  · exact Or.inl ha
  · split at ha
    · exact Or.inl ha
    · rename_i addresses found
      split at ha
      · exact Or.inl ha
      · rw [SetTable.get_insert] at ha
        split at ha
        · rename_i heq
          rw [heq, SetTable.get_of_lookup found]
          rcases Finset.mem_insert.mp ha with new | old
          · exact Or.inr ⟨rfl, new⟩
          · exact Or.inl old
        · exact Or.inl ha

theorem untouched_subscribe (lower : Text → Text) (w : World WS Event) (address : Text) (ws : WS)
    {c c' : Nat} (other : c' ≠ c) : Untouched w (w.subscribe lower c address ws).2 c' where
  issued _ hc := hc
  socket := rfl
  owner := by
    rw [World.subscribe]
    dsimp only
    rw [(sameAccounts_subscribe lower w.manager c address ws).connOwner]
  addresses a ha := by
    rcases mem_connAddresses_subscribe ha with old | ⟨same, _⟩
    · exact old
    · exact absurd same other

theorem untouched_unsubscribe (lower : Text → Text) (w : World WS Event) (address : Text)
    (c c' : Nat) : Untouched w (w.unsubscribe lower c address) c' where
  issued _ hc := hc
  socket := rfl
  owner := rfl
  addresses := SetTable.get_adjust_subset (fun _ => Finset.erase_subset _ _) _ _ _

theorem untouched_disconnect (w : World WS Event) {c c' : Nat} (other : c' ≠ c) :
    Untouched w (w.disconnect c) c' where
  issued _ hc := hc
  socket := Finmap.lookup_erase_ne other
  owner := Finmap.lookup_erase_ne other
  addresses := by
    rw [World.disconnect, ConnectionManager.disconnect, SetTable.get_erase, if_neg other]

theorem connAddresses_cleanUp_subset (lower : Text → Text) (b : Broadcast WS Event)
    (m : ConnectionManager WS) (c : Nat) :
    (b.cleanUp lower m).connAddresses.get c ⊆ m.connAddresses.get c := by
  rw [Broadcast.cleanUp]
  split
  · exact Finset.Subset.refl _
  · cases b.target with
    | some address =>
        apply connAddresses_foldl_subset
        intro m p
        exact SetTable.get_adjust_subset (fun _ => Finset.erase_subset _ _) _ _ _
    | none =>
        apply connAddresses_foldl_subset
        intro m p
        exact SetTable.get_adjust_subset (fun _ => Finset.sdiff_subset) _ _ _

theorem untouched_broadcast {lower : Text → Text} (step : BroadcastStep lower w w') (c : Nat) :
    Untouched w w' c := by
  obtain ⟨accounts, sockets, issued⟩ := step.accounts
  refine ⟨?_, ?_, ?_, ?_⟩
  · intro clientIp hc
    rw [issued]
    exact hc
  · rw [sockets]
  · rw [accounts.connOwner]
  · cases step with
    | start event unused snapshot => exact Finset.Subset.refl _
    | send running waits => exact Finset.Subset.refl _
    | sendRaises running waits => exact Finset.Subset.refl _
    | @finish i b running done => exact connAddresses_cleanUp_subset lower b w.manager c

end Untouched

section Effect

/-- The operation of the manager that a handler step performs, if any. -/
inductive Effect [DecidableEq WS] (rt : Runtime) (h : Handler WS) (w : World WS Event)
    (h' : Handler WS) : World WS Event → Prop
  | quiet (same : h'.connId = h.connId) : Effect rt h w h' w
  | accept {accepted : Bool} (phase : h.phase = .connecting)
      (id : h'.connId = some w.manager.nextId)
      (admitted : (w.connect h.websocket accepted (getClientIp h.request)).2 =
        w.accept h.websocket (getClientIp h.request)) :
      Effect rt h w h' (w.accept h.websocket (getClientIp h.request))
  | setOwner {c : Nat} (same : h'.connId = h.connId) (id : h.connId = some c)
      (holds : h.phase.holds = true) :
      Effect rt h w h' (w.setOwner rt.lower c h.authenticatedAddress)
  | subscribe {c : Nat} (address : Text) (same : h'.connId = h.connId) (id : h.connId = some c)
      (holds : h.phase.holds = true) :
      Effect rt h w h' (w.subscribe rt.lower c address h.websocket).2
  | unsubscribe {c : Nat} (address : Text) (same : h'.connId = h.connId)
      (id : h.connId = some c) : Effect rt h w h' (w.unsubscribe rt.lower c address)
  | disconnect {c : Nat} (same : h'.connId = h.connId) (id : h.connId = some c) :
      Effect rt h w h' (w.disconnect c)

/-- The token and the path are accepted, or the handler is about to end. -/
theorem Handler.authenticate_cases (rt : Runtime) (now : ℚ) (h : Handler WS) :
    (∃ payload, verifyToken rt now h.token = some payload ∧
        payload.item "sub".toList = some (.string (h.address rt)) ∧
        h.authenticate rt now =
          { h with phase := .connecting, authenticatedAddress := h.address rt }) ∨
      ∃ phase : Phase, (phase = .ended ∨ ∃ code reason, phase = .closing code reason) ∧
        h.authenticate rt now = { h with phase } := by
  rw [authenticate]
  split
  · exact Or.inr ⟨_, Or.inr ⟨_, _, rfl⟩, rfl⟩
  · split
    · exact Or.inr ⟨_, Or.inr ⟨_, _, rfl⟩, rfl⟩
    · rename_i payload verified
      split
      · exact Or.inr ⟨_, Or.inr ⟨_, _, rfl⟩, rfl⟩
      · split
        · rename_i authenticatedAddress sub
          split
          · exact Or.inr ⟨_, Or.inr ⟨_, _, rfl⟩, rfl⟩
          · rename_i same
            rw [not_not] at same
            rw [← same] at sub
            exact Or.inl ⟨payload, verified, sub, by rw [same]⟩
        · exact Or.inr ⟨_, Or.inr ⟨_, _, rfl⟩, rfl⟩
        · exact Or.inr ⟨_, Or.inl rfl, rfl⟩

theorem Handler.authenticate_of_verified {now : ℚ} {payload : Json} (token : h.token ≠ [])
    (verified : verifyToken rt now h.token = some payload) (truthy : payload.truthy = true)
    (sub : payload.item "sub".toList = some (.string (h.address rt))) :
    h.authenticate rt now =
      { h with phase := .connecting, authenticatedAddress := h.address rt } := by
  have present : ¬ h.token.isEmpty = true := by
    rw [List.isEmpty_iff]
    exact token
  rw [authenticate, if_neg present, verified]
  simp only [truthy, sub, Bool.not_true, Bool.false_eq_true, if_false, ne_eq, not_true_eq_false]

theorem Handler.connId_afterSubscribe (h : Handler WS) (address : Text)
    (result : Except ManagerError Unit) : (h.afterSubscribe address result).connId = h.connId := by
  rw [afterSubscribe.eq_def]
  split <;> rfl

theorem Handler.connId_afterConnect_error (h : Handler WS) (e : ManagerError) :
    (h.afterConnect (.error e)).connId = h.connId := by
  cases e <;> rfl

theorem HandlerStep.effect [DecidableEq WS] {now : ℚ} (step : HandlerStep rt now h w h' w') :
    Effect rt h w h' w' := by
  cases step with
  | authenticate phase =>
      rcases h.authenticate_cases rt now with ⟨payload, _, _, heq⟩ | ⟨phase', _, heq⟩
      · rw [heq]
        exact .quiet rfl
      · rw [heq]
        exact .quiet rfl
  | connect accepted phase =>
      rcases w.connect_cases h.websocket accepted (getClientIp h.request) with ⟨e, heq⟩ | heq
      · rw [heq]
        exact .quiet (h.connId_afterConnect_error e)
      · rw [heq]
        exact .accept phase rfl (congrArg Prod.snd heq)
  | setOwner phase id => exact .setOwner rfl id (congrArg Phase.holds phase)
  | firstSubscribe phase id => exact .subscribe _ rfl id (congrArg Phase.holds phase)
  | reject phase id => exact .disconnect rfl id
  | confirm phase => exact .quiet rfl
  | confirmRaises phase => exact .quiet rfl
  | receive data phase => exact .quiet rfl
  | receiveRaises phase => exact .quiet rfl
  | @subscribe c address phase id =>
      exact .subscribe _ (h.connId_afterSubscribe address _) id (congrArg Phase.holds phase)
  | unsubscribe phase id => exact .unsubscribe _ rfl id
  | reply phase => exact .quiet rfl
  | replyRaises phase => exact .quiet rfl
  | leaveAddress phase id subscribed => exact .unsubscribe _ rfl id
  | leave phase id done => exact .disconnect rfl id
  | close phase => exact .quiet rfl

variable [DecidableEq WS]

/-- Entries of other connections are not touched. -/
theorem Effect.untouched (effect : Effect rt h w h' w') {c : Nat} (other : h'.connId ≠ some c) :
    Untouched w w' c := by
  cases effect with
  | quiet same => exact Untouched.refl w c
  | accept phase id admitted =>
      rw [id] at other
      exact untouched_accept w _ _ fun heq => other (congrArg some heq.symm)
  | setOwner same id holds =>
      rw [same, id] at other
      exact untouched_setOwner rt.lower w _ fun heq => other (congrArg some heq.symm)
  | subscribe address same id holds =>
      rw [same, id] at other
      exact untouched_subscribe rt.lower w _ _ fun heq => other (congrArg some heq.symm)
  | unsubscribe address same id => exact untouched_unsubscribe rt.lower w _ _ c
  | disconnect same id =>
      rw [same, id] at other
      exact untouched_disconnect w fun heq => other (congrArg some heq.symm)

/-- The id of a handler is kept, or it is the next one. -/
theorem Effect.connId (effect : Effect rt h w h' w') :
    h'.connId = h.connId ∨ (h.phase = .connecting ∧ h'.connId = some w.manager.nextId) := by
  cases effect with
  | quiet same => exact Or.inl same
  | accept phase id admitted => exact Or.inr ⟨phase, id⟩
  | setOwner same id holds => exact Or.inl same
  | subscribe address same id holds => exact Or.inl same
  | unsubscribe address same id => exact Or.inl same
  | disconnect same id => exact Or.inl same

/-- The step as a step of the world. -/
theorem Effect.worldStep (effect : Effect rt h w h' w')
    (live : h.phase.holds = true →
      ∀ c, h.connId = some c → w.sockets.lookup c = some h.websocket) :
    Relation.ReflTransGen (Step rt.lower) w w' := by
  cases effect with
  | quiet same => exact Relation.ReflTransGen.refl
  | accept phase id admitted =>
      rw [← admitted]
      exact .single (.connect _ _ _)
  | setOwner same id holds =>
      exact .single (.setOwner _ (Finmap.mem_of_lookup_eq_some (live holds _ id)))
  | subscribe address same id holds => exact .single (.subscribe address (live holds _ id))
  | unsubscribe address same id => exact .single (.unsubscribe _ address)
  | disconnect same id => exact .single (.disconnect _)

end Effect

end DuckPools.Backend
