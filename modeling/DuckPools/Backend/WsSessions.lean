import DuckPools.Backend.WsHandlers

/-!
# A session that succeeds

Whoever asks for a token for an acceptable address and comes back with it before it expires
is connected and subscribed, whatever the libraries do, as long as a secret is set.
`Attained` is what the rest of the development needs of such a run: the world, and the
handler that got there.
-/

namespace DuckPools.Backend

variable {WS Event : Type} [DecidableEq WS] {rt : Runtime}

/-- What `ws_authenticate` accepts, apart from white space around it. -/
structure Acceptable (address : Text) : Prop where
  stripped : Py.strip address = address
  long : 20 ≤ address.length
  prefixed : ['3'] <+: address ∨ ['9'] <+: address

/-- `ws_authenticate` accepts exactly these addresses, with any signature that is not empty. -/
theorem wsAuthenticate_isOk_iff (rt : Runtime) (now later : ℚ) (body : WSAuthRequest) :
    (∃ response, wsAuthenticate rt now later body = .ok response) ↔
      Acceptable (Py.strip body.address) ∧ body.signature ≠ [] := by
  rw [wsAuthenticate]
  dsimp only
  split
  · rename_i invalid
    constructor
    · rintro ⟨response, ⟨⟩⟩
    · rintro ⟨acceptable, -⟩
      obtain short | other := invalid
      · exact absurd acceptable.long (Nat.not_le.mpr short)
      · exact absurd acceptable.prefixed other
  · rename_i valid
    rw [not_or, not_lt, not_not] at valid
    split
    · rename_i unsigned
      constructor
      · rintro ⟨response, ⟨⟩⟩
      · rintro ⟨-, signed⟩
        exact absurd (List.isEmpty_iff.mp unsigned) signed
    · rename_i signed
      rw [List.isEmpty_iff] at signed
      exact iff_of_true ⟨_, rfl⟩ ⟨⟨Py.strip_strip _, valid.1, valid.2⟩, signed⟩

/-- A reachable system has this world, and this handler as its first. -/
def Attained (rt : Runtime) (tokens : List (Text × Text)) (now : ℚ) (w : World WS Event)
    (h : Handler WS) : Prop :=
  ∃ s : System WS Event, SystemReachable rt s ∧ s.handlers.lookup 0 = some h ∧ s.world = w ∧
    s.tokens = tokens ∧ s.now = now

variable {tokens : List (Text × Text)} {now : ℚ} {w w' : World WS Event} {h h' : Handler WS}

theorem Attained.step (attained : Attained rt tokens now w h)
    (step : HandlerStep rt now h w h' w') : Attained rt tokens now w' h' := by
  obtain ⟨s, reached, found, rfl, rfl, rfl⟩ := attained
  exact ⟨_, reached.tail (.handler found step), Finmap.lookup_insert _, rfl, rfl, rfl⟩

theorem Attained.broadcast (attained : Attained rt tokens now w h)
    (step : BroadcastStep rt.lower w w') : Attained rt tokens now w' h := by
  obtain ⟨s, reached, found, rfl, rfl, rfl⟩ := attained
  exact ⟨_, reached.tail (.broadcast step), found, rfl, rfl, rfl⟩

/-- When a token expires that is issued at a time. -/
def sessionExpiry (rt : Runtime) (now : ℚ) : Int := truncate now + rt.WS_TOKEN_MAX_AGE

/-- The token of an address at a time. -/
def sessionToken (rt : Runtime) (now : ℚ) (address : Text) : Text :=
  signToken rt (tokenPayload (rt.lower address) (truncate now) (sessionExpiry rt now))

/-- The handler of a session before it waits for messages. -/
def sessionHandler (rt : Runtime) (now : ℚ) (ws : WS) (address : Text) (request : ClientRequest)
    (phase : Phase) (connId : Option Nat) : Handler WS where
  websocket := ws
  path := address
  token := sessionToken rt now address
  request
  phase
  authenticatedAddress := rt.lower address
  connId
  subscribedAddresses := ∅
  confirmationRaised := false

/-- The world in which the connection 0 is subscribed to an address. -/
def sessionWorld (rt : Runtime) (ws : WS) (address : Text) (request : ClientRequest) :
    World WS Event :=
  (((World.initial.accept ws (getClientIp request)).setOwner rt.lower 0
    (rt.lower address)).subscribe rt.lower 0 (rt.lower address) ws).2

variable {address : Text} {request : ClientRequest} {ws : WS}

theorem wsAuthenticate_session (acceptable : Acceptable address) (rt : Runtime) (now : ℚ) :
    wsAuthenticate rt now now ⟨address, ['s']⟩ =
      .ok ⟨sessionToken rt now address, sessionExpiry rt now⟩ := by
  have valid : ¬ (address.length < 20 ∨ ¬ (['3'] <+: address ∨ ['9'] <+: address)) := by
    rintro (short | other)
    · exact Nat.not_lt.mpr acceptable.long short
    · exact other acceptable.prefixed
  rw [wsAuthenticate, acceptable.stripped]
  dsimp only
  rw [if_neg valid]
  rfl

/-- At the last moment the token is still accepted. -/
theorem verifyToken_session (lawful : rt.Lawful) (secret : rt.WS_TOKEN_SECRET ≠ []) (now : ℚ)
    (address : Text) :
    verifyToken rt (sessionExpiry rt now) (sessionToken rt now address) =
      some (tokenPayload (rt.lower address) (truncate now) (sessionExpiry rt now)) := by
  have present : ¬ rt.WS_TOKEN_SECRET.isEmpty = true := by
    rw [List.isEmpty_iff]
    exact secret
  rw [sessionToken, verifyToken_signToken, if_neg present, lawful.loads_dumps, Option.bind_some,
    checkExpiry_tokenPayload le_rfl]

omit [DecidableEq WS] in
theorem authenticate_session (lawful : rt.Lawful) (secret : rt.WS_TOKEN_SECRET ≠ [])
    (acceptable : Acceptable address) :
    (Handler.initial ws address (sessionToken rt now address) request).authenticate rt
        (sessionExpiry rt now) =
      sessionHandler rt now ws address request .connecting none := by
  have token : sessionToken rt now address ≠ [] := by
    rw [sessionToken, signToken_eq]
    exact List.append_ne_nil_of_right_ne_nil _ (List.cons_ne_nil _ _)
  have path : (Handler.initial ws address (sessionToken rt now address) request).address rt =
      rt.lower address := by
    rw [Handler.address, Handler.initial, acceptable.stripped]
  have verified := verifyToken_session lawful secret now address
  rw [Handler.authenticate_of_verified token verified rfl (by rw [path]; rfl), path]
  rfl

/-- The token is issued and the websocket is opened with it. -/
theorem attained_initial (acceptable : Acceptable address) (rt : Runtime) (now : ℚ) :
    Attained rt [(sessionToken rt now address, address)] (sessionExpiry rt now)
      (World.initial : World WS Event)
      (.initial ws address (sessionToken rt now address) request) := by
  have timed : SystemReachable rt ({ System.initial with now } : System WS Event) :=
    .single (.time now)
  have issued := timed.tail (.authenticate (wsAuthenticate_session acceptable rt now))
  rw [acceptable.stripped] at issued
  have waited := issued.tail (.time (sessionExpiry rt now : ℚ))
  have unused : 0 ∉ (∅ : Dict Nat (Handler WS)) := Finmap.notMem_empty
  exact ⟨_, waited.tail (.open ws address (sessionToken rt now address) request unused),
    Finmap.lookup_insert _, rfl, rfl, rfl⟩

/-- The session is subscribed, and its confirmation is about to be sent. -/
theorem session_attained (lawful : rt.Lawful) (secret : rt.WS_TOKEN_SECRET ≠ [])
    (acceptable : Acceptable address) (now : ℚ) (ws : WS) (request : ClientRequest) :
    Attained rt [(sessionToken rt now address, address)] (sessionExpiry rt now)
      (sessionWorld rt ws address request : World WS Event)
      (sessionHandler rt now ws address request
        (.confirming (Handler.confirmation (rt.lower address) 0)) (some 0)) := by
  have path : ∀ phase connId,
      (sessionHandler rt now ws address request phase connId).address rt = rt.lower address := by
    intro phase connId
    rw [Handler.address, sessionHandler, acceptable.stripped]
  have authenticated : Attained rt [(sessionToken rt now address, address)] (sessionExpiry rt now)
      (World.initial : World WS Event)
      (sessionHandler rt now ws address request .connecting none) := by
    rw [← authenticate_session lawful secret acceptable]
    exact (attained_initial acceptable rt now).step (.authenticate rfl)
  have connected : Attained rt [(sessionToken rt now address, address)] (sessionExpiry rt now)
      ((World.initial : World WS Event).accept ws (getClientIp request))
      (sessionHandler rt now ws address request .connected (some 0)) :=
    authenticated.step (.connect true rfl)
  have owned : Attained rt [(sessionToken rt now address, address)] (sessionExpiry rt now)
      (((World.initial : World WS Event).accept ws (getClientIp request)).setOwner rt.lower 0
        (rt.lower address)) (sessionHandler rt now ws address request .owned (some 0)) :=
    connected.step (.setOwner rfl rfl)
  have subscribed := owned.step (.firstSubscribe rfl rfl)
  rw [path, Handler.afterFirstSubscribe.eq_def, path] at subscribed
  exact subscribed

end DuckPools.Backend
