import DuckPools.Backend.IpAccounting
import DuckPools.Backend.WsTokens

/-!
# `ws_bet_subscription` of `backend/ws_routes.py`

The coroutine of one websocket as a machine: a phase for each place at which it waits, with
the local variables that are read later. A step runs from one such place to the next, and
a websocket operation either returns or raises. The background task that sends pings is
left out: it touches none of the tables and its exceptions end only itself.

A system is the world of the connection manager with any number of handlers, the tokens
that were issued and the clock. Handlers, token requests and broadcasts interleave.
-/

namespace DuckPools.Backend

/-- Where a handler waits. -/
inductive Phase
  | starting
  | connecting
  /-- It has a connection id, and no owner yet. -/
  | connected
  | owned
  /-- The first subscription was refused. -/
  | rejected (message : Text)
  | confirming (message : Json)
  | listening
  | subscribing (address : Text)
  | unsubscribing (address : Text)
  | replying (message : Json)
  /-- `finally` -/
  | leaving
  | closing (code : Nat) (reason : Text)
  | ended

structure Handler (WS : Type) where
  websocket : WS
  /-- The path parameter. -/
  path : Text
  token : Text
  request : ClientRequest
  phase : Phase
  authenticatedAddress : Text
  connId : Option Nat
  subscribedAddresses : Finset Text
  /-- The confirmation could not be sent. -/
  confirmationRaised : Bool

namespace Handler

variable {WS : Type}

/-- A websocket at the endpoint. -/
def initial (websocket : WS) (path token : Text) (request : ClientRequest) : Handler WS where
  websocket
  path
  token
  request
  phase := .starting
  authenticatedAddress := []
  connId := none
  subscribedAddresses := ∅
  confirmationRaised := false

/-- `address.strip().lower()` -/
def address (rt : Runtime) (h : Handler WS) : Text := rt.lower (Py.strip h.path)

def mismatchReason (tokenAddress address : Text) : Text :=
  "Token address mismatch. Token is for ".toList ++ tokenAddress ++
    "..., but path specifies ".toList ++ address.take 10 ++ "...".toList

/-- From the beginning to `connect`: the token and the path. -/
def authenticate (rt : Runtime) (now : ℚ) (h : Handler WS) : Handler WS :=
  if h.token.isEmpty then
    { h with
      phase := .closing 4001 "Missing auth token. POST /ws/auth to obtain one.".toList }
  else
    match verifyToken rt now h.token with
    | none => { h with phase := .closing 4003 "Invalid or expired auth token.".toList }
    | some payload =>
        if !payload.truthy then
          { h with phase := .closing 4003 "Invalid or expired auth token.".toList }
        else
          match payload.item "sub".toList with
          | some (.string authenticatedAddress) =>
              if h.address rt ≠ authenticatedAddress then
                { h with
                  phase := .closing 4003
                    (mismatchReason (authenticatedAddress.take 10) (h.address rt)) }
              else { h with phase := .connecting, authenticatedAddress }
          | some (.array items) =>
              { h with
                phase := .closing 4003
                  (mismatchReason (rt.str (.array (items.take 10))) (h.address rt)) }
          -- A missing subject, or one that has no slices, raises.
          | _ => { h with phase := .ended }

/-- After `connect`; an exception of `accept` is not caught. -/
def afterConnect (h : Handler WS) : Except ManagerError Nat → Handler WS
  | .ok connId => { h with phase := .connected, connId := some connId }
  | .error (.ConnectionLimitExceeded message) => { h with phase := .closing 4029 message }
  | .error _ => { h with phase := .ended }

/-- `address[-6:]` -/
def lastSix (address : Text) : Text := address.drop (address.length - 6)

def confirmation (address : Text) (connId : Nat) : Json :=
  .object [("type".toList, .string "subscribed".toList), ("address".toList, .string address),
    ("conn_id".toList, .number connId),
    ("message".toList, .string ("Authenticated and subscribed to bet events for ".toList ++
      address.take 10 ++ "...".toList ++ lastSix address))]

/-- After the first `subscribe`. -/
def afterFirstSubscribe (rt : Runtime) (h : Handler WS) (connId : Nat)
    (result : Except ManagerError Unit) : Handler WS :=
  { h with
    phase :=
      match result with
      | .ok _ => .confirming (confirmation (h.address rt) connId)
      | .error (.ConnectionLimitExceeded message) => .rejected message
      | .error _ => .ended }

def errorMessage (message : Text) : Json :=
  .object [("type".toList, .string "error".toList), ("message".toList, .string message)]

/-- The branches on `action`, up to the next place where the handler waits. -/
def act (rt : Runtime) (h : Handler WS) (msg : Json) : Json → Phase
  | .string action =>
      if action = "subscribe".toList then
        match msg.get "address".toList (.string []) with
        | some (.string address) =>
            let newAddr := rt.lower (Py.strip address)
            if newAddr.isEmpty ∨ newAddr.length < 20 then
              .replying (errorMessage "Invalid address for subscription".toList)
            else if newAddr ≠ h.authenticatedAddress then
              .replying (errorMessage ("Cannot subscribe to other addresses. ".toList ++
                "This connection is locked to ".toList ++ h.authenticatedAddress.take 10 ++
                "...".toList))
            else .subscribing newAddr
        | _ => .leaving
      else if action = "unsubscribe".toList then
        match msg.get "address".toList (.string []) with
        | some oldAddr =>
            if oldAddr.truthy then
              match oldAddr with
              | .string address => .unsubscribing address
              | _ => .leaving
            else .listening
        | none => .leaving
      else if action = "ping".toList then
        .replying (.object [("type".toList, .string "pong".toList)])
      else .replying (errorMessage ("Unknown action: ".toList ++ action))
  | action => .replying (errorMessage ("Unknown action: ".toList ++ rt.str action))

/-- One text from the client. Exceptions other than that of malformed JSON end the loop. -/
def handleMessage (rt : Runtime) (h : Handler WS) (data : Text) : Phase :=
  match rt.loads data with
  | .error .JSONDecodeError => .replying (errorMessage "Invalid JSON".toList)
  | .error .other => .leaving
  | .ok msg =>
      match msg.get "action".toList (.string []) with
      | some action => h.act rt msg action
      | none => .leaving

/-- After a `subscribe` that the client asked for. -/
def afterSubscribe (h : Handler WS) (address : Text) : Except ManagerError Unit → Handler WS
  | .ok _ =>
      { h with
        subscribedAddresses := insert address h.subscribedAddresses
        phase := .replying (.object [("type".toList, .string "subscribed".toList),
          ("address".toList, .string address),
          ("message".toList, .string ("Subscribed to ".toList ++ address.take 10 ++
            "...".toList ++ lastSix address))]) }
  | .error (.ConnectionLimitExceeded message) =>
      { h with phase := .replying (errorMessage message) }
  | .error _ => { h with phase := .leaving }

def afterUnsubscribe (h : Handler WS) (address : Text) : Handler WS :=
  { h with
    subscribedAddresses := h.subscribedAddresses.erase address
    phase := .replying (.object [("type".toList, .string "unsubscribed".toList),
      ("address".toList, .string address)]) }

end Handler

section Systems

variable {WS Event : Type} [DecidableEq WS]

/-- One step of a handler, with what it does to the world. -/
inductive HandlerStep (rt : Runtime) (now : ℚ) :
    Handler WS → World WS Event → Handler WS → World WS Event → Prop
  | authenticate {h : Handler WS} {w : World WS Event} (phase : h.phase = .starting) :
      HandlerStep rt now h w (h.authenticate rt now) w
  | connect {h : Handler WS} {w : World WS Event} (accepted : Bool)
      (phase : h.phase = .connecting) :
      HandlerStep rt now h w
        (h.afterConnect (w.connect h.websocket accepted (getClientIp h.request)).1)
        (w.connect h.websocket accepted (getClientIp h.request)).2
  | setOwner {h : Handler WS} {w : World WS Event} {c : Nat} (phase : h.phase = .connected)
      (id : h.connId = some c) :
      HandlerStep rt now h w { h with phase := .owned }
        (w.setOwner rt.lower c h.authenticatedAddress)
  | firstSubscribe {h : Handler WS} {w : World WS Event} {c : Nat} (phase : h.phase = .owned)
      (id : h.connId = some c) :
      HandlerStep rt now h w
        (h.afterFirstSubscribe rt c (w.subscribe rt.lower c (h.address rt) h.websocket).1)
        (w.subscribe rt.lower c (h.address rt) h.websocket).2
  | reject {h : Handler WS} {w : World WS Event} {c : Nat} {message : Text}
      (phase : h.phase = .rejected message) (id : h.connId = some c) :
      HandlerStep rt now h w { h with phase := .closing 4029 message } (w.disconnect c)
  | confirm {h : Handler WS} {w : World WS Event} {message : Json}
      (phase : h.phase = .confirming message) :
      HandlerStep rt now h w
        { h with phase := .listening, subscribedAddresses := {h.address rt} } w
  | confirmRaises {h : Handler WS} {w : World WS Event} {message : Json}
      (phase : h.phase = .confirming message) :
      HandlerStep rt now h w { h with phase := .ended, confirmationRaised := true } w
  | receive {h : Handler WS} {w : World WS Event} (data : Text) (phase : h.phase = .listening) :
      HandlerStep rt now h w { h with phase := h.handleMessage rt data } w
  | receiveRaises {h : Handler WS} {w : World WS Event} (phase : h.phase = .listening) :
      HandlerStep rt now h w { h with phase := .leaving } w
  | subscribe {h : Handler WS} {w : World WS Event} {c : Nat} {address : Text}
      (phase : h.phase = .subscribing address) (id : h.connId = some c) :
      HandlerStep rt now h w
        (h.afterSubscribe address (w.subscribe rt.lower c address h.websocket).1)
        (w.subscribe rt.lower c address h.websocket).2
  | unsubscribe {h : Handler WS} {w : World WS Event} {c : Nat} {address : Text}
      (phase : h.phase = .unsubscribing address) (id : h.connId = some c) :
      HandlerStep rt now h w (h.afterUnsubscribe address) (w.unsubscribe rt.lower c address)
  | reply {h : Handler WS} {w : World WS Event} {message : Json}
      (phase : h.phase = .replying message) :
      HandlerStep rt now h w { h with phase := .listening } w
  | replyRaises {h : Handler WS} {w : World WS Event} {message : Json}
      (phase : h.phase = .replying message) :
      HandlerStep rt now h w { h with phase := .leaving } w
  | leaveAddress {h : Handler WS} {w : World WS Event} {c : Nat} {address : Text}
      (phase : h.phase = .leaving) (id : h.connId = some c)
      (subscribed : address ∈ h.subscribedAddresses) :
      HandlerStep rt now h w
        { h with subscribedAddresses := h.subscribedAddresses.erase address }
        (w.unsubscribe rt.lower c address)
  | leave {h : Handler WS} {w : World WS Event} {c : Nat} (phase : h.phase = .leaving)
      (id : h.connId = some c) (done : h.subscribedAddresses = ∅) :
      HandlerStep rt now h w { h with phase := .ended } (w.disconnect c)
  /-- `close` returns or raises. -/
  | close {h : Handler WS} {w : World WS Event} {code : Nat} {reason : Text}
      (phase : h.phase = .closing code reason) :
      HandlerStep rt now h w { h with phase := .ended } w

structure System (WS Event : Type) where
  world : World WS Event
  handlers : Dict Nat (Handler WS)
  /-- The tokens of `ws_authenticate`, each with the address it was asked for. -/
  tokens : List (Text × Text)
  now : ℚ

def System.initial : System WS Event where
  world := .initial
  handlers := ∅
  tokens := []
  now := 0

inductive SystemStep (rt : Runtime) : System WS Event → System WS Event → Prop
  | time {s : System WS Event} (now : ℚ) : SystemStep rt s { s with now }
  | authenticate {s : System WS Event} {later : ℚ} {body : WSAuthRequest}
      {response : WSAuthResponse}
      (issued : wsAuthenticate rt s.now later body = .ok response) :
      SystemStep rt s
        { s with tokens := s.tokens ++ [(response.token, Py.strip body.address)] }
  | open {s : System WS Event} {i : Nat} (websocket : WS) (path token : Text)
      (request : ClientRequest) (unused : i ∉ s.handlers) :
      SystemStep rt s
        { s with handlers := s.handlers.insert i (.initial websocket path token request) }
  | handler {s : System WS Event} {i : Nat} {h h' : Handler WS} {w : World WS Event}
      (running : s.handlers.lookup i = some h) (step : HandlerStep rt s.now h s.world h' w) :
      SystemStep rt s { s with world := w, handlers := s.handlers.insert i h' }
  | broadcast {s : System WS Event} {w : World WS Event}
      (step : BroadcastStep rt.lower s.world w) : SystemStep rt s { s with world := w }

def SystemReachable (rt : Runtime) (s : System WS Event) : Prop :=
  Relation.ReflTransGen (SystemStep rt) .initial s

end Systems

end DuckPools.Backend
