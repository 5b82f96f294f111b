import DuckPools.Codec.Hex
import DuckPools.Language.PythonText
import DuckPools.Language.SetTable

/-!
# `backend/ws_manager.py`

The tables of `ConnectionManager` and its operations. What runs under the lock is one
function from the tables to the result and the tables, also when it raises: Python has
then kept the changes made before. A websocket is a value of any type; that it is
accepted, or that a message reaches it, is decided outside. `lower` is `str.lower`.

A broadcast is three steps: the snapshot of its receivers under the lock, the sends, one
by one and without the lock, and the clean-up of the receivers whose send raised, under
the lock again.
-/

namespace DuckPools.Backend

def MAX_CONNECTIONS_GLOBAL : Nat := 200
def MAX_CONNECTIONS_PER_IP : Nat := 5
def MAX_SUBS_PER_ADDRESS : Nat := 10
def MAX_ADDRESSES_PER_CONN : Nat := 5

inductive ManagerError
  | ConnectionLimitExceeded (message : Text)
  /-- `websocket.accept()` raised. -/
  | notAccepted
  | KeyError (connId : Nat)

structure ConnectionManager (WS : Type) where
  /-- address to set of (websocket, connection id) -/
  subscriptions : SetTable Text (WS × Nat)
  connAddresses : SetTable Nat Text
  connIps : Dict Nat Text
  ipConnections : SetTable Text Nat
  connOwner : Dict Nat Text
  nextId : Nat

namespace ConnectionManager

variable {WS : Type}

/-- `__init__` -/
def initial : ConnectionManager WS where
  subscriptions := ∅
  connAddresses := ∅
  connIps := ∅
  ipConnections := ∅
  connOwner := ∅
  nextId := 0

/-- `accepted` tells whether `websocket.accept()` returns. -/
def connect (m : ConnectionManager WS) (accepted : Bool) (clientIp : Text) :
    Except ManagerError Nat × ConnectionManager WS :=
  if m.connAddresses.keys.card ≥ MAX_CONNECTIONS_GLOBAL then
    (.error (.ConnectionLimitExceeded ("Global connection limit reached (".toList ++
      Py.str MAX_CONNECTIONS_GLOBAL ++ ")".toList)), m)
  else if (m.ipConnections.get clientIp).card ≥ MAX_CONNECTIONS_PER_IP then
    (.error (.ConnectionLimitExceeded ("Per-IP connection limit reached (".toList ++
      Py.str MAX_CONNECTIONS_PER_IP ++ ") for ".toList ++ clientIp)), m)
  else if !accepted then (.error .notAccepted, m)
  else
    let connId := m.nextId
    (.ok connId,
      { m with
        nextId := m.nextId + 1
        connAddresses := m.connAddresses.insert connId ∅
        connIps := m.connIps.insert connId clientIp
        ipConnections := m.ipConnections.modify clientIp (insert connId) })

/-- `set_owner` -/
def setOwner (lower : Text → Text) (m : ConnectionManager WS) (connId : Nat) (address : Text) :
    ConnectionManager WS :=
  { m with connOwner := m.connOwner.insert connId (lower address) }

/-- `get_owner` -/
def getOwner (m : ConnectionManager WS) (connId : Nat) : Option Text := m.connOwner.lookup connId

variable [DecidableEq WS]

/-- A connection id without addresses raises after the pair has been added. -/
def subscribe (lower : Text → Text) (m : ConnectionManager WS) (connId : Nat) (address : Text)
    (websocket : WS) : Except ManagerError Unit × ConnectionManager WS :=
  let address := lower address
  if (m.subscriptions.get address).card ≥ MAX_SUBS_PER_ADDRESS then
    (.error (.ConnectionLimitExceeded ("Per-address subscription limit reached (".toList ++
      Py.str MAX_SUBS_PER_ADDRESS ++ ") for ".toList ++ address)), m)
  else
    let subscriptions := m.subscriptions.modify address (insert (websocket, connId))
    match m.connAddresses.lookup connId with
    | none => (.error (.KeyError connId), { m with subscriptions })
    | some addresses =>
        if addresses.card ≥ MAX_ADDRESSES_PER_CONN then
          (.error (.ConnectionLimitExceeded ("Per-connection address limit reached (".toList ++
            Py.str MAX_ADDRESSES_PER_CONN ++ ")".toList)), m)
        else
          (.ok (),
            { m with
              subscriptions
              connAddresses := m.connAddresses.insert connId (insert address addresses) })

def unsubscribe (lower : Text → Text) (m : ConnectionManager WS) (connId : Nat)
    (address : Text) : ConnectionManager WS :=
  let address := lower address
  { m with
    subscriptions := m.subscriptions.remove (fun p => p.2 = connId) address
    connAddresses := m.connAddresses.adjust connId fun addresses => addresses.erase address }

def disconnect (m : ConnectionManager WS) (connId : Nat) : ConnectionManager WS :=
  let ipConnections :=
    match m.connIps.lookup connId with
    | none => m.ipConnections
    -- `if client_ip:` is false for the empty text as well.
    | some clientIp =>
        if clientIp.isEmpty then m.ipConnections
        else m.ipConnections.remove (fun c => c = connId) clientIp
  let addresses := m.connAddresses.get connId
  { m with
    connIps := m.connIps.erase connId
    ipConnections
    connOwner := m.connOwner.erase connId
    connAddresses := m.connAddresses.erase connId
    subscriptions := m.subscriptions.removeAll (fun p => p.2 = connId) addresses }

/-- One round of the clean-up loop of `broadcast_to_address`. -/
def discard (m : ConnectionManager WS) (address : Text) (dead : WS × Nat) :
    ConnectionManager WS :=
  { m with
    subscriptions := m.subscriptions.modify address fun subscribers => subscribers.erase dead
    connAddresses := m.connAddresses.adjust dead.2 fun addresses => addresses.erase address }

/-- The clean-up of `broadcast_to_address`, at an address in lower case. -/
def cleanUpAddress (m : ConnectionManager WS) (address : Text) (dead : List (WS × Nat)) :
    ConnectionManager WS :=
  let m := dead.foldl (fun m pair => m.discard address pair) m
  { m with subscriptions := m.subscriptions.prune address }

/-- One round of the clean-up loop of `broadcast_global`: the pair goes from all addresses,
and each of these addresses from its connection. -/
def discardEverywhere (m : ConnectionManager WS) (dead : WS × Nat) : ConnectionManager WS :=
  { m with
    subscriptions := m.subscriptions.removeAll (fun p => p = dead) m.subscriptions.keys
    connAddresses :=
      m.connAddresses.adjust dead.2 fun addresses => addresses \ m.subscriptions.keys }

def cleanUpGlobal (m : ConnectionManager WS) (dead : List (WS × Nat)) : ConnectionManager WS :=
  dead.foldl discardEverywhere m

end ConnectionManager
end DuckPools.Backend
