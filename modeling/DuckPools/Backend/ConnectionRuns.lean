import DuckPools.Backend.ConnectionManager
import Mathlib.Data.Finset.Dedup
import Mathlib.Logic.Relation

/-!
# Runs of the connection manager

A world is the manager with what goes on around it: the websockets of the connections
between their `connect` and their `disconnect`, the ids that were ever issued with the
address of their client, the broadcasts under way and the messages that arrived. A step is
one section under the lock, or one send, which succeeds or raises. Steps of different
tasks interleave in any order, so a receiver may have unsubscribed, subscribed again or
disconnected between the snapshot of a broadcast and its clean-up.
-/

namespace DuckPools.Backend

/-- A broadcast under way; its target is missing if it goes to everyone. -/
structure Broadcast (WS Event : Type) where
  target : Option Text
  event : Event
  pending : Finset (WS × Nat)
  sent : Nat
  dead : List (WS × Nat)

structure World (WS Event : Type) where
  manager : ConnectionManager WS
  sockets : Dict Nat WS
  issued : List (Nat × Text)
  broadcasts : Dict Nat (Broadcast WS Event)
  received : List (Nat × Option Text × Event)

namespace World

variable {WS Event : Type}

def initial : World WS Event where
  manager := .initial
  sockets := ∅
  issued := []
  broadcasts := ∅
  received := []

def connect (w : World WS Event) (ws : WS) (accepted : Bool) (clientIp : Text) :
    Except ManagerError Nat × World WS Event :=
  match w.manager.connect accepted clientIp with
  | (.ok c, manager) =>
      (.ok c,
        { w with
          manager
          sockets := w.sockets.insert c ws
          issued := w.issued ++ [(c, clientIp)] })
  | (.error e, manager) => (.error e, { w with manager })

def setOwner (lower : Text → Text) (w : World WS Event) (c : Nat) (address : Text) :
    World WS Event :=
  { w with manager := w.manager.setOwner lower c address }

variable [DecidableEq WS]

def subscribe (lower : Text → Text) (w : World WS Event) (c : Nat) (address : Text) (ws : WS) :
    Except ManagerError Unit × World WS Event :=
  let (result, manager) := w.manager.subscribe lower c address ws
  (result, { w with manager })

def unsubscribe (lower : Text → Text) (w : World WS Event) (c : Nat) (address : Text) :
    World WS Event :=
  { w with manager := w.manager.unsubscribe lower c address }

def disconnect (w : World WS Event) (c : Nat) : World WS Event :=
  { w with manager := w.manager.disconnect c, sockets := w.sockets.erase c }

end World

section Broadcasts

variable {WS Event : Type} [DecidableEq WS]

/-- The receivers that a broadcast may find. For everyone, each connection id that occurs
is taken once. -/
def Snapshot (lower : Text → Text) (m : ConnectionManager WS) :
    Option Text → Finset (WS × Nat) → Prop
  | some address, receivers => receivers = m.subscriptions.get (lower address)
  | none, receivers =>
      (∀ p ∈ receivers, ∃ a, p ∈ m.subscriptions.get a) ∧
        (∀ a, ∀ p ∈ m.subscriptions.get a, ∃ q ∈ receivers, q.2 = p.2) ∧
        ∀ p ∈ receivers, ∀ q ∈ receivers, p.2 = q.2 → p = q

/-- `await ws.send_json(event)` returns. -/
def Broadcast.delivered (b : Broadcast WS Event) (p : WS × Nat) : Broadcast WS Event :=
  { b with pending := b.pending.erase p, sent := b.sent + 1 }

/-- `await ws.send_json(event)` raises. -/
def Broadcast.failed (b : Broadcast WS Event) (p : WS × Nat) : Broadcast WS Event :=
  { b with pending := b.pending.erase p, dead := b.dead ++ [p] }

/-- `if dead:`, the clean-up. -/
def Broadcast.cleanUp (lower : Text → Text) (b : Broadcast WS Event)
    (m : ConnectionManager WS) : ConnectionManager WS :=
  if b.dead.isEmpty then m
  else
    match b.target with
    | some address => m.cleanUpAddress (lower address) b.dead
    | none => m.cleanUpGlobal b.dead

/-- One step of a broadcast. -/
inductive BroadcastStep (lower : Text → Text) : World WS Event → World WS Event → Prop
  | start {w : World WS Event} {i : Nat} {target : Option Text} {receivers : Finset (WS × Nat)}
      (event : Event) (unused : i ∉ w.broadcasts)
      (snapshot : Snapshot lower w.manager target receivers) :
      BroadcastStep lower w
        { w with broadcasts := w.broadcasts.insert i ⟨target, event, receivers, 0, []⟩ }
  | send {w : World WS Event} {i : Nat} {b : Broadcast WS Event} {p : WS × Nat}
      (running : w.broadcasts.lookup i = some b) (waits : p ∈ b.pending) :
      BroadcastStep lower w
        { w with
          broadcasts := w.broadcasts.insert i (b.delivered p)
          received := w.received ++ [(p.2, b.target, b.event)] }
  | sendRaises {w : World WS Event} {i : Nat} {b : Broadcast WS Event} {p : WS × Nat}
      (running : w.broadcasts.lookup i = some b) (waits : p ∈ b.pending) :
      BroadcastStep lower w { w with broadcasts := w.broadcasts.insert i (b.failed p) }
  | finish {w : World WS Event} {i : Nat} {b : Broadcast WS Event}
      (running : w.broadcasts.lookup i = some b) (done : b.pending = ∅) :
      BroadcastStep lower w
        { w with
          manager := b.cleanUp lower w.manager
          broadcasts := w.broadcasts.erase i }

/-- One step of one of the tasks. -/
inductive Step (lower : Text → Text) : World WS Event → World WS Event → Prop
  | connect {w : World WS Event} (ws : WS) (accepted : Bool) (clientIp : Text) :
      Step lower w (w.connect ws accepted clientIp).2
  | setOwner {w : World WS Event} {c : Nat} (address : Text) (live : c ∈ w.sockets) :
      Step lower w (w.setOwner lower c address)
  | subscribe {w : World WS Event} {c : Nat} {ws : WS} (address : Text)
      (own : w.sockets.lookup c = some ws) : Step lower w (w.subscribe lower c address ws).2
  | unsubscribe {w : World WS Event} (c : Nat) (address : Text) :
      Step lower w (w.unsubscribe lower c address)
  | disconnect {w : World WS Event} (c : Nat) : Step lower w (w.disconnect c)
  | broadcast {w w' : World WS Event} (h : BroadcastStep lower w w') : Step lower w w'

def Reachable (lower : Text → Text) (w : World WS Event) : Prop :=
  Relation.ReflTransGen (Step lower) World.initial w

end Broadcasts

end DuckPools.Backend
