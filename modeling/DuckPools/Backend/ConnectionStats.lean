import DuckPools.Backend.IpAccounting

/-!
# The statistics of the connection manager: `get_stats` of `backend/ws_manager.py`

The numbers are sizes of the tables. Subscriptions are counted by address; a double count of
the two tables gives the addresses of the open connections. Among the client addresses is the
empty one from the moment that a client without an address has come, even after it has gone.
-/

namespace DuckPools.Backend

structure Limits where
  max_connections_global : Nat := MAX_CONNECTIONS_GLOBAL
  max_connections_per_ip : Nat := MAX_CONNECTIONS_PER_IP
  max_subs_per_address : Nat := MAX_SUBS_PER_ADDRESS
  max_addresses_per_conn : Nat := MAX_ADDRESSES_PER_CONN

structure Stats where
  active_connections : Nat
  subscriptions_count : Nat
  tracked_addresses : Nat
  limits : Limits
  unique_ips : Nat

variable {WS Event : Type}

def ConnectionManager.getStats (m : ConnectionManager WS) : Stats where
  active_connections := m.connAddresses.keys.card
  subscriptions_count := m.subscriptions.total
  tracked_addresses := m.subscriptions.keys.card
  limits := {}
  unique_ips := m.ipConnections.keys.card

variable {w : World WS Event}

/-- The addresses of the clients whose connections are open. -/
def World.openIps (w : World WS Event) : Finset Text :=
  ((w.issued.filter fun issued => issued.1 ∈ w.sockets).map Prod.snd).toFinset

/-- The addresses that stay on file: also the empty one, once a client has come with it. -/
def World.filedIps (w : World WS Event) : Finset Text :=
  w.openIps ∪ (w.issued.map Prod.snd).toFinset ∩ {[]}

/-- What the numbers say of the connections that are open. -/
structure StatsOf (w : World WS Event) (stats : Stats) : Prop where
  connections : stats.active_connections = w.sockets.keys.card
  subscriptions : stats.subscriptions_count =
    ∑ c ∈ w.sockets.keys, (w.manager.connAddresses.get c).card
  bound : stats.subscriptions_count ≤
    stats.limits.max_connections_global * stats.limits.max_addresses_per_conn
  tracked : stats.tracked_addresses ≤ stats.subscriptions_count
  crowd : stats.subscriptions_count ≤
    stats.tracked_addresses * stats.limits.max_subs_per_address
  ips : stats.unique_ips = w.filedIps.card

theorem mem_openIps {ip : Text} : ip ∈ w.openIps ↔ ∃ c ∈ w.sockets, (c, ip) ∈ w.issued := by
  simp only [World.openIps, List.mem_toFinset, List.mem_map, List.mem_filter, decide_eq_true_eq]
  constructor
  · rintro ⟨⟨c, ip⟩, ⟨issued, live⟩, rfl⟩
    exact ⟨c, live, issued⟩
  · rintro ⟨c, live, issued⟩
    exact ⟨(c, ip), ⟨issued, live⟩, rfl⟩

/-- A client address is on file if one of its connections is open, or if it is empty. -/
theorem IpAccounted.keys_eq (h : IpAccounted w) : w.manager.ipConnections.keys = w.filedIps := by
  ext ip
  rw [Finmap.mem_keys, h.noEmpty.mem_iff]
  have filed : (w.manager.ipConnections.get ip).Nonempty ↔
      ∃ c, (c, ip) ∈ w.issued ∧ (c ∈ w.sockets ∨ ip = []) :=
    exists_congr fun c => h.sets c ip
  have openly : ip ∈ w.openIps ↔ ∃ c, (c, ip) ∈ w.issued ∧ c ∈ w.sockets := by
    rw [mem_openIps]
    exact exists_congr fun c => and_comm
  have came : ip ∈ (w.issued.map Prod.snd).toFinset ↔ ∃ c, (c, ip) ∈ w.issued := by
    simp only [List.mem_toFinset, List.mem_map, Prod.exists, exists_eq_right]
  rw [filed, World.filedIps, Finset.mem_union, Finset.mem_inter, Finset.mem_singleton, openly, came]
  simp only [and_or_left, exists_or, exists_and_right]

theorem Mirrored.total_eq {m : ConnectionManager WS} {sockets : Dict Nat WS} [DecidableEq WS]
    (h : Mirrored m sockets) : m.subscriptions.total = m.connAddresses.total := by
  apply SetTable.total_eq_of_mirror Prod.snd
  · intro a p hp q hq same
    have first := ((h.mirror p.1 p.2 a).mp hp).1
    have second := ((h.mirror q.1 q.2 a).mp hq).1
    rw [same, second] at first
    exact Prod.ext (Option.some.inj first).symm same
  · intro a c
    constructor
    · rintro ⟨p, hp, rfl⟩
      exact ((h.mirror p.1 p.2 a).mp hp).2
    · intro ha
      have live : c ∈ sockets :=
        (h.keys c).mp (Finmap.mem_keys.mp (SetTable.mem_keys_of_mem_get ha))
      obtain ⟨ws, hws⟩ := Finmap.mem_iff.mp live
      exact ⟨(ws, c), (h.mirror ws c a).mpr ⟨hws, ha⟩, rfl⟩

/-- In every state that the tasks can reach. -/
theorem reachable_stats [DecidableEq WS] {lower : Text → Text} (reached : Reachable lower w) :
    StatsOf w w.manager.getStats := by
  have consistent := reached.consistent
  have mirrored := consistent.mirrored
  have keys : w.manager.connAddresses.keys = w.sockets.keys := by
    ext c
    rw [Finmap.mem_keys, Finmap.mem_keys, mirrored.keys]
  have count : w.manager.subscriptions.total =
      ∑ c ∈ w.sockets.keys, (w.manager.connAddresses.get c).card := by
    rw [mirrored.total_eq, SetTable.total, keys]
  constructor
  · exact congrArg Finset.card keys
  · exact count
  · have each := Finset.sum_le_card_nsmul w.sockets.keys _ MAX_ADDRESSES_PER_CONN
      fun c _ => mirrored.perConnection c
    have few : w.sockets.keys.card ≤ MAX_CONNECTIONS_GLOBAL := keys ▸ mirrored.total
    exact count.trans_le (each.trans (Nat.mul_le_mul_right _ few))
  · exact consistent.noEmpty.card_keys_le_total
  · exact Finset.sum_le_card_nsmul _ _ MAX_SUBS_PER_ADDRESS fun a _ => mirrored.perAddress a
  · exact congrArg Finset.card reached.ipAccounted.keys_eq

/-- A client without an address comes, and another one subscribes to an address. -/
def subscribed : World Nat Unit :=
  ((visited.connect 8 true "203.0.113.7".toList).2.subscribe id 1 "9x".toList 8).2

theorem subscribed_reachable : Reachable id subscribed :=
  (visited_reachable.tail (Step.connect 8 true "203.0.113.7".toList)).tail
    (Step.subscribe "9x".toList rfl)

theorem reachable_stats_subscribed : StatsOf subscribed subscribed.manager.getStats :=
  reachable_stats subscribed_reachable

/-- One of the two addresses is that of nobody who is there. -/
example : subscribed.manager.getStats = ⟨1, 1, 1, {}, 2⟩ := by rfl

end DuckPools.Backend
