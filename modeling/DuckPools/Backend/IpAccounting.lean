import DuckPools.Backend.SubscriptionTables

/-!
# Connections by client address

`_ip_connections` should hold, under each client address, the open connections that came
from there. `connect` files every id under the address it is given, the empty one as well,
while `disconnect` skips a client address that is empty, so these ids stay filed for good.
`IpAccounted` says what the tables are in every reachable world, and the promise of exact
accounting follows exactly as long as no connection with an empty client address was closed.
-/

namespace DuckPools.Backend

/-- What `_get_client_ip` reads of a request. -/
structure ClientRequest where
  forwardedFor : Option Text
  clientHost : Option Text

/-- `_get_client_ip` of `ws_routes.py` -/
def getClientIp (request : ClientRequest) : Text :=
  match request.forwardedFor with
  | some (c :: rest) => Py.strip (((c :: rest).splitOn ',').headD [])
  | _ =>
      match request.clientHost with
      | some host => host
      | none => "unknown".toList

variable {WS Event : Type} {w w' : World WS Event}

/-- The tables other than those of subscriptions. -/
structure IpAccounted (w : World WS Event) : Prop where
  ips : ∀ c clientIp, w.manager.connIps.lookup c = some clientIp ↔
    c ∈ w.sockets ∧ (c, clientIp) ∈ w.issued
  sets : ∀ c clientIp, c ∈ w.manager.ipConnections.get clientIp ↔
    (c, clientIp) ∈ w.issued ∧ (c ∈ w.sockets ∨ clientIp = [])
  noEmpty : w.manager.ipConnections.NoEmpty
  owners : ∀ c ∈ w.manager.connOwner, c ∈ w.sockets

theorem IpAccounted.initial : IpAccounted (World.initial : World WS Event) where
  ips c clientIp := by
    simp only [World.initial, ConnectionManager.initial, Finmap.lookup_empty]
    constructor
    · intro h
      cases h
    · intro h
      cases h.2
  sets c clientIp := by
    simp [World.initial, ConnectionManager.initial]
  noEmpty := SetTable.NoEmpty.empty
  owners c hc := absurd hc Finmap.notMem_empty

theorem IpAccounted.frame (h : IpAccounted w) (accounts : SameAccounts w.manager w'.manager)
    (sockets : w'.sockets = w.sockets) (issued : w'.issued = w.issued) : IpAccounted w' where
  ips := by
    rw [accounts.connIps, sockets, issued]
    exact h.ips
  sets := by
    rw [accounts.ipConnections, sockets, issued]
    exact h.sets
  noEmpty := by
    rw [accounts.ipConnections]
    exact h.noEmpty
  owners := by
    rw [accounts.connOwner, sockets]
    exact h.owners

/-- An id is issued for one client address. -/
theorem Consistent.clientIp_unique (h : Consistent w) {c : Nat} {ip ip' : Text}
    (issued : (c, ip) ∈ w.issued) (issued' : (c, ip') ∈ w.issued) : ip = ip' := by
  have same := List.inj_on_of_nodup_map h.distinct issued issued' rfl
  exact congrArg Prod.snd same

theorem IpAccounted.connect (h : IpAccounted w) (consistent : Consistent w) (ws : WS)
    (accepted : Bool) (clientIp : Text) :
    IpAccounted (w.connect ws accepted clientIp).2 := by
  rw [World.connect, ConnectionManager.connect]
  split_ifs with full busy refused
  · exact h
  · exact h
  · exact h
  · have unissued : ∀ ip, (w.manager.nextId, ip) ∉ w.issued := by
      intro ip hip
      exact Nat.lt_irrefl _ (consistent.fresh _ hip)
    constructor
    · intro c ip
      dsimp only
      rw [Finmap.mem_insert, List.mem_append, List.mem_singleton, Prod.mk.injEq]
      by_cases hc : c = w.manager.nextId
      · subst hc
        rw [Finmap.lookup_insert]
        simp [unissued, eq_comm]
      · rw [Finmap.lookup_insert_of_ne _ hc, h.ips]
        simp [hc]
    · intro c ip
      dsimp only
      rw [SetTable.get_modify, Finmap.mem_insert, List.mem_append, List.mem_singleton,
        Prod.mk.injEq]
      by_cases hip : ip = clientIp
      · subst hip
        rw [if_pos rfl, Finset.mem_insert, h.sets]
        by_cases hc : c = w.manager.nextId
        · simp [hc]
        · simp [hc]
      · rw [if_neg hip, h.sets]
        by_cases hc : c = w.manager.nextId
        · simp [hc, hip, unissued]
        · simp [hc, hip]
    · exact h.noEmpty.add _ _
    · intro c hc
      exact Finmap.mem_insert.mpr (Or.inr (h.owners c hc))

/-- What `disconnect` takes out of the sets of ids: nothing if the client address is empty. -/
theorem mem_ipConnections_disconnect [DecidableEq WS] (m : ConnectionManager WS) (c c' : Nat)
    (clientIp : Text) :
    c' ∈ (m.disconnect c).ipConnections.get clientIp ↔ c' ∈ m.ipConnections.get clientIp ∧
      ¬ (c' = c ∧ m.connIps.lookup c = some clientIp ∧ clientIp ≠ []) := by
  rw [ConnectionManager.disconnect]
  cases hip : m.connIps.lookup c with
  | none => simp
  | some ip =>
      cases ip with
      | nil => simp [eq_comm]
      | cons x xs =>
          dsimp only [List.isEmpty_cons]
          rw [if_neg Bool.false_ne_true, SetTable.get_remove]
          by_cases heq : clientIp = x :: xs
          · simp [heq]
          · simp [heq, eq_comm]

theorem noEmpty_ipConnections_disconnect [DecidableEq WS] {m : ConnectionManager WS}
    (h : m.ipConnections.NoEmpty) (c : Nat) : (m.disconnect c).ipConnections.NoEmpty := by
  rw [ConnectionManager.disconnect]
  dsimp only
  split
  · exact h
  · split
    · exact h
    · exact h.remove _ _

theorem IpAccounted.disconnect [DecidableEq WS] (h : IpAccounted w) (c : Nat) :
    IpAccounted (w.disconnect c) where
  ips c' clientIp := by
    rw [World.disconnect, ConnectionManager.disconnect, Finmap.mem_erase]
    by_cases hc : c' = c
    · subst hc
      simp [Finmap.lookup_erase]
    · rw [Finmap.lookup_erase_ne hc, h.ips]
      simp [hc]
  sets c' clientIp := by
    rw [World.disconnect, mem_ipConnections_disconnect, h.sets, h.ips, Finmap.mem_erase]
    by_cases hc : c' = c
    · subst hc
      tauto
    · simp [hc]
  noEmpty := noEmpty_ipConnections_disconnect h.noEmpty c
  owners c' hc' := by
    rw [World.disconnect, ConnectionManager.disconnect, Finmap.mem_erase] at hc'
    exact Finmap.mem_erase.mpr ⟨hc'.1, h.owners c' hc'.2⟩

/-- A broadcast touches the subscription tables only. -/
theorem BroadcastStep.accounts [DecidableEq WS] {lower : Text → Text}
    (h : BroadcastStep lower w w') :
    SameAccounts w.manager w'.manager ∧ w'.sockets = w.sockets ∧ w'.issued = w.issued := by
  cases h with
  | start event unused snapshot => exact ⟨SameAccounts.refl _, rfl, rfl⟩
  | send running waits => exact ⟨SameAccounts.refl _, rfl, rfl⟩
  | sendRaises running waits => exact ⟨SameAccounts.refl _, rfl, rfl⟩
  | @finish i b running done => exact ⟨sameAccounts_cleanUp lower b _, rfl, rfl⟩

theorem IpAccounted.step [DecidableEq WS] {lower : Text → Text} (h : IpAccounted w)
    (consistent : Consistent w) (hstep : Step lower w w') : IpAccounted w' := by
  cases hstep with
  | connect ws accepted clientIp => exact h.connect consistent ws accepted clientIp
  | setOwner address live =>
      refine { h with owners := ?_ }
      intro c' hc'
      rcases Finmap.mem_insert.mp hc' with rfl | old
      · exact live
      · exact h.owners c' old
  | subscribe address own => exact h.frame (sameAccounts_subscribe lower _ _ address _) rfl rfl
  | unsubscribe c address => exact h.frame (sameAccounts_unsubscribe lower _ c address) rfl rfl
  | disconnect c => exact h.disconnect c
  | broadcast hstep =>
      obtain ⟨accounts, sockets, issued⟩ := hstep.accounts
      exact h.frame accounts sockets issued

theorem Reachable.ipAccounted [DecidableEq WS] {lower : Text → Text}
    (reached : Reachable lower w) : IpAccounted w := by
  induction reached with
  | refl => exact IpAccounted.initial
  | tail before hstep ih =>
      exact ih.step (Reachable.consistent before) hstep

/-- The open connections from a client address. -/
def World.openFrom (w : World WS Event) (clientIp : Text) : Finset Nat :=
  w.sockets.keys.filter fun c => w.manager.connIps.lookup c = some clientIp

/-- The accounting by client address is exact, and so the limit on it. -/
structure PerIpExact (w : World WS Event) : Prop where
  sets : ∀ clientIp, w.manager.ipConnections.get clientIp = w.openFrom clientIp
  keys : ∀ clientIp ∈ w.manager.ipConnections, (w.openFrom clientIp).Nonempty
  refusal : ∀ accepted clientIp message,
    w.manager.connAddresses.keys.card < MAX_CONNECTIONS_GLOBAL →
    (w.manager.connect accepted clientIp).1 = .error (.ConnectionLimitExceeded message) →
    MAX_CONNECTIONS_PER_IP ≤ (w.openFrom clientIp).card

theorem mem_openFrom (h : IpAccounted w) {c : Nat} {clientIp : Text} :
    c ∈ w.openFrom clientIp ↔ (c, clientIp) ∈ w.issued ∧ c ∈ w.sockets := by
  rw [World.openFrom, Finset.mem_filter, h.ips, Finmap.mem_keys]
  tauto

theorem limit_of_refused {m : ConnectionManager WS} {accepted : Bool} {clientIp message : Text}
    (room : m.connAddresses.keys.card < MAX_CONNECTIONS_GLOBAL)
    (refused : (m.connect accepted clientIp).1 = .error (.ConnectionLimitExceeded message)) :
    MAX_CONNECTIONS_PER_IP ≤ (m.ipConnections.get clientIp).card := by
  rw [ConnectionManager.connect, if_neg (Nat.not_le_of_lt room)] at refused
  split at refused
  · assumption
  · split at refused
    · cases refused
    · cases refused

/-- The accounting is exact as long as no connection with an empty client address was closed. -/
theorem perIpExact_iff [DecidableEq WS] {lower : Text → Text} (reached : Reachable lower w) :
    PerIpExact w ↔ ∀ c, (c, []) ∈ w.issued → c ∈ w.sockets := by
  have accounted := reached.ipAccounted
  constructor
  · intro exact c issued
    have filed := (accounted.sets c []).mpr ⟨issued, Or.inr rfl⟩
    rw [exact.sets] at filed
    exact ((mem_openFrom accounted).mp filed).2
  · intro open_
    have sets : ∀ clientIp, w.manager.ipConnections.get clientIp = w.openFrom clientIp := by
      intro clientIp
      ext c
      rw [accounted.sets, mem_openFrom accounted]
      apply and_congr_right
      intro issued
      constructor
      · rintro (live | rfl)
        · exact live
        · exact open_ c issued
      · exact Or.inl
    constructor
    · exact sets
    · intro clientIp hkey
      rw [← sets]
      exact (accounted.noEmpty.mem_iff clientIp).mp hkey
    · intro accepted clientIp message room refused
      rw [← sets]
      exact limit_of_refused room refused

/-- A header whose first element is empty. -/
def emptyFirstHop : ClientRequest where
  forwardedFor := some ", 203.0.113.7".toList
  clientHost := some "10.0.0.2".toList

/-- Such a client comes and goes. -/
def visited : World Nat Unit :=
  ((World.initial : World Nat Unit).connect 7 true (getClientIp emptyFirstHop)).2.disconnect 0

theorem visited_reachable : Reachable id visited :=
  Relation.ReflTransGen.tail (Relation.ReflTransGen.single (Step.connect _ _ _))
    (Step.disconnect 0)

theorem perIpExact_iff_visited :
    PerIpExact visited ↔ ∀ c, (c, []) ∈ visited.issued → c ∈ visited.sockets :=
  perIpExact_iff visited_reachable

theorem perIpExact_fails :
    Reachable id visited ∧ getClientIp emptyFirstHop = [] ∧
      visited.openFrom [] = ∅ ∧ visited.manager.ipConnections.get [] = {0} ∧
      ¬ PerIpExact visited := by
  have gone : visited.openFrom [] = ∅ := by decide
  have filed : visited.manager.ipConnections.get [] = {0} := by decide
  refine ⟨visited_reachable, by decide, gone, filed, ?_⟩
  intro exact
  have sets := exact.sets []
  rw [gone, filed] at sets
  exact Finset.singleton_ne_empty 0 sets

end DuckPools.Backend
