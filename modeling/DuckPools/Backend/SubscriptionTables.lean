import DuckPools.Backend.ConnectionRuns

/-!
# The subscription tables

`Mirrored` is the agreement of the two subscription tables and of the limits, seen through
`SetTable.get`; every operation that only drops entries keeps it for one reason
(`Mirrored.shrink`). `Consistent` adds that no key is left empty, and what the clean-up of
a broadcast relies on: a receiver is gone, or it is live with the websocket it was found
with, because ids are not issued twice.
-/

namespace DuckPools.Backend

section Tables

variable {WS : Type}

/-- The tables agree with each other, with the live websockets and with the limits. -/
structure Mirrored (m : ConnectionManager WS) (sockets : Dict Nat WS) : Prop where
  keys : ∀ c, c ∈ m.connAddresses ↔ c ∈ sockets
  mirror : ∀ ws c a,
    (ws, c) ∈ m.subscriptions.get a ↔ sockets.lookup c = some ws ∧ a ∈ m.connAddresses.get c
  perAddress : ∀ a, (m.subscriptions.get a).card ≤ MAX_SUBS_PER_ADDRESS
  perConnection : ∀ c, (m.connAddresses.get c).card ≤ MAX_ADDRESSES_PER_CONN
  total : m.connAddresses.keys.card ≤ MAX_CONNECTIONS_GLOBAL

variable {m m' : ConnectionManager WS} {sockets : Dict Nat WS}

theorem Mirrored.initial : Mirrored (.initial : ConnectionManager WS) ∅ where
  keys _ := Iff.rfl
  mirror ws c a := by simp [ConnectionManager.initial]
  perAddress a := by simp [ConnectionManager.initial]
  perConnection c := by simp [ConnectionManager.initial]
  total := by simp [ConnectionManager.initial]

/-- Entries may go, as long as they go from both tables. -/
theorem Mirrored.shrink (h : Mirrored m sockets) (dropped : Nat → Text → Prop)
    (keys : m'.connAddresses.keys = m.connAddresses.keys)
    (subscribers : ∀ a p,
      p ∈ m'.subscriptions.get a ↔ p ∈ m.subscriptions.get a ∧ ¬ dropped p.2 a)
    (addresses : ∀ c a,
      a ∈ m'.connAddresses.get c ↔ a ∈ m.connAddresses.get c ∧ ¬ dropped c a) :
    Mirrored m' sockets where
  keys c := by rw [← Finmap.mem_keys, keys, Finmap.mem_keys, h.keys]
  mirror ws c a := by rw [subscribers, addresses, h.mirror, and_assoc]
  perAddress a := by
    refine Nat.le_trans (Finset.card_le_card ?_) (h.perAddress a)
    intro p hp
    exact ((subscribers a p).mp hp).1
  perConnection c := by
    refine Nat.le_trans (Finset.card_le_card ?_) (h.perConnection c)
    intro a ha
    exact ((addresses c a).mp ha).1
  total := by
    rw [keys]
    exact h.total

/-- The receiver of a broadcast is gone, or it is live with this websocket. -/
def OwnOrGone (sockets : Dict Nat WS) (p : WS × Nat) : Prop :=
  ∀ ws, sockets.lookup p.2 = some ws → p.1 = ws

/-- Dropping such a pair drops everything its connection has there. -/
theorem Mirrored.eq_iff_of_mem (h : Mirrored m sockets) {p q : WS × Nat} {a : Text}
    (own : OwnOrGone sockets p) (hq : q ∈ m.subscriptions.get a) : q = p ↔ q.2 = p.2 := by
  constructor
  · rintro rfl
    rfl
  · intro he
    obtain ⟨live, _⟩ := (h.mirror q.1 q.2 a).mp hq
    rw [he] at live
    exact Prod.ext (own _ live).symm he

/-- A clean-up loop, by induction on the receivers that have to go. -/
theorem Mirrored.foldl (h : Mirrored m sockets)
    {round : ConnectionManager WS → WS × Nat → ConnectionManager WS}
    (each : ∀ m p, Mirrored m sockets → OwnOrGone sockets p → Mirrored (round m p) sockets)
    {dead : List (WS × Nat)} (own : ∀ p ∈ dead, OwnOrGone sockets p) :
    Mirrored (dead.foldl round m) sockets := by
  induction dead generalizing m with
  | nil => exact h
  | cons p dead ih =>
      apply ih (each m p h (own p List.mem_cons_self))
      intro q hq
      exact own q (List.mem_cons_of_mem p hq)

theorem Mirrored.connect (h : Mirrored m sockets) {ip : Text} {c : Nat} (ws : WS)
    (fresh : c ∉ sockets) (room : m.connAddresses.keys.card < MAX_CONNECTIONS_GLOBAL) :
    Mirrored
      { m with
        nextId := c + 1
        connAddresses := m.connAddresses.insert c ∅
        connIps := m.connIps.insert c ip
        ipConnections := m.ipConnections.modify ip (insert c) }
      (sockets.insert c ws) where
  keys c' := by rw [Finmap.mem_insert, Finmap.mem_insert, h.keys]
  mirror ws' c' a := by
    rw [SetTable.get_insert, h.mirror]
    by_cases hc : c' = c
    · subst hc
      have gone : sockets.lookup c' = none := Finmap.lookup_eq_none.mpr fresh
      simp [gone]
    · rw [if_neg hc, Finmap.lookup_insert_of_ne sockets hc]
  perAddress := h.perAddress
  perConnection c' := by
    rw [SetTable.get_insert]
    split
    · exact Nat.zero_le _
    · exact h.perConnection c'
  total := by
    rw [Dict.keys_insert]
    exact Nat.le_trans (Finset.card_insert_le _ _) room

variable [DecidableEq WS]

theorem Mirrored.unsubscribe (h : Mirrored m sockets) (lower : Text → Text) (c : Nat)
    (address : Text) : Mirrored (m.unsubscribe lower c address) sockets := by
  apply h.shrink (fun c' a => c' = c ∧ a = lower address)
  · exact SetTable.keys_adjust _ _ _
  · intro a p
    rw [ConnectionManager.unsubscribe, SetTable.get_remove]
    by_cases ha : a = lower address
    · simp [ha]
    · simp [ha]
  · intro c' a
    rw [ConnectionManager.unsubscribe, SetTable.get_adjust (Finset.erase_empty _)]
    by_cases hc : c' = c
    · rw [if_pos hc, Finset.mem_erase]
      simp only [hc, true_and]
      exact and_comm
    · simp [hc]

theorem Mirrored.discard (h : Mirrored m sockets) (address : Text) {p : WS × Nat}
    (own : OwnOrGone sockets p) : Mirrored (m.discard address p) sockets := by
  apply h.shrink (fun c' a => c' = p.2 ∧ a = address)
  · exact SetTable.keys_adjust _ _ _
  · intro a q
    rw [ConnectionManager.discard, SetTable.get_modify]
    by_cases ha : a = address
    · subst ha
      rw [if_pos rfl, Finset.mem_erase, and_comm]
      apply and_congr_right
      intro hq
      simp only [and_true]
      exact not_congr (h.eq_iff_of_mem own hq)
    · simp [ha]
  · intro c' a
    rw [ConnectionManager.discard, SetTable.get_adjust (Finset.erase_empty _)]
    by_cases hc : c' = p.2
    · rw [if_pos hc, Finset.mem_erase]
      simp only [hc, true_and]
      exact and_comm
    · simp [hc]

theorem Mirrored.discardEverywhere (h : Mirrored m sockets) {p : WS × Nat}
    (own : OwnOrGone sockets p) : Mirrored (m.discardEverywhere p) sockets := by
  apply h.shrink (fun c' a => c' = p.2 ∧ a ∈ m.subscriptions.keys)
  · exact SetTable.keys_adjust _ _ _
  · intro a q
    rw [ConnectionManager.discardEverywhere, SetTable.get_removeAll]
    by_cases ha : a ∈ m.subscriptions.keys
    · rw [if_pos ha, Finset.mem_filter]
      apply and_congr_right
      intro hq
      simp only [ha, and_true]
      exact not_congr (h.eq_iff_of_mem own hq)
    · simp [ha]
  · intro c' a
    have none : (∅ : Finset Text) \ m.subscriptions.keys = ∅ := Finset.empty_sdiff _
    have get := @SetTable.get_adjust Nat Text _ (fun addresses => addresses \ m.subscriptions.keys)
      none m.connAddresses p.2 c'
    rw [ConnectionManager.discardEverywhere, get]
    by_cases hc : c' = p.2
    · simp [hc]
    · simp [hc]

theorem Mirrored.cleanUpAddress (h : Mirrored m sockets) (address : Text)
    {dead : List (WS × Nat)} (own : ∀ p ∈ dead, OwnOrGone sockets p) :
    Mirrored (m.cleanUpAddress address dead) sockets := by
  have loop : Mirrored (dead.foldl (fun m pair => m.discard address pair) m) sockets :=
    h.foldl (fun m p hm hp => hm.discard address hp) own
  refine loop.shrink (fun _ _ => False) ?_ ?_ ?_
  · rfl
  · intro a p
    rw [ConnectionManager.cleanUpAddress, SetTable.get_prune, not_false_iff, and_true]
  · intro c a
    rw [ConnectionManager.cleanUpAddress, not_false_iff, and_true]

theorem Mirrored.cleanUpGlobal (h : Mirrored m sockets) {dead : List (WS × Nat)}
    (own : ∀ p ∈ dead, OwnOrGone sockets p) : Mirrored (m.cleanUpGlobal dead) sockets :=
  h.foldl (fun _ _ hm hp => hm.discardEverywhere hp) own

theorem Mirrored.subscribe (h : Mirrored m sockets) {c : Nat} {ws : WS} {address : Text}
    {addresses : Finset Text} (live : sockets.lookup c = some ws)
    (found : m.connAddresses.lookup c = some addresses)
    (few : (m.subscriptions.get address).card < MAX_SUBS_PER_ADDRESS)
    (short : addresses.card < MAX_ADDRESSES_PER_CONN) :
    Mirrored
      { m with
        subscriptions := m.subscriptions.modify address (insert (ws, c))
        connAddresses := m.connAddresses.insert c (insert address addresses) }
      sockets where
  keys c' := by
    rw [Finmap.mem_insert, h.keys]
    constructor
    · rintro (rfl | hc)
      · exact Finmap.mem_of_lookup_eq_some live
      · exact hc
    · exact Or.inr
  mirror ws' c' a := by
    have before := h.mirror ws' c' a
    have set := SetTable.get_of_lookup found
    rw [SetTable.get_modify, SetTable.get_insert]
    by_cases hc : c' = c
    · subst hc
      by_cases ha : a = address
      · subst ha
        rw [if_pos rfl, if_pos rfl, Finset.mem_insert, before, set, live]
        simp only [Prod.mk.injEq, and_true, Option.some.injEq, Finset.mem_insert, true_or]
        constructor
        · rintro (rfl | hold)
          · rfl
          · exact hold.1
        · intro he
          exact Or.inl he.symm
      · rw [if_neg ha, if_pos rfl, before, set, Finset.mem_insert]
        simp [ha]
    · by_cases ha : a = address
      · subst ha
        rw [if_pos rfl, if_neg hc, Finset.mem_insert, before]
        simp [hc]
      · rw [if_neg ha, if_neg hc, before]
  perAddress a := by
    rw [SetTable.get_modify]
    split
    · exact Nat.le_trans (Finset.card_insert_le _ _) few
    · exact h.perAddress a
  perConnection c' := by
    rw [SetTable.get_insert]
    split
    · exact Nat.le_trans (Finset.card_insert_le _ _) short
    · exact h.perConnection c'
  total := by
    rw [Dict.keys_insert_of_mem (Finmap.mem_of_lookup_eq_some found)]
    exact h.total

theorem Mirrored.disconnect (h : Mirrored m sockets) (c : Nat) :
    Mirrored (m.disconnect c) (sockets.erase c) where
  keys c' := by rw [ConnectionManager.disconnect, Finmap.mem_erase, Finmap.mem_erase, h.keys]
  mirror ws c' a := by
    rw [ConnectionManager.disconnect, SetTable.get_removeAll, SetTable.get_erase]
    by_cases hc : c' = c
    · subst hc
      rw [if_pos rfl, Finmap.lookup_erase]
      by_cases ha : a ∈ m.connAddresses.get c'
      · simp [ha]
      · rw [if_neg ha, h.mirror]
        simp [ha]
    · rw [if_neg hc, Finmap.lookup_erase_ne hc, ← h.mirror]
      split
      · rw [Finset.mem_filter]
        simp [hc]
      · rfl
  perAddress a := by
    refine Nat.le_trans (Finset.card_le_card ?_) (h.perAddress a)
    rw [ConnectionManager.disconnect, SetTable.get_removeAll]
    split
    · exact Finset.filter_subset _ _
    · exact Finset.Subset.refl _
  perConnection c' := by
    rw [ConnectionManager.disconnect, SetTable.get_erase]
    split
    · exact Nat.zero_le _
    · exact h.perConnection c'
  total := by
    rw [ConnectionManager.disconnect, Finmap.keys_erase]
    exact Nat.le_trans (Finset.card_le_card (Finset.erase_subset _ _)) h.total

end Tables

section Frame

variable {WS : Type}

/-- Two managers that differ in the subscription tables only. -/
structure SameAccounts (m m' : ConnectionManager WS) : Prop where
  connIps : m'.connIps = m.connIps
  ipConnections : m'.ipConnections = m.ipConnections
  connOwner : m'.connOwner = m.connOwner
  nextId : m'.nextId = m.nextId

theorem SameAccounts.refl (m : ConnectionManager WS) : SameAccounts m m := ⟨rfl, rfl, rfl, rfl⟩

theorem SameAccounts.trans {m m' m'' : ConnectionManager WS} (h : SameAccounts m m')
    (h' : SameAccounts m' m'') : SameAccounts m m'' where
  connIps := h'.connIps.trans h.connIps
  ipConnections := h'.ipConnections.trans h.ipConnections
  connOwner := h'.connOwner.trans h.connOwner
  nextId := h'.nextId.trans h.nextId

theorem SameAccounts.foldl {round : ConnectionManager WS → WS × Nat → ConnectionManager WS}
    (each : ∀ m p, SameAccounts m (round m p)) (m : ConnectionManager WS)
    (dead : List (WS × Nat)) : SameAccounts m (dead.foldl round m) := by
  induction dead generalizing m with
  | nil => exact SameAccounts.refl m
  | cons p dead ih => exact (each m p).trans (ih (round m p))

variable [DecidableEq WS]

theorem sameAccounts_subscribe (lower : Text → Text) (m : ConnectionManager WS) (c : Nat)
    (address : Text) (ws : WS) : SameAccounts m (m.subscribe lower c address ws).2 := by
  rw [ConnectionManager.subscribe]
  dsimp only
  split
  · exact SameAccounts.refl m
  · split
    · exact ⟨rfl, rfl, rfl, rfl⟩
    · split
      · exact SameAccounts.refl m
      · exact ⟨rfl, rfl, rfl, rfl⟩

theorem sameAccounts_unsubscribe (lower : Text → Text) (m : ConnectionManager WS) (c : Nat)
    (address : Text) : SameAccounts m (m.unsubscribe lower c address) := ⟨rfl, rfl, rfl, rfl⟩

theorem sameAccounts_cleanUp {Event : Type} (lower : Text → Text) (b : Broadcast WS Event)
    (m : ConnectionManager WS) : SameAccounts m (b.cleanUp lower m) := by
  rw [Broadcast.cleanUp]
  split
  · exact SameAccounts.refl m
  · cases b.target with
    | some address =>
        have each : ∀ m p, SameAccounts m (m.discard (lower address) p : ConnectionManager WS) :=
          fun m p => ⟨rfl, rfl, rfl, rfl⟩
        have loop := SameAccounts.foldl each m b.dead
        exact ⟨loop.connIps, loop.ipConnections, loop.connOwner, loop.nextId⟩
    | none =>
        have each : ∀ m p, SameAccounts m (m.discardEverywhere p : ConnectionManager WS) :=
          fun m p => ⟨rfl, rfl, rfl, rfl⟩
        exact SameAccounts.foldl each m b.dead

end Frame

section Runs

variable {WS Event : Type} {w : World WS Event}

/-- What holds between the steps of all tasks. -/
structure Consistent (w : World WS Event) : Prop where
  mirrored : Mirrored w.manager w.sockets
  noEmpty : w.manager.subscriptions.NoEmpty
  fresh : ∀ p ∈ w.issued, p.1 < w.manager.nextId
  distinct : (w.issued.map Prod.fst).Nodup
  known : ∀ c ∈ w.sockets, ∃ clientIp, (c, clientIp) ∈ w.issued
  receivers : ∀ i b, w.broadcasts.lookup i = some b → ∀ p, p ∈ b.pending ∨ p ∈ b.dead →
    p.2 < w.manager.nextId ∧ OwnOrGone w.sockets p

theorem Consistent.initial : Consistent (World.initial : World WS Event) where
  mirrored := Mirrored.initial
  noEmpty := SetTable.NoEmpty.empty
  fresh := by simp [World.initial]
  distinct := by simp [World.initial]
  known c hc := absurd hc Finmap.notMem_empty
  receivers := by simp [World.initial]

theorem Consistent.lt_nextId (h : Consistent w) {c : Nat} (live : c ∈ w.sockets) :
    c < w.manager.nextId := by
  obtain ⟨clientIp, issued⟩ := h.known c live
  exact h.fresh _ issued

theorem Consistent.nextId_notMem (h : Consistent w) : w.manager.nextId ∉ w.sockets := by
  intro live
  exact Nat.lt_irrefl _ (h.lt_nextId live)

/-- Whoever is found in the tables is live, with that websocket. -/
theorem Consistent.receiver (h : Consistent w) {p : WS × Nat} {a : Text}
    (hp : p ∈ w.manager.subscriptions.get a) :
    p.2 < w.manager.nextId ∧ OwnOrGone w.sockets p := by
  have live := ((h.mirrored.mirror p.1 p.2 a).mp hp).1
  refine ⟨h.lt_nextId (Finmap.mem_of_lookup_eq_some live), ?_⟩
  intro ws hws
  rw [live] at hws
  exact Option.some.inj hws

/-- An operation on the tables that issues no id. -/
theorem Consistent.withManager (h : Consistent w) {m : ConnectionManager WS}
    (mirrored : Mirrored m w.sockets) (noEmpty : m.subscriptions.NoEmpty)
    (nextId : m.nextId = w.manager.nextId) : Consistent { w with manager := m } :=
  { h with
    mirrored
    noEmpty
    fresh := by
      intro p hp
      rw [nextId]
      exact h.fresh p hp
    receivers := by
      intro i b hb p hp
      rw [nextId]
      exact h.receivers i b hb p hp }

/-- A broadcast goes on with receivers it had before. -/
theorem Consistent.withBroadcast (h : Consistent w) (i : Nat) {b : Broadcast WS Event}
    (own : ∀ p, p ∈ b.pending ∨ p ∈ b.dead →
      p.2 < w.manager.nextId ∧ OwnOrGone w.sockets p) :
    Consistent { w with broadcasts := w.broadcasts.insert i b } :=
  { h with
    receivers := by
      intro j b' hb' p hp
      by_cases hj : j = i
      · subst hj
        rw [Finmap.lookup_insert, Option.some.injEq] at hb'
        subst hb'
        exact own p hp
      · rw [Finmap.lookup_insert_of_ne _ hj] at hb'
        exact h.receivers j b' hb' p hp }

theorem Consistent.connect (h : Consistent w) (ws : WS) (accepted : Bool) (clientIp : Text) :
    Consistent (w.connect ws accepted clientIp).2 := by
  rw [World.connect, ConnectionManager.connect]
  split_ifs with full busy refused
  · exact h
  · exact h
  · exact h
  · -- The id is new, so nothing that is remembered of other connections speaks of it.
    have stays : ∀ c, c < w.manager.nextId → (w.sockets.insert w.manager.nextId ws).lookup c =
        w.sockets.lookup c := by
      intro c hc
      exact Finmap.lookup_insert_of_ne _ (Nat.ne_of_lt hc)
    constructor
    · exact h.mirrored.connect ws h.nextId_notMem (Nat.lt_of_not_le full)
    · exact h.noEmpty
    · intro p hp
      rw [List.mem_append, List.mem_singleton] at hp
      rcases hp with old | rfl
      · exact Nat.lt_succ_of_lt (h.fresh p old)
      · exact Nat.lt_succ_self _
    · rw [List.map_append, List.nodup_append]
      refine ⟨h.distinct, List.nodup_singleton _, ?_⟩
      intro c hc c' hc'
      obtain ⟨p, hp, rfl⟩ := List.mem_map.mp hc
      rw [List.mem_singleton.mp hc']
      exact Nat.ne_of_lt (h.fresh p hp)
    · intro c hc
      rw [Finmap.mem_insert] at hc
      rcases hc with rfl | old
      · exact ⟨clientIp, List.mem_append_right _ List.mem_cons_self⟩
      · obtain ⟨ip, issued⟩ := h.known c old
        exact ⟨ip, List.mem_append_left _ issued⟩
    · intro i b hb p hp
      obtain ⟨lt, own⟩ := h.receivers i b hb p hp
      refine ⟨Nat.lt_succ_of_lt lt, ?_⟩
      intro ws' live
      rw [stays _ lt] at live
      exact own ws' live

theorem Consistent.disconnect [DecidableEq WS] (h : Consistent w) (c : Nat) :
    Consistent (w.disconnect c) where
  mirrored := h.mirrored.disconnect c
  noEmpty := h.noEmpty.removeAll _ _
  fresh := h.fresh
  distinct := h.distinct
  known := by
    intro c' hc'
    exact h.known c' (Finmap.mem_erase.mp hc').2
  receivers := by
    intro i b hb p hp
    obtain ⟨lt, own⟩ := h.receivers i b hb p hp
    refine ⟨lt, ?_⟩
    intro ws live
    by_cases hc : p.2 = c
    · rw [World.disconnect, hc, Finmap.lookup_erase] at live
      cases live
    · rw [World.disconnect, Finmap.lookup_erase_ne hc] at live
      exact own ws live

/-- A live connection has its set of addresses, so `subscribe` raises only at a limit. -/
theorem Consistent.subscribe [DecidableEq WS] (h : Consistent w) (lower : Text → Text) {c : Nat}
    {ws : WS} (address : Text) (own : w.sockets.lookup c = some ws) :
    Consistent (w.subscribe lower c address ws).2 := by
  obtain ⟨addresses, found⟩ :=
    Finmap.mem_iff.mp ((h.mirrored.keys c).mpr (Finmap.mem_of_lookup_eq_some own))
  rw [World.subscribe, ConnectionManager.subscribe, found]
  dsimp only
  split_ifs with crowded full
  · exact h
  · exact h
  · apply h.withManager
    · exact h.mirrored.subscribe own found (Nat.lt_of_not_le crowded) (Nat.lt_of_not_le full)
    · exact h.noEmpty.add _ _
    · rfl

theorem noEmpty_cleanUpAddress [DecidableEq WS] {m : ConnectionManager WS}
    (h : m.subscriptions.NoEmpty) (address : Text) (dead : List (WS × Nat)) :
    (m.cleanUpAddress address dead).subscriptions.NoEmpty := by
  -- The loop touches the sets of one address, which is pruned after it.
  have others : ∀ a, a ≠ address →
      (dead.foldl (fun m pair => m.discard address pair) m).subscriptions.lookup a =
        m.subscriptions.lookup a := by
    intro a ha
    clear h
    induction dead generalizing m with
    | nil => rfl
    | cons p dead ih =>
        rw [List.foldl_cons, ih, ConnectionManager.discard, SetTable.lookup_modify_of_ne _ _ ha]
  apply SetTable.NoEmpty.prune_of_others
  intro a ha
  rw [others a ha]
  exact h a

theorem noEmpty_cleanUpGlobal [DecidableEq WS] {m : ConnectionManager WS}
    (h : m.subscriptions.NoEmpty) (dead : List (WS × Nat)) :
    (m.cleanUpGlobal dead).subscriptions.NoEmpty := by
  rw [ConnectionManager.cleanUpGlobal]
  induction dead generalizing m with
  | nil => exact h
  | cons p dead ih => exact ih (h.removeAll _ _)

theorem Mirrored.cleanUp [DecidableEq WS] (h : Mirrored w.manager w.sockets)
    (lower : Text → Text) (b : Broadcast WS Event) (own : ∀ p ∈ b.dead, OwnOrGone w.sockets p) :
    Mirrored (b.cleanUp lower w.manager) w.sockets := by
  rw [Broadcast.cleanUp]
  split
  · exact h
  · cases b.target with
    | some address => exact h.cleanUpAddress (lower address) own
    | none => exact h.cleanUpGlobal own

theorem noEmpty_cleanUp [DecidableEq WS] {m : ConnectionManager WS} (h : m.subscriptions.NoEmpty)
    (lower : Text → Text) (b : Broadcast WS Event) : (b.cleanUp lower m).subscriptions.NoEmpty := by
  rw [Broadcast.cleanUp]
  split
  · exact h
  · cases b.target with
    | some address => exact noEmpty_cleanUpAddress h (lower address) b.dead
    | none => exact noEmpty_cleanUpGlobal h b.dead

/-- The receivers that a broadcast finds are in the tables. -/
theorem Snapshot.found [DecidableEq WS] {lower : Text → Text} {m : ConnectionManager WS}
    {target : Option Text} {receivers : Finset (WS × Nat)}
    (h : Snapshot lower m target receivers) {p : WS × Nat} (hp : p ∈ receivers) :
    ∃ a, p ∈ m.subscriptions.get a := by
  cases target with
  | some address => exact ⟨lower address, h ▸ hp⟩
  | none => exact h.1 p hp

theorem Consistent.broadcastStep [DecidableEq WS] {lower : Text → Text} {w' : World WS Event}
    (h : Consistent w) (hstep : BroadcastStep lower w w') : Consistent w' := by
  cases hstep with
  | start event unused snapshot =>
      apply h.withBroadcast
      intro p hp
      rcases hp with waits | dead
      · obtain ⟨a, found⟩ := snapshot.found waits
        exact h.receiver found
      · cases dead
  | @send i b p running waits =>
      have sent := h.withBroadcast i (b := b.delivered p) ?_
      · exact { sent with }
      · intro q hq
        rcases hq with hq | hq
        · exact h.receivers i b running q (Or.inl (Finset.mem_of_mem_erase hq))
        · exact h.receivers i b running q (Or.inr hq)
  | @sendRaises i b p running waits =>
      apply h.withBroadcast i
      intro q hq
      rcases hq with hq | hq
      · exact h.receivers i b running q (Or.inl (Finset.mem_of_mem_erase hq))
      · rcases List.mem_append.mp hq with hq | hq
        · exact h.receivers i b running q (Or.inr hq)
        · rw [List.mem_singleton.mp hq]
          exact h.receivers i b running p (Or.inl waits)
  | @finish i b running done =>
      have clean := h.withManager
        (h.mirrored.cleanUp lower b fun p hp => (h.receivers i b running p (Or.inr hp)).2)
        (noEmpty_cleanUp h.noEmpty lower b) (sameAccounts_cleanUp lower b w.manager).nextId
      refine { clean with receivers := ?_ }
      intro j b' hb' p hp
      by_cases hj : j = i
      · rw [hj, Finmap.lookup_erase] at hb'
        cases hb'
      · rw [Finmap.lookup_erase_ne hj] at hb'
        exact clean.receivers j b' hb' p hp

theorem Consistent.step [DecidableEq WS] {lower : Text → Text} {w' : World WS Event}
    (h : Consistent w) (hstep : Step lower w w') : Consistent w' := by
  cases hstep with
  | connect ws accepted clientIp => exact h.connect ws accepted clientIp
  | setOwner address live => exact h.withManager { h.mirrored with } h.noEmpty rfl
  | subscribe address own => exact h.subscribe lower address own
  | unsubscribe c address =>
      exact h.withManager (h.mirrored.unsubscribe lower c address) (h.noEmpty.remove _ _) rfl
  | disconnect c => exact h.disconnect c
  | broadcast hstep => exact h.broadcastStep hstep

theorem Reachable.consistent [DecidableEq WS] {lower : Text → Text}
    (reached : Reachable lower w) : Consistent w := by
  induction reached with
  | refl => exact Consistent.initial
  | tail _ hstep ih => exact ih.step hstep

/-- What the tables promise whoever reads them. -/
structure TablesAgree (w : World WS Event) : Prop where
  mirror : ∀ ws c a, (ws, c) ∈ w.manager.subscriptions.get a ↔
    w.sockets.lookup c = some ws ∧ a ∈ w.manager.connAddresses.get c
  live : ∀ c, c ∈ w.manager.connAddresses ↔ c ∈ w.sockets
  noEmptySet : ∀ a, w.manager.subscriptions.lookup a ≠ some ∅
  perAddress : ∀ a, (w.manager.subscriptions.get a).card ≤ MAX_SUBS_PER_ADDRESS
  perConnection : ∀ c, (w.manager.connAddresses.get c).card ≤ MAX_ADDRESSES_PER_CONN
  connections : w.manager.connAddresses.keys.card ≤ MAX_CONNECTIONS_GLOBAL
  idsDistinct : (w.issued.map Prod.fst).Nodup

theorem reachable_tablesAgree [DecidableEq WS] {lower : Text → Text}
    (reached : Reachable lower w) : TablesAgree w := by
  have consistent := reached.consistent
  have mirrored := consistent.mirrored
  exact
    { mirror := mirrored.mirror
      live := mirrored.keys
      noEmptySet := consistent.noEmpty
      perAddress := mirrored.perAddress
      perConnection := mirrored.perConnection
      connections := mirrored.total
      idsDistinct := consistent.distinct }

theorem reachable_tablesAgree_subscribed :
    TablesAgree ((((World.initial : World Nat Unit).connect 7 true "10.0.0.7".toList).2.subscribe
      id 0 "9f".toList 7).2) := by
  apply @reachable_tablesAgree Nat Unit _ _ id
  apply Relation.ReflTransGen.tail (Relation.ReflTransGen.single (Step.connect _ _ _))
  apply Step.subscribe
  decide

end Runs

end DuckPools.Backend
