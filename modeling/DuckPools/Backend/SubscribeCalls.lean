import DuckPools.Backend.SubscriptionTables

/-!
# Calls of `subscribe` that fail, and calls that repeat

`connect` checks everything before it changes anything. `subscribe` writes the address's set
first and then looks the connection up, so a connection that is not known raises after the
pair has been filed.

The limits are compared with the counts as they are, whether or not the connection is among
those counted. So a repeated subscription changes nothing, but it is refused once the
address or the connection is full.
-/

namespace DuckPools.Backend

variable {WS : Type}

/-- If the call raises, it leaves the tables as they were. -/
def FailsUntouched {α : Type} (call : Except ManagerError α × ConnectionManager WS)
    (m : ConnectionManager WS) : Prop :=
  ∀ e, call.1 = .error e → call.2 = m

theorem connect_failsUntouched (m : ConnectionManager WS) (accepted : Bool) (clientIp : Text) :
    FailsUntouched (m.connect accepted clientIp) m := by
  intro e raised
  rw [ConnectionManager.connect] at raised ⊢
  split_ifs with full busy refused
  · rfl
  · rfl
  · rfl
  · rw [if_neg full, if_neg busy, if_neg refused] at raised
    cases raised

variable [DecidableEq WS] (lower : Text → Text) (m : ConnectionManager WS) (c : Nat)
  (address : Text) (ws : WS)

/-- The address has all the subscribers it may have. -/
def Crowded (m : ConnectionManager WS) (address : Text) : Prop :=
  MAX_SUBS_PER_ADDRESS ≤ (m.subscriptions.get address).card

/-- The connection has all the addresses it may have. -/
def Full (m : ConnectionManager WS) (c : Nat) : Prop :=
  MAX_ADDRESSES_PER_CONN ≤ (m.connAddresses.get c).card

instance (m : ConnectionManager WS) (address : Text) : Decidable (Crowded m address) :=
  inferInstanceAs (Decidable (_ ≤ _))

instance (m : ConnectionManager WS) (c : Nat) : Decidable (Full m c) :=
  inferInstanceAs (Decidable (_ ≤ _))

section Cases

variable {lower m c address}

theorem subscribe_of_crowded (crowded : Crowded m (lower address)) :
    ∃ message, m.subscribe lower c address ws = (.error (.ConnectionLimitExceeded message), m) := by
  have limit : (m.subscriptions.get (lower address)).card ≥ MAX_SUBS_PER_ADDRESS := crowded
  rw [ConnectionManager.subscribe]
  dsimp only
  rw [if_pos limit]
  exact ⟨_, rfl⟩

/-- The pair is filed before the connection is looked up. -/
theorem subscribe_of_unknown (room : ¬ Crowded m (lower address)) (unknown : c ∉ m.connAddresses) :
    m.subscribe lower c address ws =
      (.error (.KeyError c),
        { m with
          subscriptions := m.subscriptions.modify (lower address) (insert (ws, c)) }) := by
  have limit : ¬ (m.subscriptions.get (lower address)).card ≥ MAX_SUBS_PER_ADDRESS := room
  rw [ConnectionManager.subscribe]
  dsimp only
  rw [if_neg limit, Finmap.lookup_eq_none.mpr unknown]

theorem subscribe_of_full (room : ¬ Crowded m (lower address)) (known : c ∈ m.connAddresses)
    (full : Full m c) :
    ∃ message, m.subscribe lower c address ws = (.error (.ConnectionLimitExceeded message), m) := by
  obtain ⟨addresses, found⟩ := Finmap.mem_iff.mp known
  have limit : ¬ (m.subscriptions.get (lower address)).card ≥ MAX_SUBS_PER_ADDRESS := room
  have reached : addresses.card ≥ MAX_ADDRESSES_PER_CONN := by
    rw [← SetTable.get_of_lookup found]
    exact full
  rw [ConnectionManager.subscribe]
  dsimp only
  rw [if_neg limit, found]
  dsimp only
  rw [if_pos reached]
  exact ⟨_, rfl⟩

theorem subscribe_of_room (room : ¬ Crowded m (lower address)) (known : c ∈ m.connAddresses)
    (short : ¬ Full m c) :
    m.subscribe lower c address ws =
      (.ok (),
        { m with
          subscriptions := m.subscriptions.modify (lower address) (insert (ws, c))
          connAddresses := m.connAddresses.modify c (insert (lower address)) }) := by
  obtain ⟨addresses, found⟩ := Finmap.mem_iff.mp known
  have limit : ¬ (m.subscriptions.get (lower address)).card ≥ MAX_SUBS_PER_ADDRESS := room
  have set := SetTable.get_of_lookup found
  have notReached : ¬ addresses.card ≥ MAX_ADDRESSES_PER_CONN := by
    rw [← set]
    exact short
  rw [ConnectionManager.subscribe]
  dsimp only
  rw [if_neg limit, found]
  dsimp only
  rw [if_neg notReached, ← set]
  rfl

end Cases

/-- A failed call leaves a trace exactly if the connection is unknown and the pair is new. -/
theorem subscribe_failsUntouched_iff :
    FailsUntouched (m.subscribe lower c address ws) m ↔
      c ∈ m.connAddresses ∨ Crowded m (lower address) ∨
        (ws, c) ∈ m.subscriptions.get (lower address) := by
  by_cases crowded : Crowded m (lower address)
  · obtain ⟨message, call⟩ := subscribe_of_crowded (c := c) ws crowded
    rw [call]
    exact iff_of_true (fun _ _ => rfl) (Or.inr (Or.inl crowded))
  · by_cases known : c ∈ m.connAddresses
    · apply iff_of_true _ (Or.inl known)
      by_cases full : Full m c
      · obtain ⟨message, call⟩ := subscribe_of_full ws crowded known full
        rw [call]
        exact fun _ _ => rfl
      · rw [subscribe_of_room ws crowded known full]
        rintro e ⟨⟩
    · rw [subscribe_of_unknown ws crowded known, ← SetTable.modify_insert_eq_self_iff]
      constructor
      · intro untouched
        exact Or.inr (Or.inr (congrArg ConnectionManager.subscriptions (untouched _ rfl)))
      · rintro (found | full | same) e _
        · exact absurd found known
        · exact absurd full crowded
        · rw [same]

/-- Calls that raise leave every table as it was: every call of `connect`, and the calls of
`subscribe` for a connection that is known, an address that is full, or a pair that is
filed already. In a run of the tasks the pair of an unknown connection never is. -/
theorem calls_fail_untouched_iff {Event : Type} :
    (∀ (m : ConnectionManager WS) (accepted : Bool) (clientIp : Text),
      FailsUntouched (m.connect accepted clientIp) m) ∧
    (∀ (m : ConnectionManager WS) (c : Nat) (address : Text) (ws : WS),
      FailsUntouched (m.subscribe lower c address ws) m ↔
        c ∈ m.connAddresses ∨ Crowded m (lower address) ∨
          (ws, c) ∈ m.subscriptions.get (lower address)) ∧
    ∀ (w : World WS Event), Reachable lower w → ∀ (c : Nat) (address : Text) (ws : WS),
      FailsUntouched (w.manager.subscribe lower c address ws) w.manager ↔
        c ∈ w.manager.connAddresses ∨ Crowded w.manager (lower address) := by
  refine ⟨connect_failsUntouched, subscribe_failsUntouched_iff lower, ?_⟩
  intro w reached c address ws
  rw [subscribe_failsUntouched_iff]
  have mirrored := reached.consistent.mirrored
  constructor
  · rintro (known | crowded | filed)
    · exact Or.inl known
    · exact Or.inr crowded
    · have live := ((mirrored.mirror ws c (lower address)).mp filed).1
      exact Or.inl ((mirrored.keys c).mpr (Finmap.mem_of_lookup_eq_some live))
  · rintro (known | crowded)
    · exact Or.inl known
    · exact Or.inr (Or.inl crowded)

theorem calls_fail_untouched_iff_unknown :
    ¬ FailsUntouched ((World.initial : World Nat Unit).manager.subscribe id 0 ['9', 'f'] 7)
      (World.initial : World Nat Unit).manager := by
  rw [(calls_fail_untouched_iff id).2.2 (World.initial : World Nat Unit)
    Relation.ReflTransGen.refl]
  rintro (known | crowded)
  · exact Finmap.notMem_empty known
  · exact absurd crowded (by decide)

/-- No connection is known at the start, and yet a subscription is filed. -/
theorem subscribe_fails_touched :
    ¬ ∀ (w : World Nat Unit), Reachable id w → ∀ (c : Nat) (address : Text) (ws : Nat),
      FailsUntouched (w.manager.subscribe id c address ws) w.manager := by
  intro h
  have untouched := h World.initial Relation.ReflTransGen.refl 0 ['9', 'f'] 7
  obtain known | crowded | filed := (subscribe_failsUntouched_iff _ _ _ _ _).mp untouched
  · exact Finmap.notMem_empty known
  · exact absurd crowded (by decide)
  · exact absurd filed (by decide)

section Repeated

variable {lower m c address ws} {Event : Type} {w : World WS Event}

/-- The call succeeds and changes no table. -/
def ChangesNothing (call : Except ManagerError Unit × ConnectionManager WS)
    (m : ConnectionManager WS) : Prop :=
  call = (.ok (), m)

/-- A repeated subscription, in whatever case the address is written, is without effect
exactly if neither the address nor the connection has reached its limit. -/
theorem resubscribe_changesNothing_iff (reached : Reachable lower w) {address' : Text}
    (subscribed : (ws, c) ∈ w.manager.subscriptions.get (lower address))
    (same : lower address' = lower address) :
    ChangesNothing (w.manager.subscribe lower c address' ws) w.manager ↔
      ¬ Crowded w.manager (lower address) ∧ ¬ Full w.manager c := by
  have mirrored := reached.consistent.mirrored
  obtain ⟨live, filed⟩ := (mirrored.mirror ws c (lower address)).mp subscribed
  have known := (mirrored.keys c).mpr (Finmap.mem_of_lookup_eq_some live)
  rw [ChangesNothing, ← same]
  by_cases crowded : Crowded w.manager (lower address')
  · obtain ⟨message, call⟩ := subscribe_of_crowded (c := c) ws crowded
    rw [call]
    exact iff_of_false (by simp) fun h => h.1 crowded
  · by_cases full : Full w.manager c
    · obtain ⟨message, call⟩ := subscribe_of_full ws crowded known full
      rw [call]
      exact iff_of_false (by simp) fun h => h.2 full
    · rw [← same] at subscribed filed
      rw [subscribe_of_room ws crowded known full,
        SetTable.modify_insert_eq_self_iff.mpr subscribed,
        SetTable.modify_insert_eq_self_iff.mpr filed]
      exact iff_of_true rfl ⟨crowded, full⟩

/-- The websockets connect one after the other. -/
theorem reachable_connects (reached : Reachable lower w) (clients : List (WS × Text)) :
    Reachable lower (clients.foldl (fun w client => (w.connect client.1 true client.2).2) w) := by
  induction clients generalizing w with
  | nil => exact reached
  | cons client clients ih => exact ih (reached.tail (Step.connect _ _ _))

/-- Live connections subscribe one after the other. -/
theorem reachable_subscribes (reached : Reachable lower w) (address : Text)
    {live : List (Nat × WS)} (own : ∀ p ∈ live, w.sockets.lookup p.1 = some p.2) :
    Reachable lower
      (live.foldl (fun w p => (w.subscribe lower p.1 address p.2).2) w) := by
  induction live generalizing w with
  | nil => exact reached
  | cons p live ih =>
      apply ih (reached.tail (Step.subscribe address (own p List.mem_cons_self)))
      intro q hq
      exact own q (List.mem_cons_of_mem p hq)

/-- Ten clients from two addresses, each with its number as its websocket. -/
def connectedWorld : World Nat Unit :=
  ((List.range 10).map fun c : Nat =>
    (c, if c < 5 then "10.0.0.1".toList else "10.0.0.2".toList)).foldl
      (fun w client => (w.connect client.1 true client.2).2) World.initial

/-- The first `n` of them subscribe to one address. -/
def subscribedWorld (n : Nat) : World Nat Unit :=
  ((List.range n).map fun c => (c, c)).foldl
    (fun w p => (w.subscribe id p.1 ['9', 'f'] p.2).2) connectedWorld

theorem subscribedWorld_reachable {n : Nat} (h : n ≤ 10) :
    Reachable id (subscribedWorld n) := by
  apply @reachable_subscribes Nat _ id Unit
  · exact reachable_connects Relation.ReflTransGen.refl _
  · have own : ∀ c < 10, connectedWorld.sockets.lookup c = some c := by
      decide +kernel
    intro p hp
    obtain ⟨c, hc, rfl⟩ := List.mem_map.mp hp
    exact own c (Nat.lt_of_lt_of_le (List.mem_range.mp hc) h)

theorem resubscribe_changesNothing_iff_below :
    ChangesNothing ((subscribedWorld 9).manager.subscribe id 3 ['9', 'f'] 3)
      (subscribedWorld 9).manager := by
  apply (resubscribe_changesNothing_iff (subscribedWorld_reachable (by decide))
    (by decide +kernel) rfl).mpr
  decide +kernel

/-- With ten subscribers, each of them is refused when it subscribes again. -/
theorem resubscribe_refused :
    ¬ ∀ (w : World Nat Unit), Reachable id w → ∀ (c : Nat) (ws : Nat) (address address' : Text),
      (ws, c) ∈ w.manager.subscriptions.get (id address) → id address' = id address →
        ChangesNothing (w.manager.subscribe id c address' ws) w.manager := by
  intro h
  have reached := subscribedWorld_reachable (Nat.le_refl 10)
  have unchanged := h _ reached 3 3 ['9', 'f'] ['9', 'f'] (by decide +kernel) rfl
  have crowded : Crowded (subscribedWorld 10).manager (id ['9', 'f']) := by
    decide +kernel
  refine ((@resubscribe_changesNothing_iff Nat _ id 3 ['9', 'f'] 3 Unit _ reached ['9', 'f'] ?_
    rfl).mp unchanged).1 crowded
  decide +kernel

end Repeated

end DuckPools.Backend
