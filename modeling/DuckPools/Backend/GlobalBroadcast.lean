import DuckPools.Backend.SubscriptionTables

/-!
# One broadcast to everyone

A call of `broadcast_global` is followed from its snapshot to its return, with the steps of
all other tasks in between. The receivers are read off the subscriptions: every connection
that occurs there is taken once, with the websocket it subscribed with. A connection without
subscriptions is not found.

The clean-up takes from each connection whose send raised what it has subscribed to by then,
and changes nothing else.
-/

namespace DuckPools.Backend

variable {WS Event : Type} {lower : Text → Text} {w₀ w w' : World WS Event}
  {found : Finset (WS × Nat)}

/-- The ids of a list of receivers. -/
def ids (receivers : List (WS × Nat)) : List Nat := receivers.map Prod.snd

/-- The event went once to every connection there was at the snapshot, and the result is
their number. -/
def ReachesEveryone (w₀ : World WS Event) (sent : List (WS × Nat)) (result : Nat) : Prop :=
  (∀ c ∈ w₀.manager.connAddresses, (ids sent).count c = 1) ∧
    result = w₀.manager.connAddresses.keys.card

/-- The receivers that are found are the connections with a subscription, once each. -/
theorem Snapshot.mem_ids_iff (mirrored : Mirrored w₀.manager w₀.sockets)
    (snapshot : Snapshot lower w₀.manager none found) (c : Nat) :
    (∃ p ∈ found, p.2 = c) ↔ (w₀.manager.connAddresses.get c).Nonempty := by
  obtain ⟨within, complete, _⟩ := snapshot
  constructor
  · rintro ⟨p, hp, rfl⟩
    obtain ⟨a, filed⟩ := within p hp
    exact ⟨a, ((mirrored.mirror p.1 p.2 a).mp filed).2⟩
  · rintro ⟨a, subscribed⟩
    have known : c ∈ w₀.manager.connAddresses :=
      Finmap.mem_of_lookup_eq_some (SetTable.lookup_of_mem_get subscribed)
    obtain ⟨ws, live⟩ := Finmap.mem_iff.mp ((mirrored.keys c).mp known)
    obtain ⟨q, hq, same⟩ := complete a _ ((mirrored.mirror ws c a).mpr ⟨live, subscribed⟩)
    exact ⟨q, hq, same⟩

/-- These connections have lost their subscriptions, and no other entry has changed. -/
structure Unsubscribed (dead : List Nat) (m m' : ConnectionManager WS) : Prop where
  subscribers : ∀ a p, p ∈ m'.subscriptions.get a ↔ p ∈ m.subscriptions.get a ∧ p.2 ∉ dead
  addresses : ∀ c, m'.connAddresses.lookup c =
    if c ∈ dead then (m.connAddresses.lookup c).map fun _ => ∅ else m.connAddresses.lookup c

theorem Unsubscribed.nil (m : ConnectionManager WS) : Unsubscribed [] m m where
  subscribers a p := by simp
  addresses c := by simp

theorem Unsubscribed.cons {c : Nat} {dead : List Nat} {m m' m'' : ConnectionManager WS}
    (first : Unsubscribed [c] m m') (rest : Unsubscribed dead m' m'') :
    Unsubscribed (c :: dead) m m'' where
  subscribers a p := by
    rw [rest.subscribers, first.subscribers, List.mem_singleton, List.mem_cons, not_or, and_assoc]
  addresses c' := by
    rw [rest.addresses, first.addresses]
    by_cases same : c' = c
    · subst same
      rw [if_pos List.mem_cons_self, if_pos List.mem_cons_self]
      split
      · rw [Option.map_map]
        rfl
      · rfl
    · have other : c' ∉ [c] := by simpa using same
      rw [if_neg other]
      simp only [List.mem_cons, same, false_or]

variable [DecidableEq WS]

/-- The course of broadcast `i`, which found these receivers in `w₀`: the world it has come
to, the receivers it has sent to, and those whose send raised. -/
inductive Course (lower : Text → Text) (i : Nat) (event : Event) (w₀ : World WS Event)
    (found : Finset (WS × Nat)) :
    World WS Event → List (WS × Nat) → List (WS × Nat) → Prop
  | start (unused : i ∉ w₀.broadcasts) (snapshot : Snapshot lower w₀.manager none found) :
      Course lower i event w₀ found
        { w₀ with broadcasts := w₀.broadcasts.insert i ⟨none, event, found, 0, []⟩ } [] []
  | send {w : World WS Event} {sent failed : List (WS × Nat)} {b : Broadcast WS Event}
      {p : WS × Nat} (course : Course lower i event w₀ found w sent failed)
      (running : w.broadcasts.lookup i = some b) (waits : p ∈ b.pending) :
      Course lower i event w₀ found
        { w with
          broadcasts := w.broadcasts.insert i (b.delivered p)
          received := w.received ++ [(p.2, b.target, b.event)] } (sent ++ [p]) failed
  | sendRaises {w : World WS Event} {sent failed : List (WS × Nat)} {b : Broadcast WS Event}
      {p : WS × Nat} (course : Course lower i event w₀ found w sent failed)
      (running : w.broadcasts.lookup i = some b) (waits : p ∈ b.pending) :
      Course lower i event w₀ found
        { w with broadcasts := w.broadcasts.insert i (b.failed p) } sent (failed ++ [p])
  /-- A step of another task. -/
  | elsewhere {w w' : World WS Event} {sent failed : List (WS × Nat)}
      (course : Course lower i event w₀ found w sent failed) (step : Step lower w w')
      (other : w'.broadcasts.lookup i = w.broadcasts.lookup i) :
      Course lower i event w₀ found w' sent failed

/-- `broadcast_global(event)`, from its snapshot in `w₀` to its clean-up, which leads from
`w` to `w'`, and the number it returns. -/
inductive BroadcastGlobal (lower : Text → Text) (i : Nat) (event : Event)
    (w₀ : World WS Event) :
    List (WS × Nat) → List (WS × Nat) → World WS Event → Nat → World WS Event → Prop
  | returns {found : Finset (WS × Nat)} {w : World WS Event} {sent failed : List (WS × Nat)}
      {b : Broadcast WS Event} (course : Course lower i event w₀ found w sent failed)
      (running : w.broadcasts.lookup i = some b) (done : b.pending = ∅) :
      BroadcastGlobal lower i event w₀ sent failed w b.sent
        { w with
          manager := b.cleanUp lower w.manager
          broadcasts := w.broadcasts.erase i }

variable {i : Nat} {event : Event} {sent failed : List (WS × Nat)}

theorem Course.reachable (reached : Reachable lower w₀)
    (course : Course lower i event w₀ found w sent failed) : Reachable lower w := by
  induction course with
  | start unused snapshot =>
      exact reached.tail (Step.broadcast (BroadcastStep.start event unused snapshot))
  | send _ running waits ih => exact ih.tail (Step.broadcast (BroadcastStep.send running waits))
  | sendRaises _ running waits ih =>
      exact ih.tail (Step.broadcast (BroadcastStep.sendRaises running waits))
  | elsewhere _ step _ ih => exact ih.tail step

theorem Course.snapshot (course : Course lower i event w₀ found w sent failed) :
    Snapshot lower w₀.manager none found := by
  induction course with
  | start _ snapshot => exact snapshot
  | send _ _ _ ih => exact ih
  | sendRaises _ _ _ ih => exact ih
  | elsewhere _ _ _ ih => exact ih

/-- The variables of the call: whoever was found still waits, was sent to, or failed. -/
structure Progress (event : Event) (found : Finset (WS × Nat)) (sent failed : List (WS × Nat))
    (b : Broadcast WS Event) : Prop where
  target : b.target = none
  event : b.event = event
  count : b.sent = sent.length
  dead : b.dead = failed
  distinct : (sent ++ failed).Nodup
  pending : ∀ p, p ∈ b.pending ↔ p ∈ found ∧ p ∉ sent ++ failed
  within : ∀ p ∈ sent ++ failed, p ∈ found

/-- One receiver is done, whether the send returned or raised. -/
theorem Progress.next {b b' : Broadcast WS Event} {p : WS × Nat}
    {sent' failed' : List (WS × Nat)} (h : Progress event found sent failed b)
    (waits : p ∈ b.pending) (target : b'.target = b.target) (same : b'.event = b.event)
    (count : b'.sent = sent'.length) (dead : b'.dead = failed')
    (pending : b'.pending = b.pending.erase p)
    (one : (sent' ++ failed').Perm (p :: (sent ++ failed))) :
    Progress event found sent' failed' b' where
  target := target.trans h.target
  event := same.trans h.event
  count := count
  dead := dead
  distinct := by
    rw [one.nodup_iff, List.nodup_cons]
    exact ⟨((h.pending p).mp waits).2, h.distinct⟩
  pending q := by
    rw [pending, Finset.mem_erase, h.pending, one.mem_iff, List.mem_cons, not_or]
    exact and_left_comm
  within q hq := by
    cases List.mem_cons.mp (one.mem_iff.mp hq) with
    | inl same => exact same ▸ ((h.pending p).mp waits).1
    | inr earlier => exact h.within q earlier

theorem Course.progress (course : Course lower i event w₀ found w sent failed) :
    ∃ b, w.broadcasts.lookup i = some b ∧ Progress event found sent failed b := by
  induction course with
  | start unused snapshot =>
      refine ⟨_, Finmap.lookup_insert _, rfl, rfl, rfl, rfl, List.nodup_nil, ?_, ?_⟩
      · intro p
        simp
      · intro p hp
        exact absurd hp List.not_mem_nil
  | @send w sent failed b p _ running waits ih =>
      obtain ⟨b', running', progress⟩ := ih
      obtain rfl : b = b' := Option.some.inj (running.symm.trans running')
      refine ⟨_, Finmap.lookup_insert _, ?_⟩
      refine progress.next waits rfl rfl ?_ progress.dead rfl ?_
      · rw [List.length_append, ← progress.count]
        rfl
      · rw [List.append_assoc]
        exact List.perm_middle
  | @sendRaises w sent failed b p _ running waits ih =>
      obtain ⟨b', running', progress⟩ := ih
      obtain rfl : b = b' := Option.some.inj (running.symm.trans running')
      refine ⟨_, Finmap.lookup_insert _, ?_⟩
      refine progress.next waits rfl rfl progress.count ?_ rfl ?_
      · rw [← progress.dead]
        rfl
      · rw [← List.append_assoc]
        exact List.perm_append_singleton p _
  | elsewhere _ _ other ih =>
      obtain ⟨b, running, progress⟩ := ih
      exact ⟨b, other.trans running, progress⟩

/-- Messages that have arrived stay. -/
theorem Step.received (step : Step lower w w') : ∃ new, w'.received = w.received ++ new := by
  cases step with
  | connect ws accepted clientIp =>
      rw [World.connect]
      split
      · exact ⟨[], (List.append_nil _).symm⟩
      · exact ⟨[], (List.append_nil _).symm⟩
  | setOwner address live => exact ⟨[], (List.append_nil _).symm⟩
  | subscribe address own => exact ⟨[], (List.append_nil _).symm⟩
  | unsubscribe c address => exact ⟨[], (List.append_nil _).symm⟩
  | disconnect c => exact ⟨[], (List.append_nil _).symm⟩
  | broadcast step =>
      cases step with
      | start event unused snapshot => exact ⟨[], (List.append_nil _).symm⟩
      | send running waits => exact ⟨_, rfl⟩
      | sendRaises running waits => exact ⟨[], (List.append_nil _).symm⟩
      | finish running done => exact ⟨[], (List.append_nil _).symm⟩

/-- What was sent is among the messages that have arrived since the snapshot. -/
theorem Course.received (course : Course lower i event w₀ found w sent failed) :
    ∃ new, w.received = w₀.received ++ new ∧
      (sent.map fun p => (p.2, (none : Option Text), event)).Sublist new := by
  induction course with
  | start _ _ => exact ⟨[], (List.append_nil _).symm, List.Sublist.refl []⟩
  | @send w sent failed b p course running waits ih =>
      obtain ⟨new, arrived, sublist⟩ := ih
      obtain ⟨b', running', progress⟩ := course.progress
      obtain rfl : b = b' := Option.some.inj (running.symm.trans running')
      refine ⟨new ++ [(p.2, none, event)], ?_, ?_⟩
      · show w.received ++ [(p.2, b.target, b.event)] = _
        rw [arrived, progress.target, progress.event, List.append_assoc]
      · rw [List.map_append]
        exact sublist.append (List.Sublist.refl _)
  | sendRaises _ _ _ ih => exact ih
  | elsewhere _ step _ ih =>
      obtain ⟨new, arrived, sublist⟩ := ih
      obtain ⟨more, later⟩ := step.received
      refine ⟨new ++ more, ?_, sublist.trans (List.sublist_append_left new more)⟩
      rw [later, arrived, List.append_assoc]

theorem reachesEveryone_iff (reached : Reachable lower w₀) {result : Nat}
    (returned : BroadcastGlobal lower i event w₀ sent [] w result w') :
    ReachesEveryone w₀ sent result ↔
      ∀ c ∈ w₀.manager.connAddresses, (w₀.manager.connAddresses.get c).Nonempty := by
  obtain @⟨found, _, _, _, b, course, running, done⟩ := returned
  obtain ⟨b', running', progress⟩ := course.progress
  obtain rfl : b = b' := Option.some.inj (running.symm.trans running')
  have snapshot := course.snapshot
  have mirrored := reached.consistent.mirrored
  -- Nobody waits and nobody failed, so whoever was found was sent to.
  have all : ∀ p, p ∈ sent ↔ p ∈ found := by
    intro p
    constructor
    · intro hp
      exact progress.within p (List.mem_append_left _ hp)
    · intro hp
      by_contra missed
      have waits := (progress.pending p).mpr ⟨hp, by simpa using missed⟩
      rw [done] at waits
      exact Finset.notMem_empty p waits
  have member : ∀ c, c ∈ ids sent ↔ (w₀.manager.connAddresses.get c).Nonempty := by
    intro c
    rw [← snapshot.mem_ids_iff mirrored, ids, List.mem_map]
    simp only [all]
  have distinct : (ids sent).Nodup := by
    apply List.Nodup.map_on
    · intro p hp q hq same
      exact snapshot.2.2 p ((all p).mp hp) q ((all q).mp hq) same
    · simpa using progress.distinct
  have once : ∀ c, (ids sent).count c = 1 ↔ (w₀.manager.connAddresses.get c).Nonempty := by
    intro c
    rw [← member, distinct.count]
    split <;> simp_all
  constructor
  · rintro ⟨each, _⟩ c known
    exact (once c).mp (each c known)
  · intro subscribed
    refine ⟨fun c known => (once c).mpr (subscribed c known), ?_⟩
    have same : (ids sent).toFinset = w₀.manager.connAddresses.keys := by
      ext c
      rw [List.mem_toFinset, member, Finmap.mem_keys]
      constructor
      · rintro ⟨a, ha⟩
        exact Finmap.mem_of_lookup_eq_some (SetTable.lookup_of_mem_get ha)
      · exact subscribed c
    rw [← same, List.toFinset_card_of_nodup distinct, progress.count, ids, List.length_map]

section CleanUp

variable {m : ConnectionManager WS} {sockets : Dict Nat WS}

/-- One round. What the connection has subscribed to are keys of the other table. -/
theorem Mirrored.unsubscribed (h : Mirrored m sockets) {p : WS × Nat}
    (own : OwnOrGone sockets p) : Unsubscribed [p.2] m (m.discardEverywhere p) where
  subscribers a q := by
    rw [ConnectionManager.discardEverywhere, SetTable.get_removeAll, List.mem_singleton]
    by_cases ha : a ∈ m.subscriptions.keys
    · rw [if_pos ha, Finset.mem_filter]
      apply and_congr_right
      intro hq
      exact not_congr (h.eq_iff_of_mem own hq)
    · rw [if_neg ha]
      have none : m.subscriptions.get a = ∅ :=
        SetTable.get_of_lookup_none (Finmap.lookup_eq_none.mpr fun found =>
          ha (Finmap.mem_keys.mpr found))
      simp [none]
  addresses c := by
    rw [ConnectionManager.discardEverywhere, SetTable.adjust]
    cases found : m.connAddresses.lookup p.2 with
    | none =>
        dsimp only
        by_cases hc : c = p.2
        · rw [hc, found, if_pos List.mem_cons_self, Option.map_none]
        · rw [if_neg (by simpa using hc)]
    | some addresses =>
        dsimp only
        by_cases hc : c = p.2
        · rw [hc, Finmap.lookup_insert, found, if_pos List.mem_cons_self, Option.map_some]
          apply congrArg some
          apply Finset.sdiff_eq_empty_iff_subset.mpr
          intro a ha
          obtain ⟨ws, live⟩ :=
            Finmap.mem_iff.mp ((h.keys p.2).mp (Finmap.mem_of_lookup_eq_some found))
          have subscribed : a ∈ m.connAddresses.get p.2 := by
            rwa [SetTable.get_of_lookup found]
          have filed := (h.mirror ws p.2 a).mpr ⟨live, subscribed⟩
          exact Finmap.mem_keys.mpr
            (Finmap.mem_of_lookup_eq_some (SetTable.lookup_of_mem_get filed))
        · rw [Finmap.lookup_insert_of_ne _ hc, if_neg (by simpa using hc)]

theorem Mirrored.unsubscribed_cleanUpGlobal (h : Mirrored m sockets) {dead : List (WS × Nat)}
    (own : ∀ p ∈ dead, OwnOrGone sockets p) : Unsubscribed (ids dead) m (m.cleanUpGlobal dead) := by
  induction dead generalizing m with
  | nil => exact Unsubscribed.nil m
  | cons p dead ih =>
      have ownFirst := own p List.mem_cons_self
      apply (h.unsubscribed ownFirst).cons
      apply ih (h.discardEverywhere ownFirst)
      intro q hq
      exact own q (List.mem_cons_of_mem p hq)

/-- The effect of a clean-up on the whole world. -/
structure CleanedUp (failed : List Nat) (w w' : World WS Event) : Prop where
  tables : Unsubscribed failed w.manager w'.manager
  /-- An address whose subscribers are all kept is not touched, and no empty set is left. -/
  untouched : ∀ a, (∀ p ∈ w.manager.subscriptions.get a, p.2 ∉ failed) →
    w'.manager.subscriptions.lookup a = w.manager.subscriptions.lookup a
  noEmpty : w'.manager.subscriptions.NoEmpty
  accounts : SameAccounts w.manager w'.manager
  sockets : w'.sockets = w.sockets

theorem cleanedUp_of_returned (reached : Reachable lower w₀) {result : Nat}
    (returned : BroadcastGlobal lower i event w₀ sent failed w result w') :
    CleanedUp (ids failed) w w' := by
  obtain @⟨found, _, _, _, b, course, running, done⟩ := returned
  obtain ⟨b', running', progress⟩ := course.progress
  obtain rfl : b = b' := Option.some.inj (running.symm.trans running')
  have consistent := (course.reachable reached).consistent
  have own : ∀ p ∈ b.dead, OwnOrGone w.sockets p := fun p hp =>
    (consistent.receivers i b running p (Or.inr hp)).2
  have tables : Unsubscribed (ids failed) w.manager (b.cleanUp lower w.manager) := by
    rw [Broadcast.cleanUp, progress.target, ← progress.dead]
    split
    · rename_i empty
      rw [List.isEmpty_iff.mp empty]
      exact Unsubscribed.nil w.manager
    · exact consistent.mirrored.unsubscribed_cleanUpGlobal own
  have noEmpty := noEmpty_cleanUp consistent.noEmpty lower b
  refine ⟨tables, ?_, noEmpty, sameAccounts_cleanUp lower b w.manager, rfl⟩
  intro a kept
  have same : (b.cleanUp lower w.manager).subscriptions.get a =
      w.manager.subscriptions.get a := by
    ext p
    rw [tables.subscribers]
    exact and_iff_left_of_imp (kept p)
  exact noEmpty.lookup_congr consistent.noEmpty same

end CleanUp

/-- A broadcast to everyone reaches every connection once exactly if every connection has a
subscription when the snapshot is taken. What it has sent has arrived. The connections whose
send raised, and only they, lose their subscriptions. -/
theorem broadcast_global_reaches_iff (reached : Reachable lower w₀) {result : Nat}
    (returned : BroadcastGlobal lower i event w₀ sent failed w result w') :
    (failed = [] →
      (ReachesEveryone w₀ sent result ↔
        ∀ c ∈ w₀.manager.connAddresses, (w₀.manager.connAddresses.get c).Nonempty)) ∧
    (∃ new, w.received = w₀.received ++ new ∧
      (sent.map fun p => (p.2, (none : Option Text), event)).Sublist new) ∧
    CleanedUp (ids failed) w w' := by
  refine ⟨?_, ?_, cleanedUp_of_returned reached returned⟩
  · rintro rfl
    exact reachesEveryone_iff reached returned
  · obtain @⟨_, _, _, _, _, course, _, _⟩ := returned
    exact course.received

/-- One client has connected and has not subscribed. -/
def quietWorld : World Nat Unit :=
  ((World.initial : World Nat Unit).connect 7 true ['1']).2

theorem quietWorld_reachable : Reachable id quietWorld :=
  Relation.ReflTransGen.single (Step.connect _ _ _)

/-- A broadcast to everyone then finds no receiver and returns. -/
theorem quietWorld_returned :
    ∃ w w' : World Nat Unit, BroadcastGlobal id 0 () quietWorld [] [] w 0 w' := by
  have found : Snapshot id quietWorld.manager none ∅ := by
    refine ⟨?_, ?_, ?_⟩
    · intro p hp
      exact absurd hp (Finset.notMem_empty p)
    · intro a p hp
      have none : quietWorld.manager.subscriptions.get a = ∅ := SetTable.get_empty a
      rw [none] at hp
      exact absurd hp (Finset.notMem_empty p)
    · intro p hp
      exact absurd hp (Finset.notMem_empty p)
  have course := @Course.start Nat Unit _ id 0 () quietWorld ∅ Finmap.notMem_empty found
  exact ⟨_, _, BroadcastGlobal.returns course (Finmap.lookup_insert _) rfl⟩

theorem broadcast_global_reaches_iff_quiet : ¬ ReachesEveryone quietWorld [] 0 := by
  obtain ⟨w, w', returned⟩ := quietWorld_returned
  rw [(broadcast_global_reaches_iff quietWorld_reachable returned).1 rfl]
  intro subscribed
  exact absurd (subscribed 0 (by decide)) (by decide)

/-- The client is connected, and the broadcast goes to nobody. -/
theorem broadcast_global_misses_quiet :
    ¬ ∀ (w₀ w w' : World Nat Unit) (sent : List (Nat × Nat)) (result : Nat),
      Reachable id w₀ → BroadcastGlobal id 0 () w₀ sent [] w result w' →
        ReachesEveryone w₀ sent result := by
  intro h
  obtain ⟨w, w', returned⟩ := quietWorld_returned
  have reaches := h quietWorld w w' [] 0 quietWorld_reachable returned
  exact absurd (reaches.1 0 (by decide)) (by decide)

end DuckPools.Backend
