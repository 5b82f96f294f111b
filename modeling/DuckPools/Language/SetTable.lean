import Mathlib.Combinatorics.Enumerative.DoubleCounting
import Mathlib.Data.Finmap
import Mathlib.Data.Finset.Card
import Mathlib.Data.Multiset.Fold

/-!
# Dictionaries of sets

A dictionary whose missing keys stand for the empty set, as an index from keys to the
members filed under them. Changing the set of a key creates the key; pruning deletes a key
that is left with the empty set. What a reader sees of the index is `get`, and both
operations are described by it alone: pruning is not seen at all.

`NoEmpty` says that a key is there exactly if its set has members. It is restored by
pruning the keys whose sets may have become empty, so code that changes one key and then
prunes it keeps it, whatever the change.
-/

namespace DuckPools

/-- A dictionary, without an order of its keys. -/
abbrev Dict (κ ν : Type*) := Finmap fun _ : κ => ν

/-- Entries that are looked up behind an `insert`. -/
theorem Dict.lookup_insert_cases {κ ν : Type*} [DecidableEq κ] {t : Dict κ ν} {i j : κ} {v v' : ν}
    (found : Finmap.lookup j (t.insert i v) = some v') :
    (j = i ∧ v' = v) ∨ (j ≠ i ∧ t.lookup j = some v') := by
  by_cases hj : j = i
  · subst hj
    rw [Finmap.lookup_insert, Option.some.injEq] at found
    exact Or.inl ⟨rfl, found.symm⟩
  · rw [Finmap.lookup_insert_of_ne _ hj] at found
    exact Or.inr ⟨hj, found⟩

theorem Dict.keys_insert {κ ν : Type*} [DecidableEq κ] (t : Dict κ ν) (k : κ) (v : ν) :
    Finmap.keys (t.insert k v) = insert k (Finmap.keys t) := by
  ext k'
  rw [Finmap.mem_keys, Finmap.mem_insert, Finset.mem_insert, Finmap.mem_keys]

theorem Dict.keys_insert_of_mem {κ ν : Type*} [DecidableEq κ] {t : Dict κ ν} {k : κ}
    (mem : k ∈ t) (v : ν) : Finmap.keys (t.insert k v) = Finmap.keys t := by
  rw [Dict.keys_insert]
  exact Finset.insert_eq_of_mem (Finmap.mem_keys.mpr mem)

/-- Writing what is there already. -/
theorem Dict.insert_eq_self {κ ν : Type*} [DecidableEq κ] {t : Dict κ ν} {k : κ} {v : ν}
    (found : t.lookup k = some v) : t.insert k v = t := by
  apply Finmap.ext_lookup
  intro k'
  by_cases h : k' = k
  · rw [h, Finmap.lookup_insert, found]
  · rw [Finmap.lookup_insert_of_ne t h]

section Fill

variable {κ ν ε : Type*} [DecidableEq κ] (key : ε → κ) (value : ε → ν)

/-- A loop that writes one key for each item leaves the other keys alone. -/
theorem Dict.lookup_fill_of_notMem {items : List ε} {k : κ} (h : k ∉ items.map key)
    (t : Dict κ ν) :
    Finmap.lookup k (items.foldl (fun t item => t.insert (key item) (value item)) t) =
      t.lookup k := by
  induction items generalizing t with
  | nil => rfl
  | cons item items ih =>
      rw [List.map_cons, List.mem_cons, not_or] at h
      rw [List.foldl_cons, ih h.2, Finmap.lookup_insert_of_ne t h.1]

theorem Dict.lookup_fill {items : List ε} (distinct : (items.map key).Nodup) {item : ε}
    (h : item ∈ items) (t : Dict κ ν) :
    Finmap.lookup (key item) (items.foldl (fun t item => t.insert (key item) (value item)) t) =
      some (value item) := by
  induction items generalizing t with
  | nil => cases h
  | cons first items ih =>
      rw [List.map_cons, List.nodup_cons] at distinct
      rw [List.foldl_cons]
      obtain rfl | later := List.mem_cons.mp h
      · rw [Dict.lookup_fill_of_notMem key value distinct.1, Finmap.lookup_insert]
      · exact ih distinct.2 later _

end Fill

abbrev SetTable (κ α : Type*) := Dict κ (Finset α)

namespace SetTable

variable {κ α : Type*} [DecidableEq κ]

/-- The set of a key, empty if the key is missing. -/
def get (t : SetTable κ α) (k : κ) : Finset α := (t.lookup k).getD ∅

/-- The set of the key is changed in place, the key created if it is missing. -/
def modify (t : SetTable κ α) (k : κ) (f : Finset α → Finset α) : SetTable κ α :=
  t.insert k (f (t.get k))

/-- The key is deleted if its set is empty. -/
def prune [DecidableEq α] (t : SetTable κ α) (k : κ) : SetTable κ α :=
  if t.lookup k = some ∅ then t.erase k else t

/-- The set of the key is changed if the key is there. -/
def adjust (t : SetTable κ α) (k : κ) (f : Finset α → Finset α) : SetTable κ α :=
  match t.lookup k with
  | some s => t.insert k (f s)
  | none => t

/-- No key has an empty set. -/
def NoEmpty (t : SetTable κ α) : Prop := ∀ k, t.lookup k ≠ some ∅

theorem get_of_lookup {t : SetTable κ α} {k : κ} {s : Finset α} (h : t.lookup k = some s) :
    t.get k = s := by
  rw [get, h]
  rfl

theorem get_of_lookup_none {t : SetTable κ α} {k : κ} (h : t.lookup k = none) :
    t.get k = ∅ := by
  rw [get, h]
  rfl

@[simp] theorem get_empty (k : κ) : (∅ : SetTable κ α).get k = ∅ :=
  get_of_lookup_none (Finmap.lookup_empty k)

theorem get_insert (t : SetTable κ α) (k k' : κ) (s : Finset α) :
    SetTable.get (t.insert k s) k' = if k' = k then s else t.get k' := by
  by_cases h : k' = k
  · subst h
    rw [if_pos rfl, get_of_lookup (Finmap.lookup_insert t)]
  · rw [if_neg h, get, get, Finmap.lookup_insert_of_ne t h]

theorem get_erase (t : SetTable κ α) (k k' : κ) :
    SetTable.get (t.erase k) k' = if k' = k then ∅ else t.get k' := by
  by_cases h : k' = k
  · subst h
    rw [if_pos rfl, get_of_lookup_none (Finmap.lookup_erase k' t)]
  · rw [if_neg h, get, get, Finmap.lookup_erase_ne h]

theorem get_modify (t : SetTable κ α) (k k' : κ) (f : Finset α → Finset α) :
    (t.modify k f).get k' = if k' = k then f (t.get k) else t.get k' :=
  get_insert t k k' _

theorem mem_adjust {t : SetTable κ α} {k k' : κ} {f : Finset α → Finset α} :
    k' ∈ t.adjust k f ↔ k' ∈ t := by
  rw [adjust]
  split
  · rename_i s hk
    rw [Finmap.mem_insert]
    constructor
    · rintro (rfl | h)
      · exact Finmap.mem_of_lookup_eq_some hk
      · exact h
    · exact Or.inr
  · exact Iff.rfl

theorem keys_adjust (t : SetTable κ α) (k : κ) (f : Finset α → Finset α) :
    (t.adjust k f).keys = t.keys := by
  ext k'
  rw [Finmap.mem_keys, mem_adjust, Finmap.mem_keys]

/-- A change that adds nothing is not seen at missing keys. -/
theorem get_adjust {f : Finset α → Finset α} (hf : f ∅ = ∅) (t : SetTable κ α) (k k' : κ) :
    (t.adjust k f).get k' = if k' = k then f (t.get k') else t.get k' := by
  rw [adjust]
  split
  · rename_i s hk
    rw [get_insert]
    split
    · rename_i heq
      rw [heq, get_of_lookup hk]
    · rfl
  · rename_i hk
    split
    · rename_i heq
      rw [heq, get_of_lookup_none hk, hf]
    · rfl

/-- A change that takes members away takes none from elsewhere. -/
theorem get_adjust_subset {f : Finset α → Finset α} (hf : ∀ s, f s ⊆ s) (t : SetTable κ α)
    (k k' : κ) : (t.adjust k f).get k' ⊆ t.get k' := by
  rw [get_adjust (Finset.subset_empty.mp (hf ∅))]
  split
  · exact hf _
  · exact Finset.Subset.refl _

theorem NoEmpty.empty : NoEmpty (∅ : SetTable κ α) := by
  intro k h
  rw [Finmap.lookup_empty] at h
  cases h

/-- Under `NoEmpty`, a key is missing exactly if it has no members. -/
theorem NoEmpty.lookup_eq_none_iff {t : SetTable κ α} (h : t.NoEmpty) (k : κ) :
    t.lookup k = none ↔ t.get k = ∅ := by
  constructor
  · exact get_of_lookup_none
  · intro hget
    cases hk : t.lookup k with
    | none => rfl
    | some s =>
        rw [get_of_lookup hk] at hget
        subst hget
        exact absurd hk (h k)

theorem NoEmpty.mem_iff {t : SetTable κ α} (h : t.NoEmpty) (k : κ) :
    k ∈ t ↔ (t.get k).Nonempty := by
  rw [Finset.nonempty_iff_ne_empty, ne_eq, ← h.lookup_eq_none_iff, Finmap.lookup_eq_none, not_not]

/-- Without empty sets, what is looked up is what is seen. -/
theorem NoEmpty.lookup_congr {s t : SetTable κ α} (hs : s.NoEmpty) (ht : t.NoEmpty) {k : κ}
    (same : s.get k = t.get k) : s.lookup k = t.lookup k := by
  cases found : t.lookup k with
  | none =>
      rw [hs.lookup_eq_none_iff, same]
      exact get_of_lookup_none found
  | some v =>
      have seen := get_of_lookup found
      cases found' : s.lookup k with
      | none =>
          rw [get_of_lookup_none found', seen] at same
          exact absurd (same ▸ found) (ht k)
      | some v' =>
          rw [get_of_lookup found', seen] at same
          rw [same]

theorem lookup_modify_of_ne (t : SetTable κ α) {k k' : κ} (f : Finset α → Finset α)
    (h : k' ≠ k) : (t.modify k f).lookup k' = t.lookup k' :=
  Finmap.lookup_insert_of_ne t h

theorem lookup_of_mem_get {t : SetTable κ α} {k : κ} {a : α} (h : a ∈ t.get k) :
    t.lookup k = some (t.get k) := by
  cases found : t.lookup k with
  | none =>
      rw [get_of_lookup_none found] at h
      exact absurd h (Finset.notMem_empty a)
  | some s => rw [get_of_lookup found]

variable [DecidableEq α]

@[simp] theorem get_prune (t : SetTable κ α) (k k' : κ) : (t.prune k).get k' = t.get k' := by
  rw [prune]
  split
  · rename_i hk
    rw [get_erase]
    split
    · rename_i heq
      rw [heq, get_of_lookup hk]
    · rfl
  · rfl

theorem lookup_prune_of_ne (t : SetTable κ α) {k k' : κ} (h : k' ≠ k) :
    (t.prune k).lookup k' = t.lookup k' := by
  rw [prune]
  split
  · exact Finmap.lookup_erase_ne h
  · rfl

theorem lookup_prune_self_ne (t : SetTable κ α) (k : κ) : (t.prune k).lookup k ≠ some ∅ := by
  rw [prune]
  split
  · rw [Finmap.lookup_erase]
    intro h
    cases h
  · assumption

/-- Pruning repairs the one key that may be empty. -/
theorem NoEmpty.prune_of_others {t : SetTable κ α} {k : κ}
    (h : ∀ k', k' ≠ k → t.lookup k' ≠ some ∅) : NoEmpty (t.prune k) := by
  intro k'
  by_cases hk : k' = k
  · subst hk
    exact lookup_prune_self_ne t k'
  · rw [lookup_prune_of_ne t hk]
    exact h k' hk

theorem NoEmpty.prune_modify {t : SetTable κ α} (h : t.NoEmpty) (k : κ)
    (f : Finset α → Finset α) : NoEmpty ((t.modify k f).prune k) := by
  apply NoEmpty.prune_of_others
  intro k' hk
  rw [lookup_modify_of_ne t f hk]
  exact h k'

/-- A member that is added leaves nothing empty. -/
theorem NoEmpty.add {t : SetTable κ α} (h : t.NoEmpty) (k : κ) (a : α) :
    NoEmpty (t.modify k (insert a)) := by
  intro k'
  by_cases hk : k' = k
  · subst hk
    rw [modify, Finmap.lookup_insert]
    intro he
    exact Finset.insert_ne_empty a _ (Option.some.inj he)
  · rw [lookup_modify_of_ne t _ hk]
    exact h k'

/-- A member that is added is seen, unless it was there. -/
theorem modify_insert_eq_self_iff {t : SetTable κ α} {k : κ} {a : α} :
    t.modify k (insert a) = t ↔ a ∈ t.get k := by
  constructor
  · intro h
    rw [← h, get_modify, if_pos rfl]
    exact Finset.mem_insert_self a _
  · intro h
    rw [modify, Finset.insert_eq_of_mem h]
    exact Dict.insert_eq_self (lookup_of_mem_get h)

/-- The members of a key that satisfy `p` are dropped, the key with the last of them. -/
def remove (p : α → Prop) [DecidablePred p] (t : SetTable κ α) (k : κ) : SetTable κ α :=
  (t.modify k fun s => s \ s.filter p).prune k

theorem get_remove (t : SetTable κ α) (p : α → Prop) [DecidablePred p] (k k' : κ) :
    (t.remove p k).get k' = if k' = k then (t.get k').filter (¬ p ·) else t.get k' := by
  rw [remove, get_prune, get_modify]
  split
  · rename_i h
    rw [h, ← Finset.filter_not]
  · rfl

theorem NoEmpty.remove {t : SetTable κ α} (h : t.NoEmpty) (p : α → Prop) [DecidablePred p]
    (k : κ) : NoEmpty (t.remove p k) := h.prune_modify k _

theorem lookup_remove_of_ne (t : SetTable κ α) (p : α → Prop) [DecidablePred p] {k k' : κ}
    (h : k' ≠ k) : (t.remove p k).lookup k' = t.lookup k' := by
  rw [SetTable.remove, lookup_prune_of_ne _ h, lookup_modify_of_ne t _ h]

/-- What a removal leaves at its own key depends on the set of that key only. -/
theorem lookup_remove_self {s t : SetTable κ α} (p : α → Prop) [DecidablePred p] {k : κ}
    (h : s.lookup k = t.lookup k) : (s.remove p k).lookup k = (t.remove p k).lookup k := by
  have same : s.get k = t.get k := by
    rw [get, get, h]
  simp only [SetTable.remove, modify, prune, same, Finmap.lookup_insert]
  split
  · rw [Finmap.lookup_erase, Finmap.lookup_erase]
  · rw [Finmap.lookup_insert, Finmap.lookup_insert]

/-- The order in which keys are visited does not matter. -/
instance (p : α → Prop) [DecidablePred p] :
    RightCommutative (remove p : SetTable κ α → κ → SetTable κ α) where
  right_comm t j k := by
    by_cases hjk : j = k
    · rw [hjk]
    apply Finmap.ext_lookup
    intro i
    by_cases hi : i = j
    · subst hi
      rw [lookup_remove_of_ne _ p hjk]
      exact (lookup_remove_self p (lookup_remove_of_ne t p hjk)).symm
    · by_cases hi' : i = k
      · subst hi'
        rw [lookup_remove_of_ne (t.remove p i) p hi]
        exact lookup_remove_self p (lookup_remove_of_ne t p hi)
      · rw [lookup_remove_of_ne _ p hi', lookup_remove_of_ne _ p hi, lookup_remove_of_ne _ p hi,
          lookup_remove_of_ne _ p hi']

/-- The members that satisfy `p` are dropped from the sets of all `keys`. -/
def removeAll (t : SetTable κ α) (p : α → Prop) [DecidablePred p] (keys : Finset κ) :
    SetTable κ α :=
  keys.val.foldl (remove p) t

theorem get_removeAll (t : SetTable κ α) (p : α → Prop) [DecidablePred p] (keys : Finset κ)
    (k : κ) :
    (t.removeAll p keys).get k = if k ∈ keys then (t.get k).filter (¬ p ·) else t.get k := by
  have fold : ∀ (m : Multiset κ) (t : SetTable κ α),
      SetTable.get (m.foldl (remove p) t) k =
        if k ∈ m then (t.get k).filter (¬ p ·) else t.get k := by
    intro m
    induction m using Multiset.induction with
    | empty => intro t; simp
    | cons j m ih =>
        intro t
        rw [Multiset.foldl_cons, ih, get_remove]
        by_cases hj : k = j
        · rw [if_pos (Multiset.mem_cons.mpr (Or.inl hj)), if_pos hj]
          split
          · simp only [Finset.filter_filter, and_self]
          · rfl
        · by_cases hm : k ∈ m
          · rw [if_pos (Multiset.mem_cons_of_mem hm), if_pos hm, if_neg hj]
          · rw [if_neg (fun h => (Multiset.mem_cons.mp h).elim hj hm), if_neg hm, if_neg hj]
  exact fold keys.val t

theorem NoEmpty.removeAll {t : SetTable κ α} (h : t.NoEmpty) (p : α → Prop) [DecidablePred p]
    (keys : Finset κ) : NoEmpty (t.removeAll p keys) := by
  have fold : ∀ (m : Multiset κ) (t : SetTable κ α), t.NoEmpty →
      NoEmpty (m.foldl (SetTable.remove p) t) := by
    intro m
    induction m using Multiset.induction with
    | empty => intro t h; exact h
    | cons j m ih =>
        intro t h
        rw [Multiset.foldl_cons]
        exact ih _ (h.remove p j)
  exact fold keys.val t h

section Total

variable {α β : Type*} (t : SetTable κ α)

/-- How many members are filed under all keys. -/
def total : Nat := ∑ k ∈ t.keys, (t.get k).card

variable {t}

theorem mem_keys_of_mem_get {k : κ} {a : α} (h : a ∈ t.get k) : k ∈ t.keys :=
  Finmap.mem_keys.mpr (Finmap.mem_of_lookup_eq_some (lookup_of_mem_get h))

theorem NoEmpty.card_keys_le_total (h : t.NoEmpty) : t.keys.card ≤ t.total := by
  rw [Finset.card_eq_sum_ones]
  apply Finset.sum_le_sum
  intro k hk
  exact Finset.card_pos.mpr ((h.mem_iff k).mp (Finmap.mem_keys.mp hk))

/-- Two tables that file the same pairs, one by key and the other one by the name of the
member, file equally many. -/
theorem total_eq_of_mirror [DecidableEq β] {u : SetTable β κ} (name : α → β)
    (named : ∀ k, Set.InjOn name (t.get k))
    (mirror : ∀ k b, (∃ a ∈ t.get k, name a = b) ↔ k ∈ u.get b) : t.total = u.total := by
  have rows : ∀ k ∈ t.keys,
      (t.get k).card = (u.keys.bipartiteAbove (fun k b => k ∈ u.get b) k).card := by
    intro k _
    rw [← Finset.card_image_of_injOn (named k)]
    congr 1
    ext b
    simp only [Finset.mem_image, Finset.mem_bipartiteAbove, mirror]
    exact ⟨fun h => ⟨mem_keys_of_mem_get h, h⟩, And.right⟩
  have columns : ∀ b ∈ u.keys,
      (t.keys.bipartiteBelow (fun k b => k ∈ u.get b) b).card = (u.get b).card := by
    intro b _
    congr 1
    ext k
    simp only [Finset.mem_bipartiteBelow]
    refine ⟨And.right, fun h => ⟨?_, h⟩⟩
    obtain ⟨a, ha, -⟩ := (mirror k b).mpr h
    exact mem_keys_of_mem_get ha
  calc t.total = ∑ k ∈ t.keys, (u.keys.bipartiteAbove (fun k b => k ∈ u.get b) k).card :=
        Finset.sum_congr rfl rows
    _ = ∑ b ∈ u.keys, (t.keys.bipartiteBelow (fun k b => k ∈ u.get b) b).card :=
        Finset.sum_card_bipartiteAbove_eq_sum_card_bipartiteBelow _
    _ = u.total := Finset.sum_congr rfl columns

end Total

end SetTable
end DuckPools
