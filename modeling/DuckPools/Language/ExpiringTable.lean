import Mathlib.Data.List.Nodup
import Mathlib.Order.Lattice

/-!
# Tables whose entries expire

A list of entries, each with a key and the last time at which it is given out. A reader sees
the first entry of a key, unless it has expired. Entries of other keys and expired entries are
not seen, so taking them out changes nothing for the reader, the latter as long as no key has
two entries (`lookup_prune`).
-/

namespace DuckPools.ExpiringTable

variable {α κ τ : Type*}

theorem nodup_filter {key : α → κ} {table : List α} (distinct : (table.map key).Nodup)
    (p : α → Bool) : ((table.filter p).map key).Nodup :=
  distinct.sublist (List.filter_sublist.map key)

variable [DecidableEq κ] [LinearOrder τ]

section Operations

variable (key : α → κ) (expiry : α → τ)

def alive (now : τ) (entry : α) : Bool := decide (now ≤ expiry entry)

def lookup (now : τ) (k : κ) (table : List α) : Option α :=
  (table.find? fun entry => decide (key entry = k)).filter (alive expiry now)

def remove (k : κ) (table : List α) : List α := table.filter fun entry => decide (key entry ≠ k)

def put (entry : α) (table : List α) : List α := remove key (key entry) table ++ [entry]

def prune (now : τ) (table : List α) : List α := table.filter (alive expiry now)

end Operations

variable {key : α → κ} {expiry : α → τ} {now later : τ} {k k' : κ} {table : List α}

theorem lookup_cons (entry : α) (table : List α) :
    lookup key expiry now k (entry :: table) =
      if key entry = k then (some entry).filter (alive expiry now)
      else lookup key expiry now k table := by
  rw [lookup, List.find?_cons]
  by_cases same : key entry = k
  · rw [if_pos same, decide_eq_true same]
  · rw [if_neg same, decide_eq_false same]
    rfl

theorem lookup_eq_none (absent : k ∉ table.map key) : lookup key expiry now k table = none := by
  induction table with
  | nil => rfl
  | cons entry table ih =>
      rw [List.map_cons, List.mem_cons, not_or] at absent
      rw [lookup_cons, if_neg (Ne.symm absent.1), ih absent.2]

theorem lookup_remove_self : lookup key expiry now k (remove key k table) = none := by
  apply lookup_eq_none
  intro found
  obtain ⟨entry, mem, same⟩ := List.mem_map.mp found
  exact of_decide_eq_true (List.mem_filter.mp mem).2 same

theorem lookup_remove_of_ne (h : k' ≠ k) :
    lookup key expiry now k' (remove key k table) = lookup key expiry now k' table := by
  induction table with
  | nil => rfl
  | cons entry table ih =>
      rw [remove, List.filter_cons, lookup_cons]
      by_cases same : key entry = k
      · rw [if_neg (by simpa using same), if_neg (by rw [same]; exact Ne.symm h)]
        exact ih
      · rw [if_pos (by simpa using same), lookup_cons]
        split
        · rfl
        · exact ih

theorem lookup_append_singleton (absent : k ∉ table.map key) (entry : α) :
    lookup key expiry now k (table ++ [entry]) = lookup key expiry now k [entry] := by
  induction table with
  | nil => rfl
  | cons first table ih =>
      rw [List.map_cons, List.mem_cons, not_or] at absent
      rw [List.cons_append, lookup_cons, if_neg (Ne.symm absent.1), ih absent.2]

theorem notMem_remove : k ∉ (remove key k table).map key := by
  intro found
  obtain ⟨entry, mem, same⟩ := List.mem_map.mp found
  exact of_decide_eq_true (List.mem_filter.mp mem).2 same

theorem lookup_put_self (entry : α) (table : List α) :
    lookup key expiry now (key entry) (put key entry table) =
      if now ≤ expiry entry then some entry else none := by
  rw [put, lookup_append_singleton notMem_remove, lookup_cons, if_pos rfl, Option.filter_some,
    alive]
  simp only [decide_eq_true_eq]

theorem lookup_append_of_ne {entry : α} (h : key entry ≠ k) :
    lookup key expiry now k (table ++ [entry]) = lookup key expiry now k table := by
  induction table with
  | nil => rw [List.nil_append, lookup_cons, if_neg h]
  | cons first table ih => rw [List.cons_append, lookup_cons, lookup_cons, ih]

theorem lookup_put_of_ne {entry : α} (h : key entry ≠ k) :
    lookup key expiry now k (put key entry table) = lookup key expiry now k table := by
  rw [put, lookup_append_of_ne h, lookup_remove_of_ne (Ne.symm h)]

/-- What has expired before is not seen later. -/
theorem lookup_prune (distinct : (table.map key).Nodup) (le : now ≤ later) :
    lookup key expiry later k (prune expiry now table) = lookup key expiry later k table := by
  induction table with
  | nil => rfl
  | cons entry table ih =>
      rw [List.map_cons, List.nodup_cons] at distinct
      have rest := ih distinct.2
      rw [prune, List.filter_cons, lookup_cons]
      split
      · rw [lookup_cons]
        split
        · rfl
        · exact rest
      · next expired =>
          split
          · next same =>
              have dead : alive expiry later entry = false := by
                apply decide_eq_false
                intro h
                exact expired (decide_eq_true (le.trans h))
              rw [Option.filter_some, dead]
              exact rest.trans (lookup_eq_none (same ▸ distinct.1))
          · exact rest

/-- Entries are rewritten at their place. -/
theorem lookup_map {f : α → α} (sameKey : ∀ entry, key (f entry) = key entry)
    (sameExpiry : ∀ entry, expiry (f entry) = expiry entry) :
    lookup key expiry now k (table.map f) = (lookup key expiry now k table).map f := by
  induction table with
  | nil => rfl
  | cons entry table ih =>
      rw [List.map_cons, lookup_cons, lookup_cons, sameKey, ih]
      split
      · rw [Option.filter_some, Option.filter_some, alive, alive, sameExpiry]
        split <;> rfl
      · rfl

theorem mem_of_lookup {entry : α} (h : lookup key expiry now k table = some entry) :
    entry ∈ table ∧ now ≤ expiry entry := by
  obtain ⟨found, living⟩ := Option.filter_eq_some_iff.mp h
  exact ⟨List.mem_of_find?_eq_some found, of_decide_eq_true living⟩

theorem lookup_of_mem {entry : α} (distinct : (table.map key).Nodup) (mem : entry ∈ table)
    (living : now ≤ expiry entry) :
    lookup key expiry now (key entry) table = some entry := by
  induction table with
  | nil => cases mem
  | cons first table ih =>
      rw [List.map_cons, List.nodup_cons] at distinct
      rw [lookup_cons]
      cases List.mem_cons.mp mem with
      | inl same =>
          subst same
          rw [if_pos rfl, Option.filter_some, alive, decide_eq_true living]
          rfl
      | inr mem =>
          have other : key first ≠ key entry := by
            intro same
            rw [same] at distinct
            exact distinct.1 (List.mem_map_of_mem mem)
          rw [if_neg other]
          exact ih distinct.2 mem

theorem nodup_put (distinct : (table.map key).Nodup) (entry : α) :
    ((put key entry table).map key).Nodup := by
  rw [put, List.map_append, List.map_singleton]
  exact (nodup_filter distinct _).append (List.nodup_singleton _)
    (List.disjoint_singleton.mpr notMem_remove)

end DuckPools.ExpiringTable
