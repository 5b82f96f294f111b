import Mathlib.Algebra.BigOperators.Group.List.Basic
import Mathlib.Algebra.GroupWithZero.Nat
import Mathlib.Data.Fintype.EquivFin
import Mathlib.Data.List.Nodup

/-!
# Coins that are spent once

A ledger of unspent coins. A transfer takes coins out of it and puts new ones in. Coins carry
names, and a name is given once: the ledger remembers the names of all coins there have been,
so a coin that was spent never comes back.

The rules of the ledger are what `Allows` asks of a transfer. That they keep the names apart
(`Sound`), that what is gone stays gone and that what coins weigh is only changed by what is
taken and put in follows from them, one transfer at a time.
-/

namespace DuckPools

/-- Unspent coins, and the names given so far. -/
structure Utxo (Name Coin : Type) where
  unspent : List Coin
  created : List Name

/-- The coins taken and the coins put in. -/
structure Transfer (Coin : Type) where
  inputs : List Coin
  outputs : List Coin

namespace Utxo

variable {Name Coin : Type} [DecidableEq Name] (name : Coin → Name)

def apply (u : Utxo Name Coin) (t : Transfer Coin) : Utxo Name Coin where
  unspent := u.unspent.filter (fun c => name c ∉ t.inputs.map name) ++ t.outputs
  created := u.created ++ t.outputs.map name

/-- The transfer takes distinct unspent coins and puts in coins with new names. -/
structure Allows (u : Utxo Name Coin) (t : Transfer Coin) : Prop where
  inputs : ∀ c ∈ t.inputs, c ∈ u.unspent
  once : (t.inputs.map name).Nodup
  fresh : ∀ c ∈ t.outputs, name c ∉ u.created
  distinct : (t.outputs.map name).Nodup

/-- Unspent coins have names of their own, and these have been given. -/
structure Sound (u : Utxo Name Coin) : Prop where
  named : ∀ c ∈ u.unspent, name c ∈ u.created
  distinct : (u.unspent.map name).Nodup

variable {name} {u : Utxo Name Coin} {t : Transfer Coin} {c d : Coin}

omit [DecidableEq Name] in
theorem Sound.eq_of_name (h : u.Sound name) (hc : c ∈ u.unspent) (hd : d ∈ u.unspent)
    (same : name c = name d) : c = d :=
  List.inj_on_of_nodup_map h.distinct hc hd same

omit [DecidableEq Name] in
/-- A coin with the name of an input is that input. -/
theorem Sound.name_mem_inputs_iff (h : u.Sound name) (allowed : u.Allows name t)
    (hc : c ∈ u.unspent) : name c ∈ t.inputs.map name ↔ c ∈ t.inputs := by
  constructor
  · intro taken
    obtain ⟨d, hd, same⟩ := List.mem_map.mp taken
    obtain rfl := h.eq_of_name (allowed.inputs d hd) hc same
    exact hd
  · exact List.mem_map_of_mem

theorem Sound.mem_apply_iff (h : u.Sound name) (allowed : u.Allows name t) :
    c ∈ (u.apply name t).unspent ↔ (c ∈ u.unspent ∧ c ∉ t.inputs) ∨ c ∈ t.outputs := by
  simp only [apply, List.mem_append, List.mem_filter, decide_eq_true_eq]
  apply or_congr_left
  apply and_congr_right
  intro hc
  exact not_congr (h.name_mem_inputs_iff allowed hc)

theorem Sound.apply (h : u.Sound name) (allowed : u.Allows name t) :
    (u.apply name t).Sound name where
  named := by
    intro c hc
    obtain ⟨hc, _⟩ | hc := (h.mem_apply_iff allowed).mp hc
    · exact List.mem_append_left _ (h.named c hc)
    · exact List.mem_append_right _ (List.mem_map_of_mem hc)
  distinct := by
    have kept : ((u.unspent.filter fun c => name c ∉ t.inputs.map name).map name).Nodup :=
      h.distinct.sublist (List.filter_sublist.map name)
    simp only [Utxo.apply, List.map_append]
    apply List.Nodup.append kept allowed.distinct
    intro n old new
    obtain ⟨c, hc, rfl⟩ := List.mem_map.mp old
    obtain ⟨d, hd, same⟩ := List.mem_map.mp new
    exact allowed.fresh d hd (same ▸ h.named c (List.mem_of_mem_filter hc))

/-- There are names that have not been given. -/
theorem exists_fresh [Infinite Name] (names : List Name) :
    ∃ m n, m ∉ names ∧ n ∉ names ∧ m ≠ n := by
  obtain ⟨m, hm⟩ := Infinite.exists_notMem_finset names.toFinset
  obtain ⟨n, hn⟩ := Infinite.exists_notMem_finset (insert m names.toFinset)
  simp only [Finset.mem_insert, List.mem_toFinset, not_or] at hm hn
  exact ⟨m, n, hm, hn.2, fun same => hn.1 same.symm⟩

/-- A name that has been given and that no unspent coin has. -/
def Gone (name : Coin → Name) (u : Utxo Name Coin) (n : Name) : Prop :=
  n ∈ u.created ∧ n ∉ u.unspent.map name

omit [DecidableEq Name] in
theorem Gone.not_mem (gone : u.Gone name (name c)) : c ∉ u.unspent :=
  fun hc => gone.2 (List.mem_map_of_mem hc)

/-- The name of an input is gone after the transfer. -/
theorem Sound.gone_of_mem_inputs (h : u.Sound name) (allowed : u.Allows name t)
    (hc : c ∈ t.inputs) : (u.apply name t).Gone name (name c) := by
  have given := h.named c (allowed.inputs c hc)
  refine ⟨List.mem_append_left _ given, ?_⟩
  intro back
  obtain ⟨d, hd, same⟩ := List.mem_map.mp back
  obtain ⟨old, kept⟩ | new := (h.mem_apply_iff allowed).mp hd
  · exact kept (h.eq_of_name old (allowed.inputs c hc) same ▸ hc)
  · exact allowed.fresh d new (same ▸ given)

/-- It stays gone. -/
theorem Sound.gone_apply {n : Name} (h : u.Sound name) (allowed : u.Allows name t)
    (gone : u.Gone name n) : (u.apply name t).Gone name n := by
  refine ⟨List.mem_append_left _ gone.1, ?_⟩
  intro back
  obtain ⟨d, hd, rfl⟩ := List.mem_map.mp back
  obtain ⟨old, _⟩ | new := (h.mem_apply_iff allowed).mp hd
  · exact gone.not_mem old
  · exact allowed.fresh d new gone.1

/-- The inputs are the unspent coins with their names. -/
theorem Sound.spent_perm (h : u.Sound name) (allowed : u.Allows name t) :
    (u.unspent.filter fun c => name c ∈ t.inputs.map name).Perm t.inputs := by
  rw [List.perm_ext_iff_of_nodup (h.distinct.of_map.filter _) allowed.once.of_map]
  intro c
  simp only [List.mem_filter, decide_eq_true_eq]
  constructor
  · rintro ⟨hc, taken⟩
    exact (h.name_mem_inputs_iff allowed hc).mp taken
  · intro hc
    exact ⟨allowed.inputs c hc, List.mem_map_of_mem hc⟩

/-- What the coins weigh together changes by what the transfer takes and puts in. -/
theorem Sound.sum_apply (h : u.Sound name) (allowed : u.Allows name t) (weight : Coin → Nat) :
    ((u.apply name t).unspent.map weight).sum + (t.inputs.map weight).sum =
      (u.unspent.map weight).sum + (t.outputs.map weight).sum := by
  have spent := ((h.spent_perm allowed).map weight).sum_eq
  have parts := ((List.filter_append_perm
    (fun c => decide (name c ∈ t.inputs.map name)) u.unspent).map weight).sum_eq
  simp only [List.map_append, List.sum_append, ← decide_not] at parts
  simp only [Utxo.apply, List.map_append, List.sum_append]
  omega

end Utxo

end DuckPools
