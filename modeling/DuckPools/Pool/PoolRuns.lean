import DuckPools.ErgoScript.Supply
import DuckPools.Pool.Singleton

/-!
# The pool in runs of the ledger

The guard of the pool is asked about one transaction. On the ledger the pool is the box with the
only piece of the pool NFT, among any other boxes, scripts and parties. The guard keeps it that
way, so a run of the ledger is a run of the pool, one path of the guard after the other.

As the house key is read at two types, all these paths are updates: what is in the pool stays
there, and with the key in the documented form the pool is not touched at all.
-/

namespace DuckPools.Bankroll

open ErgoScript Relation

variable {Point : Type} [DecidableEq Point]

/-- Behind the tree of the script is what the guard asks for. What other trees ask for is left
open. -/
def guarded (tree : Bytes) (others : Lock Point) : Lock Point :=
  Lock.behind tree (fun s t b => accepts (s.context t b) t.signers) others

/-- The pool: the box with the only piece of the NFT, behind the script. -/
structure IsPool (tree nft : Bytes) (s : Chain Point) (p : Box Point) : Prop where
  unspent : p ∈ s.utxo.unspent
  script : p.propositionBytes = tree
  poolNFT : p.tokens[0]?.map Token.id = some nft
  single : s.supply nft = 1
  issued : s.Issued nft

/-- One transaction that takes the pool along a path of its guard. -/
def Moves (p q : Box Point) : Prop :=
  ∃ (s : Chain Point) (t : Tx Point) (v : Vals Point) (path : Path),
    AcceptedVia (s.context t p) t.signers v path ∧ v.poolOut = q

variable {tree nft : Bytes} {others : Lock Point} {s : Chain Point}
  {p q b : Box Point} {t : Tx Point} {e : Event Point} {events : List (Event Point)}

section Step

omit [DecidableEq Point] in
theorem tokenAmount_pos_of_first (first : b.tokens[0]?.map Token.id = some nft) :
    0 < b.tokenAmount nft := by
  obtain ⟨token, htoken, hid⟩ := Option.map_eq_some_iff.mp first
  exact token.amount.2.1.trans_le
    (b.amount_le_tokenAmount (List.mem_of_getElem? htoken) hid)

omit [DecidableEq Point] in
theorem IsPool.eq_of_holds (pool : IsPool tree nft s p) (hb : b ∈ s.utxo.unspent)
    (held : 0 < b.tokenAmount nft) : b = p :=
  Chain.eq_of_supply_eq_one pool.single hb pool.unspent held
    (tokenAmount_pos_of_first pool.poolNFT)

omit [DecidableEq Point] in
/-- A box with the NFT that is there after a step is the pool then. -/
theorem IsPool.after {lock : Lock Point} (pool : IsPool tree nft s p) (sound : s.Sound)
    (accepted : Chain.AcceptsUnder lock s e) (there : q ∈ (s.step e).utxo.unspent)
    (script : q.propositionBytes = tree) (first : q.tokens[0]?.map Token.id = some nft) :
    IsPool tree nft (s.step e) q where
  unspent := there
  script := script
  poolNFT := first
  issued := pool.issued.step sound accepted
  single := by
    have most := Chain.supply_le_step sound pool.issued accepted
    have least := (tokenAmount_pos_of_first first).trans_le (Chain.tokenAmount_le_supply there)
    have single := pool.single
    omega

omit [DecidableEq Point] in
theorem poolNFT_of_readVals {ctx : Context Point} {v : Vals Point} (h : readVals ctx = some v) :
    ctx.self.tokens[0]?.map Token.id = some v.poolNFT := by
  obtain ⟨⟨token, htoken, hid⟩, _⟩ := readSelf_eq_some_iff.mp (readVals_eq_some_iff.mp h).1
  rw [htoken, hid]
  rfl

/-- A transaction that takes the pool continues it. -/
theorem IsPool.moves (pool : IsPool tree nft s p) (sound : s.Sound)
    (valid : s.ValidUnder (guarded tree others) t) (taken : p ∈ t.inputs) :
    ∃ q, IsPool tree nft (s.step (.tx t)) q ∧ Moves p q := by
  have unlocks := (Lock.behind_of_eq pool.script).mp (valid.unlocks p taken)
  obtain ⟨v, path, accepted⟩ := exists_path unlocks
  obtain ⟨output, first, script⟩ := poolOut_spec accepted.2.1
  have same : some nft = some v.poolNFT :=
    pool.poolNFT.symm.trans (poolNFT_of_readVals accepted.2.1)
  have there : v.poolOut ∈ (s.step (.tx t)).utxo.unspent :=
    (Utxo.Sound.mem_apply_iff sound valid.allowed).mpr (.inr output)
  exact ⟨v.poolOut, pool.after (e := .tx t) sound valid there (script.trans pool.script)
    (first.trans same.symm), s, t, v, path, accepted, rfl⟩

/-- After one event the pool is where it was, or one path further. -/
theorem IsPool.step (pool : IsPool tree nft s p) (sound : s.Sound)
    (accepted : Chain.AcceptsUnder (guarded tree others) s e) :
    ∃ q, IsPool tree nft (s.step e) q ∧ ReflTransGen Moves p q := by
  cases e with
  | block headerId => exact ⟨p, ⟨pool.unspent, pool.script, pool.poolNFT, pool.single,
      pool.issued⟩, .refl⟩
  | tx t =>
      by_cases taken : p ∈ t.inputs
      · obtain ⟨q, next, moves⟩ := pool.moves sound accepted taken
        exact ⟨q, next, .single moves⟩
      · have there : p ∈ (s.step (.tx t)).utxo.unspent :=
          (Utxo.Sound.mem_apply_iff sound accepted.allowed).mpr (.inl ⟨pool.unspent, taken⟩)
        exact ⟨p, pool.after sound accepted there pool.script pool.poolNFT, .refl⟩

end Step

section Runs

theorem IsPool.run (pool : IsPool tree nft s p) (sound : s.Sound)
    (accepted : s.AcceptedUnder (guarded tree others) events) :
    ∃ q, IsPool tree nft (s.run events) q ∧ ReflTransGen Moves p q := by
  induction events generalizing s p with
  | nil => exact ⟨p, pool, .refl⟩
  | cons e events ih =>
      obtain ⟨middle, next, first⟩ := pool.step sound accepted.1
      obtain ⟨q, last, rest⟩ := ih next (sound.step accepted.1) accepted.2
      exact ⟨q, last, first.trans rest⟩

/-- Whatever happens on the ledger, one box holds the pool NFT, it is behind the script of the
pool, and the guard has accepted the way to it path by path. -/
theorem one_pool (pool : IsPool tree nft s p) (sound : s.Sound)
    (accepted : s.AcceptedUnder (guarded tree others) events) :
    ∃ q ∈ (s.run events).utxo.unspent, q.propositionBytes = tree ∧
      (∀ b ∈ (s.run events).utxo.unspent, 0 < b.tokenAmount nft → b = q) ∧
      ReflTransGen Moves p q := by
  obtain ⟨q, last, way⟩ := pool.run sound accepted
  exact ⟨q, last.unspent, last.script, fun b hb held => last.eq_of_holds hb held, way⟩

/-- A ledger of these boxes, after the pool NFT and the LP token have been issued. -/
def ledgerOf (boxes : List (Box Point)) : Chain Point :=
  ⟨⟨boxes, [7] :: [8] :: boxes.map Box.id⟩, 100, []⟩

omit [DecidableEq Point] in
theorem sound_ledgerOf {boxes : List (Box Point)} (distinct : (boxes.map Box.id).Nodup) :
    (ledgerOf boxes).Sound where
  named := fun _ hc =>
    List.mem_cons_of_mem _ (List.mem_cons_of_mem _ (List.mem_map_of_mem hc))
  distinct := distinct

/-- The house sets another minimum deposit. -/
def updateTx : Tx Bool := ⟨(update [8]).inputs, (update [8]).outputs, [true]⟩

theorem isPool_update :
    IsPool [9] [7] (ledgerOf (update [8]).inputs) (update [8]).self where
  unspent := List.mem_singleton_self _
  script := rfl
  poolNFT := rfl
  single := by decide
  issued := ⟨List.mem_cons_self, by decide⟩

theorem accepted_updateTx : (ledgerOf (update [8]).inputs).AcceptedUnder
    (guarded [9] fun _ _ _ => False) [.tx updateTx] := by
  refine ⟨⟨⟨fun _ hc => hc, by decide, ?_, by decide⟩, ⟨by decide, by decide⟩, ?_⟩, trivial⟩
  · simp [ledgerOf, updateTx, update, Tx.transfer, examplePool]
  · intro b hb
    obtain rfl := List.mem_singleton.mp hb
    exact (update_accepted [8]).1

theorem one_pool_update :
    ∃ q ∈ ((ledgerOf (update [8]).inputs).run [.tx updateTx]).utxo.unspent,
      q.propositionBytes = [9] ∧
        (∀ b ∈ ((ledgerOf (update [8]).inputs).run [.tx updateTx]).utxo.unspent,
          0 < b.tokenAmount [7] → b = q) ∧
        ReflTransGen Moves (update [8]).self q :=
  one_pool isPool_update (sound_ledgerOf (by decide)) accepted_updateTx

end Runs

section Frozen

theorem Moves.kept (h : Moves p q) : q.value = p.value ∧
    q.tokens[1]?.map Token.amount = p.tokens[1]?.map Token.amount := by
  obtain ⟨s, t, v, path, accepted, rfl⟩ := h
  have updates := accepted.updates
  obtain ⟨hown, _, hlp⟩ := readVals_eq_some_iff.mp accepted.2.1
  have own : p.tokens[1]? = some ⟨v.lpTokenId, v.selfLpSupply⟩ :=
    (readSelf_eq_some_iff.mp hown).2.1
  refine ⟨Subtype.ext updates.value, ?_⟩
  rw [hlp, own]
  exact congrArg some (Subtype.ext updates.supply)

theorem kept_of_way (way : ReflTransGen Moves p q) : q.value = p.value ∧
    q.tokens[1]?.map Token.amount = p.tokens[1]?.map Token.amount := by
  induction way with
  | refl => exact ⟨rfl, rfl⟩
  | tail _ move ih => exact ⟨move.kept.1.trans ih.1, move.kept.2.trans ih.2⟩

/-- A key in the documented form is not read. -/
theorem not_moves_of_collByte {bytes : Bytes} (h : p.registers .R4 = some (.collByte bytes)) :
    ¬ Moves p q := by
  rintro ⟨s, t, v, path, ⟨_, hread, _⟩, _⟩
  obtain ⟨_, _, hkey, _⟩ := readSelf_eq_some_iff.mp (readVals_eq_some_iff.mp hread).1
  have key : p.registers .R4 = some (.groupElement v.housePk) :=
    Box.groupElement_eq_some_iff.mp hkey
  rw [h] at key
  cases key

/-- Nothing moves: over every run the pool keeps its value and its supply, and with the house
key in the documented form it is the same box. -/
theorem pool_frozen (pool : IsPool tree nft s p) (sound : s.Sound)
    (accepted : s.AcceptedUnder (guarded tree others) events) :
    ∃ q, IsPool tree nft (s.run events) q ∧ q.value = p.value ∧
      q.tokens[1]?.map Token.amount = p.tokens[1]?.map Token.amount ∧
      ((∃ bytes, p.registers .R4 = some (.collByte bytes)) → q = p) := by
  obtain ⟨q, last, way⟩ := pool.run sound accepted
  have kept := kept_of_way way
  refine ⟨q, last, kept.1, kept.2, ?_⟩
  rintro ⟨bytes, documented⟩
  obtain rfl | ⟨middle, first, _⟩ := way.cases_head
  · rfl
  · exact absurd first (not_moves_of_collByte documented)

theorem pool_frozen_update :
    ∃ q, IsPool [9] [7] ((ledgerOf (update [8]).inputs).run [.tx updateTx]) q ∧
      q.value = (update [8]).self.value :=
  let ⟨q, pool, value, _⟩ :=
    pool_frozen isPool_update (sound_ledgerOf (by decide)) accepted_updateTx
  ⟨q, pool, value⟩

end Frozen

end DuckPools.Bankroll
