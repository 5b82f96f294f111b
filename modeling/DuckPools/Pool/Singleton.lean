import DuckPools.Pool.Bankroll
import Mathlib.Logic.Relation

/-!
# What identifies a pool along a run

The lookup of the continuing output fixes the NFT and the script, and whatever is accepted is
signed by the house. The identifier of the second token is not compared on any path, only its
quantity is. Which token comes next to the NFT is therefore up to whoever builds the
transaction, as far as the ledger lets it have another one: among the inputs, or as the one
token that a transaction can mint.
-/

namespace DuckPools.Bankroll

open ErgoScript Relation

variable {Point : Type}

/-- Same NFT, same LP token, same script. -/
structure SamePool (a b : Box Point) : Prop where
  poolNFT : a.tokens[0]?.map Token.id = b.tokens[0]?.map Token.id
  lpTokenId : a.tokens[1]?.map Token.id = b.tokens[1]?.map Token.id
  script : a.propositionBytes = b.propositionBytes

theorem SamePool.refl (a : Box Point) : SamePool a a := ⟨rfl, rfl, rfl⟩

theorem SamePool.trans {a b c : Box Point} (hab : SamePool a b) (hbc : SamePool b c) :
    SamePool a c :=
  ⟨hab.poolNFT.trans hbc.poolNFT, hab.lpTokenId.trans hbc.lpTokenId, hab.script.trans hbc.script⟩

/-- A transaction with these inputs can put out that much of the token: it mints it, or its
inputs hold it. -/
def CanSupply (inputs : List (Box Point)) (id : Bytes) (amount : Nat) : Prop :=
  inputs.head?.map Box.id = some id ∨
    amount ≤ Payment.total (inputs.map (Box.tokenPayment id))

/-- As much of another token as there are LP tokens, besides a piece of the NFT. -/
def HasSubstitute (inputs : List (Box Point)) (own : SelfVals Point) : Prop :=
  ∃ id, id ≠ own.lpTokenId ∧
    CanSupply inputs id (own.selfLpSupply + if id = own.poolNFT then 1 else 0)

/-- What an accepted transaction is to leave of the pool: its identity, and its parameters
unless the house signs. -/
structure Preserves (pool : Box Point) (signers : List Point) (v : Vals Point) : Prop where
  same : SamePool pool v.poolOut
  signed : (∃ r ∈ [Reg.R4, .R5, .R6, .R7], v.poolOut.registers r ≠ pool.registers r) →
    v.housePk ∈ signers

variable {ctx : Context Point} {v : Vals Point} {signers : List Point}

/-- The token next to the NFT, counted with the NFT if it is one. -/
theorem supply_le_tokenAmount (hread : readVals ctx = some v) :
    v.outLpSupply + (if v.outLpToken.id = v.poolNFT then 1 else 0) ≤
      v.poolOut.tokenAmount v.outLpToken.id := by
  obtain ⟨_, _, hlp⟩ := readVals_eq_some_iff.mp hread
  obtain ⟨_, hnft, _⟩ := poolOut_spec hread
  match htokens : v.poolOut.tokens with
  | [] => simp [htokens] at hlp
  | [_] => simp [htokens] at hlp
  | first :: second :: rest =>
      rw [htokens] at hlp hnft
      have nft : first.id = v.poolNFT := Option.some.inj hnft
      have lp : second = v.outLpToken := Option.some.inj hlp
      have piece := first.amount.2.1
      simp only [Box.tokenAmount, htokens, Token.quantity, nft, lp, Vals.outLpSupply, if_true]
      by_cases same : v.outLpToken.id = v.poolNFT
      · simp only [same, if_true]
        omega
      · simp only [same, Ne.symm same, if_false]
        omega

/-- Without a substitute the LP token is kept. -/
theorem outLpToken_id (conserves : Conserves ctx.inputs ctx.outputs)
    (hread : readVals ctx = some v) (supply : v.outLpSupply = v.selfLpSupply)
    (none : ¬ HasSubstitute ctx.inputs v.toSelfVals) : v.outLpToken.id = v.lpTokenId := by
  obtain ⟨_, _, hlp⟩ := readVals_eq_some_iff.mp hread
  obtain ⟨hout, _⟩ := poolOut_spec hread
  by_contra other
  refine none ⟨v.outLpToken.id, other, ?_⟩
  obtain minted | kept := conserves.tokens _ hout _ (List.mem_of_getElem? hlp)
  · exact .inl minted
  · have held := Payment.amount_le_total
      (@List.mem_map_of_mem _ _ _ _ (Box.tokenPayment v.outLpToken.id) hout)
    rw [← supply]
    exact .inr ((supply_le_tokenAmount hread).trans (held.trans kept))

section Replacement

/-- The pool with a piece of the NFT and as many pieces of another token as there were shares. -/
def replacedPool (self : Box Point) (own : SelfVals Point) (id : Bytes) : Box Point :=
  { self with id := [], tokens := [⟨own.poolNFT, Amount.ofNat 1⟩, ⟨id, own.selfLpSupply⟩] }

/-- What is in the other inputs stays there, without its tokens. -/
def replacingOutputs (self : Box Point) (own : SelfVals Point) (id : Bytes)
    (others : List (Box Point)) : List (Box Point) :=
  replacedPool self own id :: others.map (Box.emptied [])

theorem conserves_replacingOutputs {self : Box Point} {own : SelfVals Point} {id : Bytes}
    {front back : List (Box Point)} (hown : readSelf self = some own)
    (supplied : CanSupply (front ++ self :: back) id
      (own.selfLpSupply + if id = own.poolNFT then 1 else 0)) :
    Conserves (front ++ self :: back) (replacingOutputs self own id (front ++ back)) where
  erg := by
    simp only [replacingOutputs, replacedPool, List.map_cons, Payment.total_cons,
      total_payment_emptied, List.map_append, Payment.total_append, Box.payment_amount]
    omega
  tokens := by
    have one : (Amount.ofNat 1 : Nat) = 1 := rfl
    obtain ⟨⟨nft, hnft, hid⟩, _⟩ := readSelf_eq_some_iff.mp hown
    have piece : 1 ≤ Payment.total
        ((front ++ self :: back).map (Box.tokenPayment own.poolNFT)) := by
      have mem : self ∈ front ++ self :: back := by simp
      have held := self.amount_le_tokenAmount (List.mem_of_getElem? hnft) hid.symm
      exact nft.amount.2.1.trans_le (held.trans (Payment.amount_le_total
        (@List.mem_map_of_mem _ _ _ _ (Box.tokenPayment own.poolNFT) mem)))
    intro out hout t ht
    obtain rfl | emptied := List.mem_cons.mp hout
    · have total : ∀ tokenId, Payment.total
          ((replacingOutputs self own id (front ++ back)).map (Box.tokenPayment tokenId)) =
            (replacedPool self own id).tokenAmount tokenId := by
        intro tokenId
        simp only [replacingOutputs, List.map_cons, Payment.total_cons,
          total_tokenPayment_emptied, Box.tokenPayment_amount, Nat.add_zero]
      simp only [total, replacedPool, Box.tokenAmount, Token.quantity, one]
      simp only [replacedPool, List.mem_cons, List.not_mem_nil, or_false] at ht
      by_cases same : id = own.poolNFT
      · subst same
        have named : t.id = own.poolNFT := by obtain rfl | rfl := ht <;> rfl
        simp only [named, if_true] at supplied ⊢
        exact supplied.imp id fun enough => by omega
      · obtain rfl | rfl := ht
        · right
          simp only [same, if_true, if_false]
          omega
        · simp only [same, Ne.symm same, if_true, if_false, Nat.add_zero, Nat.zero_add]
            at supplied ⊢
          exact supplied
    · obtain ⟨b, _, rfl⟩ := List.mem_map.mp emptied
      cases ht

/-- A signature of the house and a substitute are enough to replace the LP token. -/
theorem exists_replacement [DecidableEq Point] {self : Box Point} {inputs : List (Box Point)}
    {own : SelfVals Point} {signers : List Point} (inside : self ∈ inputs)
    (hown : readSelf self = some own) (signed : own.housePk ∈ signers)
    (substitute : HasSubstitute inputs own) (height : Int32) (parentId : Bytes) :
    ∃ outputs v, Conserves inputs outputs ∧
      AcceptedVia { self, inputs, outputs, height, parentId } signers v .update ∧
      ¬ SamePool self v.poolOut := by
  obtain ⟨id, other, supplied⟩ := substitute
  obtain ⟨front, back, rfl⟩ := List.append_of_mem inside
  let outputs := replacingOutputs self own id (front ++ back)
  let v : Vals Point :=
    { own with poolOut := replacedPool self own id, outLpToken := ⟨id, own.selfLpSupply⟩ }
  have found : outputs.find? (continues self own.poolNFT) = some v.poolOut := by
    simp [outputs, v, replacingOutputs, replacedPool, continues]
  have hread : readVals ⟨self, front ++ self :: back, outputs, height, parentId⟩ = some v :=
    readVals_eq_some_iff.mpr ⟨hown, found, rfl⟩
  refine ⟨outputs, v, conserves_replacingOutputs hown supplied,
    accepted_of_updates hread ⟨rfl, rfl, signed⟩, ?_⟩
  intro same
  have kept := same.lpTokenId
  rw [(readSelf_eq_some_iff.mp hown).2.1] at kept
  exact other (Option.some.inj kept).symm

end Replacement

variable [DecidableEq Point]

/-- One accepted transaction of the ledger that has no substitute for the LP token, from the
spent pool box to the continuing one. -/
def Step (p q : Box Point) : Prop :=
  ∃ ctx signers v path, ctx.self ∈ ctx.inputs ∧ Conserves ctx.inputs ctx.outputs ∧
    AcceptedVia ctx signers v path ∧ ¬ HasSubstitute ctx.inputs v.toSelfVals ∧ ctx.self = p ∧
    v.poolOut = q

theorem samePool_of_accepted {path : Path} (conserves : Conserves ctx.inputs ctx.outputs)
    (accepted : AcceptedVia ctx signers v path)
    (none : ¬ HasSubstitute ctx.inputs v.toSelfVals) : SamePool ctx.self v.poolOut := by
  have hread := accepted.2.1
  obtain ⟨hown, _, hlp⟩ := readVals_eq_some_iff.mp hread
  obtain ⟨⟨nft, hnft, hid⟩, hself, _⟩ := readSelf_eq_some_iff.mp hown
  obtain ⟨_, hout, hscript⟩ := poolOut_spec hread
  have kept := outLpToken_id conserves hread accepted.updates.supply none
  refine ⟨?_, ?_, hscript.symm⟩
  · rw [hout, hnft, hid, Option.map_some]
  · rw [hlp, hself, Option.map_some, Option.map_some, kept]

theorem samePool_of_run {start p : Box Point} (run : ReflTransGen Step start p) :
    SamePool start p := by
  induction run with
  | refl => exact SamePool.refl start
  | tail _ last ih =>
      obtain ⟨ctx, signers, v, path, _, conserves, accepted, none, rfl, rfl⟩ := last
      exact ih.trans (samePool_of_accepted conserves accepted none)

theorem preserves_of_accepted {path : Path} (conserves : Conserves ctx.inputs ctx.outputs)
    (accepted : AcceptedVia ctx signers v path)
    (none : ¬ HasSubstitute ctx.inputs v.toSelfVals) : Preserves ctx.self signers v where
  same := samePool_of_accepted conserves accepted none
  signed _ := accepted.updates.signed

/-- For a pool box, the inputs spent with it and the signers: whatever is accepted preserves the
pool if and only if the house does not sign, or the transaction has no substitute for the LP
token. Runs without a substitute keep NFT, LP token and script, and each of their transactions
leaves the parameters as they are unless the house signs. -/
theorem pool_singleton_iff :
    (∀ (self : Box Point) (inputs : List (Box Point)) (signers : List Point) (height : Int32)
        (parentId : Bytes), self ∈ inputs →
      ((∀ outputs v path, Conserves inputs outputs →
          AcceptedVia { self, inputs, outputs, height, parentId } signers v path →
          Preserves self signers v) ↔
        ∀ own, readSelf self = some own → own.housePk ∈ signers →
          ¬ HasSubstitute inputs own)) ∧
    ∀ start pool : Box Point, ReflTransGen Step start pool →
      SamePool start pool ∧
        ∀ (ctx : Context Point) (signers : List Point) (v : Vals Point) (path : Path),
          ctx.self = pool → Conserves ctx.inputs ctx.outputs → AcceptedVia ctx signers v path →
          ¬ HasSubstitute ctx.inputs v.toSelfVals → Preserves pool signers v := by
  refine ⟨fun self inputs signers height parentId inside => ⟨?_, ?_⟩,
    fun start pool run => ⟨samePool_of_run run, ?_⟩⟩
  · intro preserved own hown signed substitute
    obtain ⟨outputs, v, conserves, accepted, replaced⟩ :=
      exists_replacement inside hown signed substitute height parentId
    exact replaced (preserved outputs v .update conserves accepted).same
  · intro none outputs v path conserves accepted
    have updates := accepted.updates
    have hown := (readVals_eq_some_iff.mp accepted.2.1).1
    exact preserves_of_accepted conserves accepted (none _ hown updates.signed)
  · rintro ctx signers v path rfl conserves accepted none
    exact preserves_of_accepted conserves accepted none

/-- An update of the house replaces the LP token by one minted in the same transaction,
whose identifier is that of the first input. -/
theorem lpToken_replaced :
    ¬ ∀ (ctx : Context Bool) (signers : List Bool) (v : Vals Bool) (path : Path),
        ctx.self ∈ ctx.inputs → Conserves ctx.inputs ctx.outputs →
        AcceptedVia ctx signers v path → SamePool ctx.self v.poolOut := by
  intro h
  have conserves : Conserves (update [1]).inputs (update [1]).outputs := ⟨by decide, by decide⟩
  have same := h _ _ _ _ (List.mem_singleton.mpr rfl) conserves (update_accepted [1])
  exact absurd same.lpTokenId (by decide)

end DuckPools.Bankroll
