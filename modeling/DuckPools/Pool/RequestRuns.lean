import DuckPools.ErgoScript.Chain
import DuckPools.Pool.WithdrawRequest

/-!
# Withdraw requests in runs of the ledger

While the cooldown of a request lasts, its tokens can only go to the holder, whoever builds the
transaction. That it is built is not up to the holder: the guard never asks for a signature, so
at any time of any run anybody can end the request. Before the cooldown is over this gives the
tokens back, from then on they go wherever the builder likes.
-/

namespace DuckPools.WithdrawRequest

open ErgoScript

variable {Point : Type}

/-- Behind the tree of the script is what the guard asks for. What other trees ask for is left
open. -/
def guarded (tree : Bytes) (others : Lock Point) : Lock Point :=
  Lock.behind tree (fun s t b => accepts (s.context t b)) others

variable {tree : Bytes} {others : Lock Point} {s : Chain Point} {events : List (Event Point)}

/-- Until the cooldown is over a request is there, or one output of the transaction that took it
has given as many of its tokens to the holder. -/
theorem request_returned_until_mature (b : RequestBox Point)
    (locked : b.box.propositionBytes = tree) (sound : s.Sound)
    (placed : b.box ∈ s.utxo.unspent) (accepted : s.AcceptedUnder (guarded tree others) events)
    (early : ¬ b.request.MatureAt (s.run events).height) :
    ((∀ e ∈ events, ¬ e.Spends b.box) ∧ b.box ∈ (s.run events).utxo.unspent) ∨
      ∃ before t after, events = before ++ .tx t :: after ∧ b.box ∈ t.inputs ∧
        (∀ e ∈ before ++ after, ¬ e.Spends b.box) ∧
        ∃ out ∈ t.outputs, out.propositionBytes = b.request.holderTree ∧
          (b.request.lpAmount : Nat) ≤ out.tokenAmount b.request.lpTokenId := by
  obtain kept | ⟨before, t, after, rfl, taken, others, valid, _⟩ :=
    Chain.spent_once sound placed accepted
  · exact .inl kept
  · have later := Chain.height_le_run (Chain.accepted_append.mp accepted).2
    rw [← Chain.run_append, Int32.le_iff_toInt_le] at later
    have unlocks : accepts (b.context t.inputs t.outputs (s.run before).height
        (s.run before).parentId) := (Lock.behind_of_eq locked).mp (valid.unlocks b.box taken)
    obtain mature | returned := mature_or_returned unlocks
    · exact absurd (le_trans mature later) early
    · exact .inr ⟨before, t, after, rfl, taken, others, returned⟩

/-- What the guard cannot read stays where it is. -/
theorem unreadable_never_spent {b : Box Point} (locked : b.propositionBytes = tree)
    (unreadable : readVals b = none) (sound : s.Sound) (placed : b ∈ s.utxo.unspent)
    (accepted : s.AcceptedUnder (guarded tree others) events) :
    (∀ e ∈ events, ¬ e.Spends b) ∧ b ∈ (s.run events).utxo.unspent := by
  obtain kept | ⟨before, t, after, _, taken, _, valid, _⟩ := Chain.spent_once sound placed accepted
  · exact kept
  · have unlocks := (Lock.behind_of_eq locked).mp (valid.unlocks b taken)
    simp only [accepts, guard, Chain.context, unreadable, Option.bind_eq_bind,
      Option.bind_none] at unlocks
    cases unlocks

/-- The request alone, its content behind another tree, signed by nobody. -/
def endTx (b : RequestBox Point) (id tree : Bytes) : Tx Point where
  inputs := [b.box]
  outputs := [⟨id, b.box.value, tree, b.box.tokens, fun _ => none⟩]
  signers := []

theorem conserves_endTx (b : RequestBox Point) (id tree : Bytes) :
    Conserves (endTx b id tree).inputs (endTx b id tree).outputs where
  erg := by simp [endTx]
  tokens := by
    intro out _ token _
    right
    simp [endTx, Box.tokenAmount]

theorem lpToken_of_reads (b : RequestBox Point) :
    b.box.tokens[0]? = some ⟨b.request.lpTokenId, b.request.lpAmount⟩ := by
  have reads := b.reads
  simp only [readVals, Option.bind_eq_bind, Option.bind_eq_some_iff, Option.pure_def,
    Option.some.injEq] at reads
  obtain ⟨lp, hlp, _, _, _, _, _, _, _, _, read⟩ := reads
  rw [hlp, ← read]

/-- To the holder always, to anybody once the cooldown is over. -/
theorem accepts_endTx (b : RequestBox Point) {n : Int32}
    (sum : addInt b.request.requestHeight b.request.cooldownDelta = some n) (id : Bytes)
    {payee : Bytes} (allowed : b.request.MatureAt s.height ∨ payee = b.request.holderTree) :
    accepts (s.context (endTx b id payee) b.box) := by
  have execute : isExecute s.height b.request =
      some (decide (b.request.MatureAt s.height)) := by
    simp only [isExecute, sum, Option.map_some, addInt_toInt sum]
    rfl
  have cancel : isCancel (endTx b id payee).outputs b.request =
      some (payee == b.request.holderTree) := by
    have first := lpToken_of_reads b
    simp [isCancel, endTx, returnsTokens, first]
  simp only [accepts, guard, Chain.context, b.reads, Option.bind_eq_bind, Option.bind_some,
    execute, cancel, Eval.or_eq_true, Option.some.injEq, decide_eq_true_eq, decide_eq_false_iff_not,
    beq_iff_eq]
  by_cases mature : b.request.MatureAt s.height
  · exact .inl mature
  · exact .inr ⟨mature, allowed.resolve_left mature⟩

/-- Without any signature a request can be given to the holder at any time, and to anybody else
exactly once the cooldown is over. -/
theorem request_payable_iff (b : RequestBox Point) (locked : b.box.propositionBytes = tree)
    {n : Int32} (sum : addInt b.request.requestHeight b.request.cooldownDelta = some n)
    (placed : b.box ∈ s.utxo.unspent) (payee : Bytes) :
    (∃ t, s.ValidUnder (guarded tree others) t ∧ t.inputs = [b.box] ∧ t.signers = [] ∧
      ∃ out, t.outputs = [out] ∧ out.propositionBytes = payee ∧ out.value = b.box.value ∧
        out.tokens = b.box.tokens) ↔
      b.request.MatureAt s.height ∨ payee = b.request.holderTree := by
  constructor
  · rintro ⟨t, valid, inputs, _, out, outputs, rfl, _⟩
    have taken : b.box ∈ t.inputs := by simp [inputs]
    have unlocks : accepts (b.context t.inputs t.outputs s.height s.parentId) :=
      (Lock.behind_of_eq locked).mp (valid.unlocks b.box taken)
    obtain mature | ⟨given, hgiven, holder, _⟩ := mature_or_returned unlocks
    · exact .inl mature
    · rw [outputs, List.mem_singleton] at hgiven
      exact .inr (hgiven ▸ holder)
  · intro allowed
    obtain ⟨id, _, fresh, _⟩ := Utxo.exists_fresh s.utxo.created
    refine ⟨endTx b id payee, ⟨⟨?_, ?_, ?_, ?_⟩, conserves_endTx b id payee, ?_⟩, rfl, rfl, _, rfl,
      rfl, rfl, rfl⟩
    · simpa [endTx, Tx.transfer] using placed
    · simp [endTx, Tx.transfer]
    · simpa [endTx, Tx.transfer] using fresh
    · simp [endTx, Tx.transfer]
    · intro c hc
      obtain rfl := List.mem_singleton.mp hc
      exact (Lock.behind_of_eq locked).mpr (accepts_endTx b sum id allowed)

/-- A ledger with the example request and nothing else. -/
def requestChain (height : Int32) : Chain Bool :=
  ⟨⟨[exampleRequest.box], [exampleRequest.box.id]⟩, height, []⟩

/-- One block later the cooldown still lasts. -/
theorem request_returned_until_mature_block :
    exampleRequest.box ∈ ((requestChain 120).run [.block [7]]).utxo.unspent := by
  have sound : (requestChain 120).Sound :=
    ⟨by simp [requestChain], by simp [requestChain]⟩
  have accepted : (requestChain 120).AcceptedUnder (guarded [4] fun _ _ _ => False) [.block [7]] :=
    ⟨show (120 : Int32) < Int32.maxValue by decide, trivial⟩
  obtain ⟨_, kept⟩ | ⟨_, t, _, split, _⟩ := request_returned_until_mature exampleRequest rfl sound
    (List.mem_singleton_self _) accepted (by decide)
  · exact kept
  · have mem : Event.tx t ∈ [Event.block [7]] := split ▸ List.mem_append_right _ List.mem_cons_self
    simp at mem

/-- At height 160 the tokens can be sent to the tree `[6]`, at height 159 they cannot. -/
theorem request_payable_iff_taken :
    (∃ t, (requestChain 160).ValidUnder (guarded [4] fun _ _ _ => False) t ∧
      t.inputs = [exampleRequest.box] ∧ t.signers = [] ∧
      ∃ out, t.outputs = [out] ∧ out.propositionBytes = [6] ∧
        out.value = exampleRequest.box.value ∧ out.tokens = exampleRequest.box.tokens) ∧
    ¬ ∃ t, (requestChain 159).ValidUnder (guarded [4] fun _ _ _ => False) t ∧
      t.inputs = [exampleRequest.box] ∧ t.signers = [] ∧
      ∃ out, t.outputs = [out] ∧ out.propositionBytes = [6] ∧
        out.value = exampleRequest.box.value ∧ out.tokens = exampleRequest.box.tokens := by
  have sum : addInt 100 60 = some 160 := by decide
  constructor
  · exact (request_payable_iff exampleRequest rfl sum (List.mem_singleton_self _) [6]).mpr
      (.inl (by decide))
  · intro taken
    have allowed := (request_payable_iff exampleRequest rfl sum (List.mem_singleton_self _) [6]).mp
      taken
    revert allowed
    decide

end DuckPools.WithdrawRequest
