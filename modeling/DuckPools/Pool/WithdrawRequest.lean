import DuckPools.ErgoScript.Box

/-!
# The guard script `WITHDRAW_REQUEST_SCRIPT`

A request locks LP tokens for a holder, named by the script that is to receive the
outcome. After the cooldown the guard asks for nothing but the height; paying the
holder is then up to the builder of the transaction. Before the cooldown the first
output with at least the locked quantity has to be the holder's.

The two paths are booleans, so the search for that output only runs, and only then
may fail, while the cooldown lasts.
-/

namespace DuckPools.WithdrawRequest

open ErgoScript

variable {Point : Type}

/-- The values bound at the head of the script. -/
structure Request where
  lpTokenId : Bytes
  lpAmount : Amount
  holderTree : Bytes
  requestedErg : Int64
  requestHeight : Int32
  cooldownDelta : Int32

def readVals (self : Box Point) : Eval Request := do
  let lp ← self.tokens[0]?
  let holderTree ← self.collByte .R4
  let requestedErg ← self.long .R5
  let requestHeight ← self.int .R6
  let cooldownDelta ← self.int .R7
  return {
    lpTokenId := lp.id, lpAmount := lp.amount, holderTree, requestedErg, requestHeight,
    cooldownDelta }

def isExecute (height : Int32) (r : Request) : Eval Bool :=
  (addInt r.requestHeight r.cooldownDelta).map
    fun executable => decide (executable.toInt ≤ height.toInt)

/-- The predicate of the `OUTPUTS.find`. -/
def returnsTokens (r : Request) (b : Box Point) : Bool :=
  b.tokens[0]?.any fun t => t.id == r.lpTokenId && decide ((r.lpAmount : Nat) ≤ t.amount)

def isCancel (outputs : List (Box Point)) (r : Request) : Eval Bool := do
  let cancelOut ← outputs.find? (returnsTokens r)
  return cancelOut.propositionBytes == r.holderTree

/-- `isExecute || isCancel` -/
def guard (ctx : Context Point) : Eval Bool := do
  let r ← readVals ctx.self
  Eval.or (isExecute ctx.height r) (isCancel ctx.outputs r)

/-- The request may be spent in `ctx`; no signature is ever asked for. -/
def accepts (ctx : Context Point) : Prop := guard ctx = some true

/-- The cooldown is over at `height`. -/
def Request.MatureAt (r : Request) (height : Int32) : Prop :=
  r.requestHeight.toInt + r.cooldownDelta.toInt ≤ height.toInt

instance (r : Request) (height : Int32) : Decidable (r.MatureAt height) :=
  inferInstanceAs (Decidable (_ ≤ _))

theorem matureAt_of_isExecute {height : Int32} {r : Request}
    (h : isExecute height r = some true) : r.MatureAt height := by
  simp only [isExecute, Option.map_eq_some_iff, decide_eq_true_eq] at h
  obtain ⟨executable, hadd, hle⟩ := h
  rwa [addInt_toInt hadd] at hle

/-- A cancelled request goes to an output of the holder with enough of the token. -/
theorem exists_output_of_isCancel {outputs : List (Box Point)} {r : Request}
    (h : isCancel outputs r = some true) :
    ∃ out ∈ outputs, out.propositionBytes = r.holderTree ∧
      (r.lpAmount : Nat) ≤ out.tokenAmount r.lpTokenId := by
  simp only [isCancel, Option.bind_eq_bind, Option.bind_eq_some_iff, Option.pure_def,
    Option.some.injEq, beq_iff_eq] at h
  obtain ⟨out, hfind, hholder⟩ := h
  have returns := List.find?_some hfind
  simp only [returnsTokens, Option.any_eq_true, Bool.and_eq_true, beq_iff_eq,
    decide_eq_true_eq] at returns
  obtain ⟨t, ht, hid, hamount⟩ := returns
  exact ⟨out, List.mem_of_find?_eq_some hfind, hholder,
    hamount.trans (out.amount_le_tokenAmount (List.mem_of_getElem? ht) hid)⟩

/-- A request box, with the reading that every spending of it starts from. -/
structure RequestBox (Point : Type) where
  box : Box Point
  request : Request
  reads : readVals box = some request

/-- The spending context of one of the requests of a common transaction. -/
def RequestBox.context (b : RequestBox Point) (inputs outputs : List (Box Point))
    (height : Int32) (parentId : Bytes) : Context Point :=
  { self := b.box, inputs, outputs, height, parentId }

/-- Every accepted request is mature or has been returned to its holder. -/
theorem mature_or_returned {b : RequestBox Point} {inputs outputs : List (Box Point)}
    {height : Int32} {parentId : Bytes}
    (h : accepts (b.context inputs outputs height parentId)) :
    b.request.MatureAt height ∨
      ∃ out ∈ outputs, out.propositionBytes = b.request.holderTree ∧
        (b.request.lpAmount : Nat) ≤ out.tokenAmount b.request.lpTokenId := by
  simp only [accepts, guard, RequestBox.context, b.reads, Option.bind_eq_bind,
    Option.bind_some] at h
  obtain hexecute | ⟨_, hcancel⟩ := Eval.or_eq_true.mp h
  · exact Or.inl (matureAt_of_isExecute hexecute)
  · exact Or.inr (exists_output_of_isCancel hcancel)

/-- Whatever set of requests a transaction spends, each one that is spent before its
cooldown is over leaves its holder with outputs worth its LP tokens. -/
theorem early_spending_returns_tokens (inputs outputs : List (Box Point)) (height : Int32)
    (parentId : Bytes) (spent : List (RequestBox Point))
    (accepted : ∀ b ∈ spent, accepts (b.context inputs outputs height parentId))
    (holderTree : Bytes) :
    ∀ b ∈ spent, b.request.holderTree = holderTree → ¬ b.request.MatureAt height →
      (b.request.lpAmount : Nat) ≤
        Payment.dueTo (outputs.map (Box.tokenPayment b.request.lpTokenId)) holderTree := by
  rintro b hb rfl early
  obtain ⟨out, hout, hholder, hle⟩ := (mature_or_returned (accepted b hb)).resolve_left early
  have mem : out.tokenPayment b.request.lpTokenId ∈
      outputs.map (Box.tokenPayment b.request.lpTokenId) := List.mem_map_of_mem hout
  rw [← hholder]
  exact hle.trans (Payment.amount_le_dueTo mem)

/-- Ten LP tokens locked at height 100 for sixty blocks. -/
def exampleRequest : RequestBox Bool where
  box :=
    { id := [1]
      value := Amount.ofNat 1
      propositionBytes := [4]
      tokens := [⟨[8], Amount.ofNat 10⟩]
      registers := fun
        | .R4 => some (.collByte [5])
        | .R5 => some (.long 50)
        | .R6 => some (.int 100)
        | .R7 => some (.int 60)
        | _ => none }
  request := ⟨[8], Amount.ofNat 10, [5], 50, 100, 60⟩
  reads := by rfl

/-- The locked tokens, sent to the script `tree`. -/
def tokensTo (tree : Bytes) : Box Bool :=
  ⟨[2], Amount.ofNat 1, tree, [⟨[8], Amount.ofNat 10⟩], fun _ => none⟩

/-- A cancellation while the cooldown lasts. -/
theorem early_spending_returns_tokens_cancelled :
    10 ≤ Payment.dueTo ([tokensTo [5]].map (Box.tokenPayment [8])) [5] :=
  early_spending_returns_tokens [exampleRequest.box] [tokensTo [5]] 120 [] [exampleRequest]
    (by
      intro b hb
      rw [List.mem_singleton] at hb
      subst hb
      rfl)
    [5] exampleRequest (List.mem_singleton.mpr rfl) rfl (by decide)

/-- What the requests of the list that are still locked hold of a token, by holder. -/
def cancelledClaims (lpTokenId : Bytes) (height : Int32) (spent : List (RequestBox Point)) :
    List (Payment Bytes) :=
  (spent.filter fun b => !b.request.MatureAt height && b.request.lpTokenId == lpTokenId).map
    fun b => ⟨b.request.holderTree, b.request.lpAmount⟩

/-- What the mature requests of the list ask for, by holder. -/
def executedClaims (height : Int32) (spent : List (RequestBox Point)) : List (Payment Bytes) :=
  (spent.filter fun b => b.request.MatureAt height).map
    fun b => ⟨b.request.holderTree, b.request.requestedErg.toInt.toNat⟩

/-- After the cooldown anybody may take the box, tokens and all. -/
theorem mature_request_taken :
    ¬ ∀ (inputs outputs : List (Box Bool)) (height : Int32) (parentId lpTokenId : Bytes)
        (spent : List (RequestBox Bool)), Conserves inputs outputs →
        (∀ b ∈ spent, b.box ∈ inputs) →
        (∀ b ∈ spent, accepts (b.context inputs outputs height parentId)) →
        Payment.Covers (outputs.map (Box.tokenPayment lpTokenId))
            (cancelledClaims lpTokenId height spent) ∧
          Payment.Covers (outputs.map Box.payment) (executedClaims height spent) := by
  intro h
  have conserves : Conserves [exampleRequest.box] [tokensTo [6]] := ⟨by decide, by decide⟩
  have accepted : ∀ b ∈ [exampleRequest],
      accepts (b.context [exampleRequest.box] [tokensTo [6]] 160 []) := by
    intro b hb
    rw [List.mem_singleton] at hb
    subst hb
    rfl
  have paid := (h _ _ 160 [] [8] [exampleRequest] conserves (by simp) accepted).2 [5]
  revert paid
  decide

end DuckPools.WithdrawRequest
