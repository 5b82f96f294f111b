import DuckPools.Sdk.TransactionBuilder

/-!
# Builders that are used again

A `TransactionBuilder` is an object, so what `build` leaves in it is there for the next
call. `buildM` is the method on the object, which also survives an exception; it is `build`
with the old builder put back after a `throw`.

`results` are the answers to a sequence of calls on one builder, `freshResults` those of a
new builder for each call. They differ because leftovers too small for a box stay in the
fee: a later call has to leave at least as much, again too little for a box, to get the
answer of a new builder.
-/

namespace DuckPools.Sdk.TransactionBuilder

/-- `build`, with the builder as the state. -/
def buildM (inputs : List TransactionInput) (outputs : List TransactionOutput) :
    ExceptT SdkError (StateM TransactionBuilder) ErgoTransaction := do
  if inputs.isEmpty then
    throw (.error "Transaction must have at least one input")
  let builder ← get
  let totalInputValue := (inputs.map (·.value)).sum
  let totalOutputValue := (outputs.map (·.value)).sum
  let totalCost := totalOutputValue + builder.fee
  if totalCost > totalInputValue then
    throw (.error (s!"Insufficient input value: inputs={totalInputValue} nanoERG, " ++
      s!"outputs={totalOutputValue} nanoERG, fee={builder.fee} nanoERG, " ++
      s!"shortfall={totalCost - totalInputValue} nanoERG"))
  let changeValue := totalInputValue - totalCost
  let mut allOutputs := outputs
  if changeValue > 0 then
    match builder.change with
    | none =>
        throw (.error ("Change address required: transaction has " ++
          s!"{changeValue} nanoERG unspent. Call setChangeAddress() first."))
    | some changeAddress =>
        if changeValue ≥ builder.minBoxValue then
          allOutputs := allOutputs ++ [{ address := some changeAddress, value := changeValue }]
        else
          set { builder with fee := builder.fee + changeValue }
  return { inputs, outputs := allOutputs, fee := (← get).fee }

/-- The answer of a call, and the builder after it. -/
def call (builder : TransactionBuilder) (inputs : List TransactionInput)
    (outputs : List TransactionOutput) : Except SdkError ErgoTransaction × TransactionBuilder :=
  (buildM inputs outputs).run builder

theorem run_get_bind (f : TransactionBuilder → ExceptT SdkError (StateM TransactionBuilder)
    ErgoTransaction) (builder : TransactionBuilder) :
    (get >>= f).run builder = (f builder).run builder := rfl

theorem call_eq (builder : TransactionBuilder) (inputs : List TransactionInput)
    (outputs : List TransactionOutput) :
    builder.call inputs outputs =
      match builder.build inputs outputs with
      | .ok (tx, after) => (.ok tx, after)
      | .error e => (.error e, builder) := by
  rw [call, build, buildM]
  by_cases hempty : inputs.isEmpty = true
  · simp only [if_pos hempty]
    rfl
  simp only [if_neg hempty]
  refine (run_get_bind _ builder).trans ?_
  by_cases hcost : (outputs.map (·.value)).sum + builder.fee > (inputs.map (·.value)).sum
  · simp only [if_pos hcost]
    rfl
  simp only [if_neg hcost]
  by_cases hchange : (inputs.map (·.value)).sum -
      ((outputs.map (·.value)).sum + builder.fee) > 0
  · simp only [if_pos hchange]
    cases builder.change with
    | none => rfl
    | some changeAddress =>
        dsimp only
        split <;> rfl
  · simp only [if_neg hchange]
    rfl

/-- What is left of the inputs under a fee. -/
def leftover (fee : Int) (inputs : List TransactionInput) (outputs : List TransactionOutput) :
    Int :=
  (inputs.map (·.value)).sum - ((outputs.map (·.value)).sum + fee)

section Conservation

variable (builder : TransactionBuilder) (inputs : List TransactionInput)
  (outputs : List TransactionOutput)

/-- The three reasons to throw. -/
def Refused : Prop :=
  inputs = [] ∨ (inputs.map (·.value)).sum < (outputs.map (·.value)).sum + builder.fee ∨
    ((outputs.map (·.value)).sum + builder.fee < (inputs.map (·.value)).sum ∧
      builder.change = none)

/-- The outputs of a transaction are those asked for, and at most one that pays the change,
in a box that is large enough. -/
def ChangeOnly (tx : ErgoTransaction) : Prop :=
  tx.outputs = outputs ∨ ∃ changeAddress value, builder.change = some changeAddress ∧
    builder.minBoxValue ≤ value ∧
    tx.outputs = outputs ++ [{ address := some changeAddress, value }]

/-- What a call may answer, and what it leaves behind. -/
structure Conserved (result : Except SdkError ErgoTransaction × TransactionBuilder) : Prop where
  throws_iff : (∃ e, result.1 = .error e) ↔ Refused builder inputs outputs
  unchanged : ∀ e, result.1 = .error e → result.2 = builder
  built : ∀ tx, result.1 = .ok tx →
    tx.inputs = inputs ∧ ChangeOnly builder outputs tx ∧ Balanced tx

theorem refused_iff :
    Refused builder inputs outputs ↔ ¬ ∃ built, builder.build inputs outputs = .ok built := by
  rw [build_isOk_iff, Refused]
  by_cases hempty : inputs = []
  · simp [hempty]
  · by_cases hchange : builder.change = none
    · simp only [hempty, hchange, ne_eq, not_true_eq_false, false_or, not_false_eq_true, true_and,
        and_true, imp_false]
      omega
    · simp only [hempty, hchange, ne_eq, false_or, not_false_eq_true, true_and, and_false,
        or_false, implies_true, and_true, not_le]

variable {builder inputs outputs} in
theorem changeOnly_of_build {built : ErgoTransaction × TransactionBuilder}
    (h : builder.build inputs outputs = .ok built) : ChangeOnly builder outputs built.1 := by
  simp only [build, Exceptions.ite_throw_eq_ok_iff] at h
  obtain ⟨_, _, h⟩ := h
  split at h
  · split at h
    · exact absurd h (Exceptions.throw_ne_ok _ _)
    · rename_i changeAddress address
      split at h
      · rename_i large
        obtain rfl := Exceptions.pure_eq_ok_iff.mp h
        exact Or.inr ⟨changeAddress, _, address, large, rfl⟩
      · obtain rfl := Exceptions.pure_eq_ok_iff.mp h
        exact Or.inl rfl
  · obtain rfl := Exceptions.pure_eq_ok_iff.mp h
    exact Or.inl rfl

/-- Whatever the amounts are, a call throws for one of the three reasons and changes
nothing, or its transaction conserves what the inputs hold. -/
theorem call_conserves : Conserved builder inputs outputs (builder.call inputs outputs) := by
  rw [call_eq]
  cases h : builder.build inputs outputs with
  | error e =>
      constructor
      · refine iff_of_true ⟨e, rfl⟩ ((refused_iff builder inputs outputs).mpr ?_)
        rintro ⟨built, hbuilt⟩
        cases h.symm.trans hbuilt
      · intro _ _
        rfl
      · intro tx htx
        cases htx
  | ok built =>
      constructor
      · refine iff_of_false ?_ (not_not.mpr ⟨built, h⟩ ∘ (refused_iff builder inputs outputs).mp)
        rintro ⟨e, he⟩
        cases he
      · intro e he
        cases he
      · rintro tx ⟨⟩
        obtain ⟨kept, _, balanced⟩ := build_spec h
        exact ⟨kept, changeOnly_of_build h, balanced⟩

end Conservation

section Reuse

/-- The text of a shortfall under a fee. -/
def shortage (fee : Int) (inputs : List TransactionInput) (outputs : List TransactionOutput) :
    String :=
  let totalInputValue := (inputs.map (·.value)).sum
  let totalOutputValue := (outputs.map (·.value)).sum
  s!"Insufficient input value: inputs={totalInputValue} nanoERG, " ++
    s!"outputs={totalOutputValue} nanoERG, fee={fee} nanoERG, " ++
    s!"shortfall={totalOutputValue + fee - totalInputValue} nanoERG"

def unspent (changeValue : Int) : String :=
  "Change address required: transaction has " ++
    s!"{changeValue} nanoERG unspent. Call setChangeAddress() first."

/-- An amount ends at the first blank. -/
theorem amount_inj {m n : Int} {r s : Text}
    (h : Js.bigIntToString m ++ ' ' :: r = Js.bigIntToString n ++ ' ' :: s) : m = n := by
  have amount : ∀ (k : Int) (rest : Text),
      (Js.bigIntToString k ++ ' ' :: rest).takeWhile (· != ' ') = Js.bigIntToString k := by
    intro k rest
    rw [List.takeWhile_append_of_pos, List.takeWhile_cons_of_neg (by decide), List.append_nil]
    intro c hc
    rcases Js.mem_bigIntToString hc with rfl | digit
    · rfl
    · rw [bne_iff_ne]
      rintro rfl
      cases digit
  apply Js.bigIntToString_injective
  rw [← amount m r, h, amount n s]

theorem labelled_inj {label unit r s : String} {m n : Int}
    (h : label ++ toString m ++ unit ++ r = label ++ toString n ++ unit ++ s)
    (hunit : unit.toList.head? = some ' ') : m = n := by
  have text := congrArg String.toList h
  simp only [String.toList_append, Js.toList_toString, List.append_assoc,
    List.append_cancel_left_eq] at text
  obtain ⟨rest, hrest⟩ := List.head?_eq_some_iff.mp hunit
  rw [hrest] at text
  exact amount_inj text

theorem shortage_inj {fee other : Int} {inputs : List TransactionInput}
    {outputs : List TransactionOutput}
    (h : shortage fee inputs outputs = shortage other inputs outputs) : fee = other := by
  have shape : ∀ f, ∃ rest, shortage f inputs outputs =
      s!"Insufficient input value: inputs={(inputs.map (·.value)).sum} nanoERG, " ++
        s!"outputs={(outputs.map (·.value)).sum} nanoERG, fee=" ++ toString f ++
        toString " nanoERG, " ++ rest := by
    intro f
    refine ⟨s!"shortfall={(outputs.map (·.value)).sum + f - (inputs.map (·.value)).sum} nanoERG",
      ?_⟩
    unfold shortage
    simp only [← String.append_assoc]
  obtain ⟨r, hr⟩ := shape fee
  obtain ⟨s, hs⟩ := shape other
  rw [hr, hs] at h
  refine labelled_inj h ?_
  rfl

theorem unspent_inj {value other : Int} (h : unspent value = unspent other) : value = other := by
  unfold unspent at h
  rw [← String.append_assoc, ← String.append_assoc] at h
  have ended : ∀ text : String, text = text ++ "" := fun text => String.append_empty.symm
  rw [ended (_ ++ toString other ++ _), ended (_ ++ toString value ++ _)] at h
  refine labelled_inj h ?_
  rfl

theorem shortage_ne_unspent {fee value : Int} {inputs : List TransactionInput}
    {outputs : List TransactionOutput} : shortage fee inputs outputs ≠ unspent value := by
  intro h
  unfold shortage unspent at h
  have text := congrArg (fun s => s.toList.head?) h
  simp only [String.toList_append, List.head?_append] at text
  cases text

variable {builder : TransactionBuilder} {inputs : List TransactionInput}
  {outputs : List TransactionOutput}

theorem call_nil : builder.call [] outputs =
    (.error (.error "Transaction must have at least one input"), builder) := by
  rw [call_eq]
  rfl

theorem call_insufficient (hinputs : inputs ≠ []) (h : leftover builder.fee inputs outputs < 0) :
    builder.call inputs outputs =
      (.error (.error (shortage builder.fee inputs outputs)), builder) := by
  have hcost : (outputs.map (·.value)).sum + builder.fee > (inputs.map (·.value)).sum := by
    unfold leftover at h
    omega
  rw [call_eq, build]
  simp only [List.isEmpty_iff, hinputs, if_false, if_pos hcost]
  rfl

def grown (builder : TransactionBuilder) (growth : Int) : TransactionBuilder :=
  { builder with fee := builder.fee + growth }

/-- Nothing left over, or too little for a box. -/
theorem call_absorbed (hinputs : inputs ≠ []) (h : 0 ≤ leftover builder.fee inputs outputs)
    (hdust : 0 < leftover builder.fee inputs outputs → builder.change ≠ none ∧
      leftover builder.fee inputs outputs < builder.minBoxValue) :
    builder.call inputs outputs =
      (.ok { inputs, outputs, fee := builder.fee + leftover builder.fee inputs outputs },
        builder.grown (leftover builder.fee inputs outputs)) := by
  have hcost : ¬ (outputs.map (·.value)).sum + builder.fee > (inputs.map (·.value)).sum := by
    unfold leftover at h
    omega
  rw [call_eq, build]
  simp only [List.isEmpty_iff, hinputs, if_false, if_neg hcost]
  rcases Int.lt_or_eq_of_le h with some | nothing
  · obtain ⟨hchange, small⟩ := hdust some
    obtain ⟨changeAddress, address⟩ := Option.ne_none_iff_exists'.mp hchange
    have hsome : (inputs.map (·.value)).sum -
        ((outputs.map (·.value)).sum + builder.fee) > 0 := some
    have hsmall : ¬ (inputs.map (·.value)).sum -
        ((outputs.map (·.value)).sum + builder.fee) ≥ builder.minBoxValue :=
      Int.not_le.mpr small
    simp only [if_pos hsome, address, if_neg hsmall]
    rfl
  · have hnothing : ¬ (inputs.map (·.value)).sum -
        ((outputs.map (·.value)).sum + builder.fee) > 0 := by
      unfold leftover at nothing
      omega
    rw [if_neg hnothing, ← nothing, grown, Int.add_zero]
    rfl

theorem call_unaddressed (hinputs : inputs ≠ []) (h : 0 < leftover builder.fee inputs outputs)
    (hchange : builder.change = none) :
    builder.call inputs outputs =
      (.error (.error (unspent (leftover builder.fee inputs outputs))), builder) := by
  have hcost : ¬ (outputs.map (·.value)).sum + builder.fee > (inputs.map (·.value)).sum := by
    unfold leftover at h
    omega
  have hsome : (inputs.map (·.value)).sum -
      ((outputs.map (·.value)).sum + builder.fee) > 0 := h
  rw [call_eq, build]
  simp only [List.isEmpty_iff, hinputs, if_false, if_neg hcost, if_pos hsome, hchange]
  rfl

theorem call_change {changeAddress : Text} (hinputs : inputs ≠ [])
    (h : 0 < leftover builder.fee inputs outputs) (hchange : builder.change = some changeAddress)
    (large : builder.minBoxValue ≤ leftover builder.fee inputs outputs) :
    builder.call inputs outputs =
      (.ok { inputs, fee := builder.fee, outputs := outputs ++
        [{ address := some changeAddress, value := leftover builder.fee inputs outputs }] },
        builder) := by
  have hcost : ¬ (outputs.map (·.value)).sum + builder.fee > (inputs.map (·.value)).sum := by
    unfold leftover at h
    omega
  have hsome : (inputs.map (·.value)).sum -
      ((outputs.map (·.value)).sum + builder.fee) > 0 := h
  have hlarge : (inputs.map (·.value)).sum -
      ((outputs.map (·.value)).sum + builder.fee) ≥ builder.minBoxValue := large
  rw [call_eq, build]
  simp only [List.isEmpty_iff, hinputs, if_false, if_neg hcost, if_pos hsome, hchange,
    if_pos hlarge]
  rfl

/-- What a call with inputs answers, by what is left over. -/
inductive Answer (builder : TransactionBuilder) (inputs : List TransactionInput)
    (outputs : List TransactionOutput) : Except SdkError ErgoTransaction × TransactionBuilder → Prop
  | insufficient (h : leftover builder.fee inputs outputs < 0) :
      Answer builder inputs outputs
        (.error (.error (shortage builder.fee inputs outputs)), builder)
  | absorbed (h : 0 ≤ leftover builder.fee inputs outputs)
      (dust : 0 < leftover builder.fee inputs outputs → builder.change ≠ none ∧
        leftover builder.fee inputs outputs < builder.minBoxValue) :
      Answer builder inputs outputs
        (.ok { inputs, outputs, fee := builder.fee + leftover builder.fee inputs outputs },
          builder.grown (leftover builder.fee inputs outputs))
  | unaddressed (h : 0 < leftover builder.fee inputs outputs) (hchange : builder.change = none) :
      Answer builder inputs outputs
        (.error (.error (unspent (leftover builder.fee inputs outputs))), builder)
  | change (changeAddress : Text) (h : 0 < leftover builder.fee inputs outputs)
      (large : builder.minBoxValue ≤ leftover builder.fee inputs outputs) :
      Answer builder inputs outputs
        (.ok { inputs, fee := builder.fee, outputs := outputs ++
          [{ address := some changeAddress, value := leftover builder.fee inputs outputs }] },
          builder)

theorem call_answer (hinputs : inputs ≠ []) :
    Answer builder inputs outputs (builder.call inputs outputs) := by
  by_cases insufficient : leftover builder.fee inputs outputs < 0
  · rw [call_insufficient hinputs insufficient]
    exact .insufficient insufficient
  by_cases absorbed : 0 < leftover builder.fee inputs outputs → builder.change ≠ none ∧
      leftover builder.fee inputs outputs < builder.minBoxValue
  · rw [call_absorbed hinputs (by omega) absorbed]
    exact .absorbed (by omega) absorbed
  obtain ⟨some, notDust⟩ := Classical.not_imp.mp absorbed
  cases address : builder.change with
  | none =>
      rw [call_unaddressed hinputs some address]
      exact .unaddressed some address
  | some changeAddress =>
      have large : builder.minBoxValue ≤ leftover builder.fee inputs outputs := by
        by_contra small
        exact notDust ⟨by simp [address], by omega⟩
      rw [call_change hinputs some address large]
      exact .change changeAddress some large

/-- A call, with the new builder it would be made on. -/
structure Call where
  fresh : TransactionBuilder
  inputs : List TransactionInput
  outputs : List TransactionOutput

namespace Call

def leftover (call : Call) : Int :=
  TransactionBuilder.leftover call.fresh.fee call.inputs call.outputs

/-- The answer of the new builder. -/
def freshResult (call : Call) : Except SdkError ErgoTransaction :=
  (call.fresh.call call.inputs call.outputs).1

/-- The call adds its leftover to the fee. -/
def AbsorbsDust (call : Call) : Prop :=
  call.inputs ≠ [] ∧ call.fresh.change ≠ none ∧ 0 < call.leftover ∧
    call.leftover < call.fresh.minBoxValue

/-- The call can follow one that has absorbed some dust: if it has inputs, it has a change
address and leaves at least as much, which is too little for a box again. -/
def Covers (call : Call) (dust : Int) : Prop :=
  call.inputs ≠ [] → call.fresh.change ≠ none ∧ dust ≤ call.leftover ∧
    call.leftover < call.fresh.minBoxValue

end Call

theorem leftover_grown (growth : Int) :
    leftover (builder.grown growth).fee inputs outputs =
      leftover builder.fee inputs outputs - growth := by
  simp only [leftover, grown]
  omega

theorem grown_grown (growth leftover : Int) :
    (builder.grown growth).grown (leftover - growth) = builder.grown leftover := by
  simp only [grown, mk.injEq, and_self, and_true]
  omega

theorem call_grown {growth : Int} (hgrowth : 0 < growth)
    (h : (Call.mk builder inputs outputs).Covers growth) (hinputs : inputs ≠ []) :
    (builder.grown growth).call inputs outputs = builder.call inputs outputs := by
  obtain ⟨hchange, enough, dust⟩ := h hinputs
  change growth ≤ leftover builder.fee inputs outputs at enough
  change leftover builder.fee inputs outputs < builder.minBoxValue at dust
  have rest := @leftover_grown builder inputs outputs growth
  have reused := @call_absorbed (builder.grown growth) inputs outputs hinputs (by omega)
    (fun _ => ⟨hchange, Int.lt_of_le_of_lt (by omega) dust⟩)
  rw [reused, @call_absorbed builder inputs outputs hinputs (by omega) (fun _ => ⟨hchange, dust⟩),
    rest, grown_grown]
  simp only [grown, Prod.mk.injEq, Except.ok.injEq, ErgoTransaction.mk.injEq, and_true, true_and]
  omega

/-- The larger fee shows in every answer but that of a call that absorbs it: in the text of an
error, or in the change. -/
theorem covers_of_call_grown {growth : Int} (hgrowth : 0 < growth)
    (h : ((builder.grown growth).call inputs outputs).1 = (builder.call inputs outputs).1) :
    (Call.mk builder inputs outputs).Covers growth := by
  intro hinputs
  have rest := @leftover_grown builder inputs outputs growth
  have fresh := @call_answer builder inputs outputs hinputs
  have reused := @call_answer (builder.grown growth) inputs outputs hinputs
  generalize (builder.grown growth).call inputs outputs = a at h reused
  generalize builder.call inputs outputs = b at h fresh
  cases fresh with
  | insufficient short =>
      cases reused with
      | insufficient =>
          have fee := shortage_inj (SdkError.error.inj (Except.error.inj h))
          simp only [grown] at fee
          omega
      | absorbed | unaddressed | change => omega
  | absorbed hfresh dust =>
      have enough : growth ≤ leftover builder.fee inputs outputs := by
        cases reused with
        | insufficient => cases h
        | absorbed | unaddressed | change => omega
      obtain ⟨hchange, small⟩ := dust (Int.lt_of_lt_of_le hgrowth enough)
      exact ⟨hchange, enough, small⟩
  | unaddressed =>
      cases reused with
      | insufficient => exact absurd (SdkError.error.inj (Except.error.inj h)) shortage_ne_unspent
      | absorbed | change => cases h
      | unaddressed =>
          have value := unspent_inj (SdkError.error.inj (Except.error.inj h))
          omega
  | change =>
      cases reused with
      | insufficient | unaddressed => cases h
      | absorbed =>
          have same := congrArg ErgoTransaction.outputs (Except.ok.inj h)
          exact absurd (List.self_eq_append_right.mp same) (List.cons_ne_nil _ _)
      | change =>
          have same := congrArg ErgoTransaction.outputs (Except.ok.inj h)
          simp only [List.append_cancel_left_eq, List.cons.injEq,
            TransactionOutput.mk.injEq] at same
          omega

theorem answer_grown_iff {growth : Int} (hgrowth : 0 < growth) :
    ((builder.grown growth).call inputs outputs).1 =
        (Call.mk builder inputs outputs).freshResult ↔
      (Call.mk builder inputs outputs).Covers growth := by
  constructor
  · exact covers_of_call_grown hgrowth
  · intro h
    by_cases hinputs : inputs = []
    · rw [Call.freshResult, hinputs, call_nil, call_nil]
    · exact congrArg Prod.fst (call_grown hgrowth h hinputs)

/-- The fee of a transaction of a new builder. -/
theorem call_fee {tx : ErgoTransaction} (h : (builder.call inputs outputs).1 = .ok tx) :
    tx.fee = builder.fee ∨
      builder.fee < tx.fee ∧ tx.fee < builder.fee + builder.minBoxValue := by
  by_cases hinputs : inputs = []
  · rw [hinputs, call_nil] at h
    cases h
  have answer := @call_answer builder inputs outputs hinputs
  generalize builder.call inputs outputs = a at h answer
  cases answer with
  | insufficient | unaddressed => cases h
  | change =>
      obtain rfl := Except.ok.inj h
      exact Or.inl rfl
  | absorbed hleft dust =>
      obtain rfl := Except.ok.inj h
      rcases Int.lt_or_eq_of_le hleft with some | nothing
      · have small := (dust some).2
        right
        dsimp only
        omega
      · left
        dsimp only
        omega

/-- What is done with a builder between two `setFee`. -/
inductive Operation where
  | build (inputs : List TransactionInput) (outputs : List TransactionOutput)
  | setChangeAddress (address : Text)

/-- The answers of one builder. -/
def results (builder : TransactionBuilder) :
    List Operation → List (Except SdkError ErgoTransaction)
  | [] => []
  | .build inputs outputs :: rest =>
      (builder.call inputs outputs).1 :: (builder.call inputs outputs).2.results rest
  | .setChangeAddress address :: rest =>
      { builder with changeAddress := some address }.results rest

def calls (builder : TransactionBuilder) : List Operation → List Call
  | [] => []
  | .build inputs outputs :: rest => ⟨builder, inputs, outputs⟩ :: builder.calls rest
  | .setChangeAddress address :: rest =>
      { builder with changeAddress := some address }.calls rest

/-- A fee grows by nothing but the dust of its own transaction. -/
def OwnDustOnly (builder : TransactionBuilder) (tx : ErgoTransaction) : Prop :=
  Balanced tx ∧ (tx.fee = builder.fee ∨
    builder.fee < tx.fee ∧ tx.fee < builder.fee + builder.minBoxValue)

/-- No transaction is influenced by an earlier one. -/
structure Uninfluenced (builder : TransactionBuilder) (operations : List Operation) : Prop where
  fresh : builder.results operations = (builder.calls operations).map (·.freshResult)
  fee : ∀ tx, .ok tx ∈ builder.results operations → OwnDustOnly builder tx

theorem ownDustOnly_of_call {tx : ErgoTransaction} (h : (builder.call inputs outputs).1 = .ok tx) :
    OwnDustOnly builder tx := by
  refine ⟨?_, call_fee h⟩
  rw [call_eq] at h
  cases hbuild : builder.build inputs outputs with
  | error e =>
      rw [hbuild] at h
      cases h
  | ok built =>
      rw [hbuild] at h
      obtain rfl := Except.ok.inj h
      exact (build_spec hbuild).2.2

theorem ownDustOnly_of_calls {tx : ErgoTransaction} {operations : List Operation} {call : Call}
    (hcall : call ∈ builder.calls operations) (h : call.freshResult = .ok tx) :
    OwnDustOnly builder tx := by
  induction operations generalizing builder with
  | nil => cases hcall
  | cons operation rest ih =>
      cases operation with
      | setChangeAddress address => exact @ih { builder with changeAddress := some address } hcall
      | build inputs outputs =>
          rcases List.mem_cons.mp hcall with rfl | later
          · exact ownDustOnly_of_call h
          · exact ih later

theorem covers_mono {call : Call} {dust more : Int} (hle : dust ≤ more) (h : call.Covers more) :
    call.Covers dust := by
  intro hinputs
  obtain ⟨hchange, enough, small⟩ := h hinputs
  exact ⟨hchange, Int.le_trans hle enough, small⟩

theorem grown_zero : builder.grown 0 = builder := by
  rw [grown, Int.add_zero]

theorem after_of_absorbs {call : Call} (h : call.AbsorbsDust) :
    (call.fresh.call call.inputs call.outputs).2 = call.fresh.grown call.leftover := by
  obtain ⟨hinputs, hchange, some, small⟩ := h
  rw [call_absorbed hinputs (Int.le_of_lt some) (fun _ => ⟨hchange, small⟩)]
  rfl

theorem after_of_not_absorbs {call : Call} (h : ¬ call.AbsorbsDust) :
    (call.fresh.call call.inputs call.outputs).2 = call.fresh := by
  by_cases hinputs : call.inputs = []
  · rw [hinputs, call_nil]
  have answer : Answer call.fresh call.inputs call.outputs
      (call.fresh.call call.inputs call.outputs) := call_answer hinputs
  generalize call.fresh.call call.inputs call.outputs = a at answer
  cases answer with
  | insufficient | unaddressed | change => rfl
  | absorbed hleft dust =>
      rcases Int.lt_or_eq_of_le hleft with some | nothing
      · obtain ⟨hchange, small⟩ := dust some
        exact absurd ⟨hinputs, hchange, some, small⟩ h
      · rw [← nothing]
        exact grown_zero

/-- Both builders answer alike to a whole run exactly if each call absorbs the dust of those
before it. The growth of the fee is what the calls so far have absorbed. -/
theorem results_grown_iff {growth : Int} (hgrowth : 0 ≤ growth) {operations : List Operation} :
    (builder.grown growth).results operations =
        (builder.calls operations).map (·.freshResult) ↔
      (0 < growth → ∀ call ∈ builder.calls operations, call.Covers growth) ∧
        (builder.calls operations).Pairwise
          (fun earlier later => earlier.AbsorbsDust → later.Covers earlier.leftover) := by
  induction operations generalizing builder growth with
  | nil => simp [results, calls]
  | cons operation rest ih =>
      cases operation with
      | setChangeAddress address =>
          exact @ih { builder with changeAddress := some address } growth hgrowth
      | build inputs outputs =>
          rw [calls, List.map_cons, results, List.cons_eq_cons, List.forall_mem_cons,
            List.pairwise_cons]
          rcases Int.lt_or_eq_of_le hgrowth with larger | same
          · rw [answer_grown_iff larger]
            by_cases covers : (Call.mk builder inputs outputs).Covers growth
            · by_cases hinputs : inputs = []
              · have notAbsorbs : ¬ (Call.mk builder inputs outputs).AbsorbsDust :=
                  fun h => h.1 hinputs
                have after : ((builder.grown growth).call inputs outputs).2 =
                    builder.grown growth := by
                  rw [hinputs, call_nil]
                rw [after, ih hgrowth]
                simp [covers, notAbsorbs]
              · obtain ⟨hchange, enough, small⟩ := covers hinputs
                have some := Int.lt_of_lt_of_le larger enough
                have absorbs : (Call.mk builder inputs outputs).AbsorbsDust :=
                  ⟨hinputs, hchange, some, small⟩
                have after : ((builder.grown growth).call inputs outputs).2 =
                    builder.grown (Call.mk builder inputs outputs).leftover := by
                  rw [call_grown larger covers hinputs]
                  exact after_of_absorbs absorbs
                have weaker : (∀ call ∈ builder.calls rest,
                    call.Covers (Call.mk builder inputs outputs).leftover) →
                    ∀ call ∈ builder.calls rest, call.Covers growth :=
                  fun h call hcall => covers_mono enough (h call hcall)
                rw [after, ih (Int.le_of_lt some)]
                simp only [covers, larger, some, absorbs, forall_true_left, true_and]
                exact ⟨fun h => ⟨weaker h.1, h⟩, And.right⟩
            · simp [covers, larger]
          · subst same
            rw [grown_zero]
            by_cases absorbs : (Call.mk builder inputs outputs).AbsorbsDust
            · have after : (builder.call inputs outputs).2 = builder.grown _ :=
                after_of_absorbs absorbs
              have some := absorbs.2.2.1
              rw [after, ih (Int.le_of_lt some)]
              simp [Call.freshResult, absorbs, some]
            · have after : (builder.call inputs outputs).2 = builder :=
                after_of_not_absorbs absorbs
              have kept := @ih builder 0 (Int.le_refl 0)
              rw [grown_zero] at kept
              rw [after, kept]
              simp [Call.freshResult, absorbs]

/-- Transactions built one after another do not influence each other exactly if every call
with inputs after one that absorbs dust absorbs at least as much. -/
theorem uninfluenced_iff (operations : List Operation) :
    Uninfluenced builder operations ↔
      (builder.calls operations).Pairwise
        (fun earlier later => earlier.AbsorbsDust → later.Covers earlier.leftover) := by
  have fresh := @results_grown_iff builder 0 (Int.le_refl 0) operations
  rw [grown_zero] at fresh
  simp only [Int.lt_irrefl, false_imp_iff, true_and] at fresh
  rw [← fresh]
  refine ⟨Uninfluenced.fresh, fun h => ⟨h, fun tx htx => ?_⟩⟩
  rw [h] at htx
  obtain ⟨call, hcall, answer⟩ := List.mem_map.mp htx
  exact ownDustOnly_of_calls hcall answer

/-- Two bets of 0.009 ERG from one default builder. The second input covers its outputs and
the fee of 0.001 ERG exactly, but the first has left 0.00005 ERG in the fee. -/
def twoBets : List Operation :=
  [.build [{ boxId := "a".toList, value := 10050000 }] [{ address := none, value := 9000000 }],
   .build [{ boxId := "b".toList, value := 10000000 }] [{ address := none, value := 9000000 }]]

theorem twoBets_influenced :
    ¬ Uninfluenced (create { changeAddress := some "9f".toList }) twoBets := by
  intro h
  have built := congrArg (fun answers => answers.map (·.isOk)) h.fresh
  revert built
  decide

end Reuse

end DuckPools.Sdk.TransactionBuilder
