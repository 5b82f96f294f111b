import DuckPools.ErgoScript.Box

/-!
# The guard script `BANKROLL_POOL_SCRIPT`

The pool is one box. Its first token is the pool NFT, the quantity of its second
token is the LP supply, and R4-R7 hold the parameters. A transaction that spends it
takes one of four paths: deposit, withdraw, collect or update. The path is decided by
the signs of the two changes, in supply and in value, between the pool box and the
first output with the same NFT and the same script.

The house key R4 is read at two types, as a `GroupElement` for the signature and as
`Coll[Byte]` for the comparison with the output, and a read at the wrong type raises. A key
that can sign is therefore never compared, and of the four paths only the update, which
compares no registers, is ever taken (`path_eq_update`). With the key as the bytes that the
register table of the script asks for, the box cannot be spent.
-/

namespace DuckPools.Bankroll

open ErgoScript

variable {Point : Type}

/-- The values the head of the script takes from `SELF`. -/
structure SelfVals (Point : Type) where
  poolNFT : Bytes
  lpTokenId : Bytes
  selfLpSupply : Amount
  housePk : Point
  minDeposit : Int64
  cooldownDelta : Int32
  houseEdgeBps : Int32

/-- The same, with the output the pool continues in. -/
structure Vals (Point : Type) extends SelfVals Point where
  poolOut : Box Point
  outLpToken : Token

/-- The output that continues the pool: same NFT, same script. -/
def continues (self : Box Point) (poolNFT : Bytes) (b : Box Point) : Bool :=
  decide (2 ≤ b.tokens.length) && (b.tokens[0]?.map Token.id == some poolNFT) &&
    (b.propositionBytes == self.propositionBytes)

def readSelf (self : Box Point) : Eval (SelfVals Point) := do
  let nft ← self.tokens[0]?
  let lp ← self.tokens[1]?
  let housePk ← self.groupElement .R4
  let minDeposit ← self.long .R5
  let cooldownDelta ← self.int .R6
  let houseEdgeBps ← self.int .R7
  return {
    poolNFT := nft.id, lpTokenId := lp.id, selfLpSupply := lp.amount, housePk, minDeposit,
    cooldownDelta, houseEdgeBps }

def readVals (ctx : Context Point) : Eval (Vals Point) := do
  let own ← readSelf ctx.self
  let poolOut ← ctx.outputs.find? (continues ctx.self own.poolNFT)
  let outLpToken ← poolOut.tokens[1]?
  return { own with poolOut, outLpToken }

namespace Vals

variable (v : Vals Point)

def outLpSupply : Nat := v.outLpToken.amount

def lpSupplyDelta : Int := (v.outLpSupply : Int) - (v.selfLpSupply : Nat)

@[simp] theorem lpSupplyDelta_pos :
    0 < v.lpSupplyDelta ↔ (v.selfLpSupply : Nat) < v.outLpSupply := by
  rw [lpSupplyDelta]
  omega

@[simp] theorem lpSupplyDelta_neg : v.lpSupplyDelta < 0 ↔ v.outLpSupply < v.selfLpSupply := by
  rw [lpSupplyDelta]
  omega

@[simp] theorem lpSupplyDelta_zero : v.lpSupplyDelta = 0 ↔ v.outLpSupply = v.selfLpSupply := by
  rw [lpSupplyDelta]
  omega

end Vals

/-- `poolOut.R[T].get == SELF.R[T].get` -/
def sameRegister {α : Type} [BEq α] (read : Box Point → Reg → Eval α) (self poolOut : Box Point)
    (r : Reg) : Eval Bool := do
  let new ← read poolOut r
  let old ← read self r
  return new == old

/-- The four comparisons that the deposit, withdraw and collect paths share. -/
def paramsKept (self poolOut : Box Point) : Eval Bool :=
  Eval.and (sameRegister Box.collByte self poolOut .R4) <|
  Eval.and (sameRegister Box.long self poolOut .R5) <|
  Eval.and (sameRegister Box.int self poolOut .R6) <|
  sameRegister Box.int self poolOut .R7

def isDeposit (ctx : Context Point) (v : Vals Point) : Eval Bool :=
  Eval.and (some (decide (0 < v.lpSupplyDelta))) <|
  Eval.and (some (decide ((ctx.self.value : Nat) < v.poolOut.value))) <|
  paramsKept ctx.self v.poolOut

/-- The body of the `INPUTS.exists` in `hasValidWithdrawRequest`. -/
def validRequest (self : Box Point) (height : Int32) (lpTokenId : Bytes) (inp : Box Point) :
    Eval Bool :=
  Eval.and (some (inp.id != self.id)) <|
  Eval.and (some (decide (1 ≤ inp.tokens.length))) <|
  Eval.and (some (inp.tokens[0]?.map Token.id == some lpTokenId)) <|
  Eval.and (inp.intDefined .R6) <|
  Eval.and (inp.intDefined .R7) <| do
    let requestHeight ← inp.int .R6
    let cooldown ← inp.int .R7
    let executable ← addInt requestHeight cooldown
    return decide (executable.toInt ≤ height.toInt)

def hasValidWithdrawRequest (self : Box Point) (inputs : List (Box Point)) (height : Int32)
    (lpTokenId : Bytes) : Eval Bool :=
  Eval.exists_ (validRequest self height lpTokenId) inputs

def isWithdraw (ctx : Context Point) (v : Vals Point) : Eval Bool :=
  Eval.and (some (decide (v.lpSupplyDelta < 0))) <|
  Eval.and (some (decide ((v.poolOut.value : Nat) < ctx.self.value))) <|
  Eval.and (paramsKept ctx.self v.poolOut) <|
  Eval.and (some (decide (v.minDeposit.toInt ≤ (v.poolOut.value : Nat)))) <|
  hasValidWithdrawRequest ctx.self ctx.inputs ctx.height v.lpTokenId

/-- `isCollect` without its signature. -/
def isCollect (ctx : Context Point) (v : Vals Point) : Eval Bool :=
  Eval.and (some (decide (v.lpSupplyDelta = 0))) <|
  Eval.and (some (decide ((ctx.self.value : Nat) < v.poolOut.value))) <|
  paramsKept ctx.self v.poolOut

/-- `isUpdate` without its signature. -/
def isUpdate (ctx : Context Point) (v : Vals Point) : Bool :=
  decide (v.lpSupplyDelta = 0) && decide ((v.poolOut.value : Nat) = ctx.self.value)

/-- `isDeposit || isWithdraw || isCollect || isUpdate`. The first two are booleans and
lazy; joined with propositions the rest is reduced completely. -/
def guard (ctx : Context Point) : Eval (SigmaProp Point) := do
  let v ← readVals ctx
  let unsigned ← Eval.or (isDeposit ctx v) (isWithdraw ctx v)
  let collect ← isCollect ctx v
  return .or (.or (.bool unsigned) (.and (.bool collect) (.proveDlog v.housePk)))
    (.and (.bool (isUpdate ctx v)) (.proveDlog v.housePk))

section Acceptance

variable [DecidableEq Point]

/-- The pool box may be spent in `ctx` by a transaction the given keys have signed. -/
def accepts (ctx : Context Point) (signers : List Point) : Prop :=
  ∃ prop, guard ctx = some prop ∧ prop.provedBy signers = true

end Acceptance

/-- The four ways a transaction can be accepted. -/
inductive Path where
  | deposit | withdraw | collect | update
  deriving DecidableEq

/-- `ctx` takes `path`, and carries the signature this path asks for. -/
def Takes (ctx : Context Point) (signers : List Point) (v : Vals Point) : Path → Prop
  | .deposit => isDeposit ctx v = some true
  | .withdraw => isWithdraw ctx v = some true
  | .collect => isCollect ctx v = some true ∧ v.housePk ∈ signers
  | .update => isUpdate ctx v = true ∧ v.housePk ∈ signers

/-- The guard accepts, on the values `v`, through `path`. -/
def AcceptedVia [DecidableEq Point] (ctx : Context Point) (signers : List Point)
    (v : Vals Point) (path : Path) : Prop :=
  accepts ctx signers ∧ readVals ctx = some v ∧ Takes ctx signers v path

variable {ctx : Context Point} {v : Vals Point} {signers : List Point}

theorem readSelf_eq_some_iff {self : Box Point} {own : SelfVals Point} :
    readSelf self = some own ↔
      (∃ nft, self.tokens[0]? = some nft ∧ own.poolNFT = nft.id) ∧
      self.tokens[1]? = some ⟨own.lpTokenId, own.selfLpSupply⟩ ∧
      self.groupElement .R4 = some own.housePk ∧ self.long .R5 = some own.minDeposit ∧
      self.int .R6 = some own.cooldownDelta ∧ self.int .R7 = some own.houseEdgeBps := by
  simp only [readSelf, Option.bind_eq_bind, Option.bind_eq_some_iff, Option.pure_def,
    Option.some.injEq]
  constructor
  · rintro ⟨nft, h0, lp, h1, pk, hpk, md, hmd, cd, hcd, he, hhe, rfl⟩
    exact ⟨⟨nft, h0, rfl⟩, h1, hpk, hmd, hcd, hhe⟩
  · rintro ⟨⟨nft, h0, hnft⟩, h1, hpk, hmd, hcd, hhe⟩
    refine ⟨nft, h0, _, h1, _, hpk, _, hmd, _, hcd, _, hhe, ?_⟩
    rw [← hnft]

theorem readVals_eq_some_iff :
    readVals ctx = some v ↔
      readSelf ctx.self = some v.toSelfVals ∧
        ctx.outputs.find? (continues ctx.self v.poolNFT) = some v.poolOut ∧
        v.poolOut.tokens[1]? = some v.outLpToken := by
  simp only [readVals, Option.bind_eq_bind, Option.bind_eq_some_iff, Option.pure_def,
    Option.some.injEq]
  constructor
  · rintro ⟨own, hown, out, hout, lp, hlp, rfl⟩
    exact ⟨hown, hout, hlp⟩
  · rintro ⟨hown, hout, hlp⟩
    exact ⟨_, hown, _, hout, _, hlp, rfl⟩

/-- The continuing output has the NFT and the script of the spent box. -/
theorem poolOut_spec (h : readVals ctx = some v) :
    v.poolOut ∈ ctx.outputs ∧ v.poolOut.tokens[0]?.map Token.id = some v.poolNFT ∧
      v.poolOut.propositionBytes = ctx.self.propositionBytes := by
  obtain ⟨_, hout, _⟩ := readVals_eq_some_iff.mp h
  have hsat := List.find?_some hout
  simp only [continues, Bool.and_eq_true, beq_iff_eq] at hsat
  exact ⟨List.mem_of_find?_eq_some hout, hsat.1.2, hsat.2⟩

theorem sameRegister_eq_true_iff {α : Type} [BEq α] [LawfulBEq α]
    {read : Box Point → Reg → Eval α} {self poolOut : Box Point} {r : Reg} :
    sameRegister read self poolOut r = some true ↔
      ∃ x, read poolOut r = some x ∧ read self r = some x := by
  simp only [sameRegister, Option.bind_eq_bind, Option.bind_eq_some_iff, Option.pure_def,
    Option.some.injEq, beq_iff_eq]
  constructor
  · rintro ⟨new, hnew, old, hold, rfl⟩
    exact ⟨_, hnew, hold⟩
  · rintro ⟨x, hnew, hold⟩
    exact ⟨x, hnew, x, hold, rfl⟩

theorem paramsKept_eq_true_iff {self poolOut : Box Point} :
    paramsKept self poolOut = some true ↔
      (∃ bytes, poolOut.collByte .R4 = some bytes ∧ self.collByte .R4 = some bytes) ∧
      (∃ n, poolOut.long .R5 = some n ∧ self.long .R5 = some n) ∧
      (∃ n, poolOut.int .R6 = some n ∧ self.int .R6 = some n) ∧
      ∃ n, poolOut.int .R7 = some n ∧ self.int .R7 = some n := by
  simp only [paramsKept, Eval.and_eq_true, sameRegister_eq_true_iff]

/-- Kept parameters include a house key stored as a byte string, which cannot sign. -/
theorem groupElement_of_paramsKept {self poolOut : Box Point}
    (h : paramsKept self poolOut = some true) : self.groupElement .R4 = none := by
  obtain ⟨⟨bytes, _, hk⟩, _⟩ := paramsKept_eq_true_iff.mp h
  simp only [Box.groupElement, Box.collByte_eq_some_iff.mp hk]

theorem isDeposit_eq_true_iff :
    isDeposit ctx v = some true ↔
      (v.selfLpSupply : Nat) < v.outLpSupply ∧ (ctx.self.value : Nat) < v.poolOut.value ∧
        paramsKept ctx.self v.poolOut = some true := by
  simp only [isDeposit, Eval.and_eq_true, Option.some.injEq, decide_eq_true_eq,
    Vals.lpSupplyDelta_pos]

theorem isWithdraw_eq_true_iff :
    isWithdraw ctx v = some true ↔
      v.outLpSupply < v.selfLpSupply ∧ (v.poolOut.value : Nat) < ctx.self.value ∧
        paramsKept ctx.self v.poolOut = some true ∧
        v.minDeposit.toInt ≤ (v.poolOut.value : Nat) ∧
        hasValidWithdrawRequest ctx.self ctx.inputs ctx.height v.lpTokenId = some true := by
  simp only [isWithdraw, Eval.and_eq_true, Option.some.injEq, decide_eq_true_eq,
    Vals.lpSupplyDelta_neg]

theorem isCollect_eq_true_iff :
    isCollect ctx v = some true ↔
      v.outLpSupply = v.selfLpSupply ∧ (ctx.self.value : Nat) < v.poolOut.value ∧
        paramsKept ctx.self v.poolOut = some true := by
  simp only [isCollect, Eval.and_eq_true, Option.some.injEq, decide_eq_true_eq,
    Vals.lpSupplyDelta_zero]

theorem isUpdate_eq_true_iff :
    isUpdate ctx v = true ↔
      v.outLpSupply = v.selfLpSupply ∧ (v.poolOut.value : Nat) = ctx.self.value := by
  simp only [isUpdate, Bool.and_eq_true, decide_eq_true_eq, Vals.lpSupplyDelta_zero]

/-- Every accepted transaction takes one of the paths. -/
theorem exists_path [DecidableEq Point] (h : accepts ctx signers) :
    ∃ v path, AcceptedVia ctx signers v path := by
  obtain ⟨prop, hguard, hproved⟩ := id h
  simp only [guard, Option.bind_eq_bind, Option.bind_eq_some_iff, Option.pure_def,
    Option.some.injEq] at hguard
  obtain ⟨v, hread, unsigned, hunsigned, collect, hcollect, rfl⟩ := hguard
  simp only [SigmaProp.provedBy, Bool.or_eq_true, Bool.and_eq_true, decide_eq_true_eq] at hproved
  refine ⟨v, ?_⟩
  obtain (rfl | ⟨rfl, hkey⟩) | ⟨hupdate, hkey⟩ := hproved
  · obtain hdeposit | ⟨_, hwithdraw⟩ := Eval.or_eq_true.mp hunsigned
    · exact ⟨.deposit, h, hread, hdeposit⟩
    · exact ⟨.withdraw, h, hread, hwithdraw⟩
  · exact ⟨.collect, h, hread, hcollect, hkey⟩
  · exact ⟨.update, h, hread, hupdate, hkey⟩

/-- What has been read for the signature cannot be compared. -/
theorem paramsKept_ne_true (hread : readVals ctx = some v) :
    paramsKept ctx.self v.poolOut ≠ some true := by
  intro kept
  obtain ⟨hown, _⟩ := readVals_eq_some_iff.mp hread
  obtain ⟨_, _, hkey, _⟩ := readSelf_eq_some_iff.mp hown
  rw [groupElement_of_paramsKept kept] at hkey
  cases hkey

/-- Of the four paths only the update is ever taken. -/
theorem path_eq_update {path : Path} (hread : readVals ctx = some v)
    (h : Takes ctx signers v path) : path = .update := by
  have clash := paramsKept_ne_true hread
  cases path with
  | deposit => exact absurd (isDeposit_eq_true_iff.mp h).2.2 clash
  | withdraw => exact absurd (isWithdraw_eq_true_iff.mp h).2.2.1 clash
  | collect => exact absurd (isCollect_eq_true_iff.mp h.1).2.2 clash
  | update => rfl

/-- What an accepted transaction does: the house signs, and neither the supply nor the value
changes. -/
structure Updates (ctx : Context Point) (signers : List Point) (v : Vals Point) : Prop where
  supply : v.outLpSupply = v.selfLpSupply
  value : (v.poolOut.value : Nat) = ctx.self.value
  signed : v.housePk ∈ signers

theorem AcceptedVia.updates [DecidableEq Point] {path : Path}
    (h : AcceptedVia ctx signers v path) : Updates ctx signers v := by
  obtain ⟨_, hread, htakes⟩ := h
  obtain rfl := path_eq_update hread htakes
  obtain ⟨supply, value⟩ := isUpdate_eq_true_iff.mp htakes.1
  exact ⟨supply, value, htakes.2⟩

/-- The update is accepted: the other paths are ruled out before they compare registers. -/
theorem accepted_of_updates [DecidableEq Point] (hread : readVals ctx = some v)
    (h : Updates ctx signers v) : AcceptedVia ctx signers v .update := by
  have same := v.lpSupplyDelta_zero.mpr h.supply
  have update : isUpdate ctx v = true := isUpdate_eq_true_iff.mpr ⟨h.supply, h.value⟩
  have deposit : isDeposit ctx v = some false := by
    rw [isDeposit, decide_eq_false (by omega), Eval.and_false]
  have withdraw : isWithdraw ctx v = some false := by
    rw [isWithdraw, decide_eq_false (by omega), Eval.and_false]
  have collect : isCollect ctx v = some false := by
    rw [isCollect, h.value, decide_eq_false (Nat.lt_irrefl _), Eval.and_false,
      decide_eq_true same]
    rfl
  refine ⟨⟨.or (.or (.bool false) (.and (.bool false) (.proveDlog v.housePk)))
    (.and (.bool true) (.proveDlog v.housePk)), ?_, ?_⟩, hread, update, h.signed⟩
  · simp only [guard, hread, deposit, withdraw, collect, update, Eval.or_false,
      Option.bind_eq_bind, Option.bind_some, Option.pure_def]
  · simp [SigmaProp.provedBy, h.signed]

/-- A pool box of this value and supply, with the house key as it signs. -/
def examplePool (id : Byte) (value supply : Amount) (lpTokenId : Bytes) (minDeposit : Int64) :
    Box Bool where
  id := [id]
  value := value
  propositionBytes := [9]
  tokens := [⟨[7], Amount.ofNat 1⟩, ⟨lpTokenId, supply⟩]
  registers
    | .R4 => some (.groupElement true)
    | .R5 => some (.long minDeposit)
    | .R6 => some (.int 60)
    | .R7 => some (.int 300)
    | _ => none

/-- An update by the house that continues the pool with the LP token `lpTokenId`. -/
def update (lpTokenId : Bytes) : Context Bool where
  self := examplePool 1 (Amount.ofNat 1000) (Amount.ofNat 100) [8] 10
  inputs := [examplePool 1 (Amount.ofNat 1000) (Amount.ofNat 100) [8] 10]
  outputs := [examplePool 2 (Amount.ofNat 1000) (Amount.ofNat 100) lpTokenId 20]
  height := 100
  parentId := []

def updateVals (lpTokenId : Bytes) : Vals Bool where
  poolNFT := [7]
  lpTokenId := [8]
  selfLpSupply := Amount.ofNat 100
  housePk := true
  minDeposit := 10
  cooldownDelta := 60
  houseEdgeBps := 300
  poolOut := examplePool 2 (Amount.ofNat 1000) (Amount.ofNat 100) lpTokenId 20
  outLpToken := ⟨lpTokenId, Amount.ofNat 100⟩

theorem update_accepted (lpTokenId : Bytes) :
    AcceptedVia (update lpTokenId) [true] (updateVals lpTokenId) .update :=
  accepted_of_updates rfl ⟨rfl, rfl, List.mem_singleton.mpr rfl⟩

end DuckPools.Bankroll
