import DuckPools.Coinflip.Contract
import DuckPools.ErgoScript.Reduction
import Mathlib.Data.List.SplitLengths

/-!
# The deployed contract

What locks a bet is not the source of the contract but the script it was compiled to, which the
backend hands out and the wallet puts into the bet box. The compiler has moved the constants in
front of the tree, shares the values that are used twice and leaves the others where they
are needed, so the registers are not read in the order of the source and some of them only
inside a path.

None of this can be observed: in every context the script reduces to the proposition of the
source, and raises exactly where the source does.
-/

namespace DuckPools.CoinflipV2

open ErgoScript Expr

variable {Point : Type}

/-- The script, as it is published together with its address. -/
def ergoTreeHex : Text :=
  ["19d8010c04000200020104000404040005c20105640400040004000564d805d601cdeee4c6a7040ed602e4c6",
    "a7090ed603e4c6a70704d604cdeee4c6a7050ed605c1a7eb02ea02ea027201d193cbb3720283010295937203",
    "730073017302e4c6a7060ed195939e7eb2cbb3db6902db6503fe72027303000473047203d801d606b2a57305",
    "00ed93c27206d0720492c172069d9c720573067307d801d606b2a5730800ed93c27206d0720192c172067205",
    "ea02ea02ea02d192a3e4c6a708047204d193c2b2a5730900d07204d192c1b2a5730a009972059d7205730b"].flatMap
      String.toList

/-- `SELF.R[T].get` -/
def register (r : Reg) (t : SType) : Expr Point :=
  unary .optionGet (extractRegisterAs (leaf .self) r t)

/-- `proveDlog(decodePoint(SELF.R[Coll[Byte]].get))` -/
def publicKey (r : Reg) : Expr Point :=
  unary .createProveDlog (unary .decodePoint (register r .collByte))

/-- `OUTPUTS(0)`; every use has its own constant for the position. -/
def firstOutput (position : Nat) : Expr Point :=
  byIndex (leaf .outputs) (constantPlaceholder position)

/-- `out.propositionBytes == prop.propBytes` -/
def paysTo (out prop : Expr Point) : Expr Point :=
  binary .eq (unary .extractScriptBytes out) (unary .sigmaPropBytes prop)

def choiceByteExpr : Expr Point :=
  ite (binary .eq (valUse 3) (constantPlaceholder 0)) (constantPlaceholder 1)
    (constantPlaceholder 2)

def commitmentOkExpr : Expr Point :=
  binary .eq
    (unary .calcBlake2b256 (binary .append (valUse 2) (concreteCollection [choiceByteExpr])))
    (register .R6 .collByte)

def playerWinsExpr : Expr Point :=
  binary .eq
    (binary .modulo
      (upcast
        (byIndex
          (unary .calcBlake2b256
            (binary .append (propertyCall .parentId (propertyCall .preHeader (leaf .context)))
              (valUse 2)))
          (constantPlaceholder 3))
        .int)
      (constantPlaceholder 4))
    (valUse 3)

def winPayoutExpr : Expr Point :=
  binary .division (binary .multiply (valUse 5) (constantPlaceholder 6)) (constantPlaceholder 7)

def refundAmountExpr : Expr Point :=
  binary .minus (valUse 5) (binary .division (valUse 5) (constantPlaceholder 11))

def paysPlayer : Expr Point :=
  blockValue [valDef 6 (firstOutput 5)]
    (binAnd (paysTo (valUse 6) (valUse 4))
      (binary .ge (unary .extractAmount (valUse 6)) winPayoutExpr))

def paysHouse : Expr Point :=
  blockValue [valDef 6 (firstOutput 8)]
    (binAnd (paysTo (valUse 6) (valUse 1))
      (binary .ge (unary .extractAmount (valUse 6)) (valUse 5)))

def revealPaysExpr : Expr Point := ite playerWinsExpr paysPlayer paysHouse

def canRevealExpr : Expr Point :=
  sigmaAnd
    [sigmaAnd [valUse 1, unary .boolToSigmaProp commitmentOkExpr],
      unary .boolToSigmaProp revealPaysExpr]

def timedOutExpr : Expr Point := binary .ge (leaf .height) (register .R8 .int)

def refundsPlayer : Expr Point := paysTo (firstOutput 9) (valUse 4)

def refundPays : Expr Point :=
  binary .ge (unary .extractAmount (firstOutput 10)) refundAmountExpr

def canRefundExpr : Expr Point :=
  sigmaAnd
    [sigmaAnd
      [sigmaAnd [unary .boolToSigmaProp timedOutExpr, valUse 4],
        unary .boolToSigmaProp refundsPlayer],
      unary .boolToSigmaProp refundPays]

/-- The values that both paths use. -/
def head : List (Expr Point) :=
  [valDef 1 (publicKey .R4), valDef 2 (register .R9 .collByte), valDef 3 (register .R7 .int),
    valDef 4 (publicKey .R5), valDef 5 (unary .extractAmount (leaf .self))]

def segregated : List (Const Point) :=
  [.value (.int 0), .byte 0, .byte 1, .value (.int 0), .value (.int 2), .value (.int 0),
    .value (.long 97), .value (.long 50), .value (.int 0), .value (.int 0), .value (.int 0),
    .value (.long 50)]

/-- The script as a tree. -/
def deployed : ErgoTree Point where
  version := 1
  sized := true
  constants := some segregated
  root := blockValue head (sigmaOr [canRevealExpr, canRefundExpr])

section Bytes

variable (E : Curve Point)

/-- A text is the characters of its pieces. -/
theorem flatMap_pieces {pieces : List String} {text : Text} (lengths : List Nat)
    (total : text.length = lengths.sum)
    (h : pieces = (lengths.splitLengths text).map String.ofList) :
    pieces.flatMap String.toList = text := by
  have whole := List.flatten_splitLengths text lengths total.le
  subst h
  simpa [List.flatMap_map, List.flatMap_id'] using whole

set_option maxRecDepth 4000 in
/-- The published script is this tree. -/
theorem ergoTreeHex_eq : ergoTreeHex = Hex.encode ((@deployed Point).serialize E) := by
  have size : Vlq.encode 216 = [0xd8#8, 1#8] := by simp [Vlq.encode_of_ge, Vlq.encode_of_lt]
  have long : Vlq.encode 194 = [0xc2#8, 1#8] := by simp [Vlq.encode_of_ge, Vlq.encode_of_lt]
  simp [ErgoTree.serialize, ErgoTree.contents, ErgoTree.serializeConstants, deployed, segregated,
    head, Const.serialize, Const.data, Const.type, SType.code, Vlq.zigzag, Vlq.encode_of_lt, size,
    long, serialize, serializeAll, Opcode.code, Reg.id, Property.id, register, publicKey,
    firstOutput, paysTo, choiceByteExpr, commitmentOkExpr, playerWinsExpr, winPayoutExpr,
    refundAmountExpr, paysPlayer, paysHouse, revealPaysExpr, canRevealExpr, timedOutExpr,
    refundsPlayer, refundPays, canRefundExpr]
  exact flatMap_pieces [88, 88, 88, 88, 86] rfl rfl

theorem decode_ergoTreeHex : Hex.decode ergoTreeHex = some ((@deployed Point).serialize E) := by
  rw [ergoTreeHex_eq E, Hex.decode_encode]

theorem wellFormed_deployed : (@deployed Point).WellFormed where
  sized := .inl rfl
  constants := by
    rintro cs ⟨⟩
    simp [segregated, Const.depth, maxTreeDepth]
  root := by
    simp [deployed, head, depth, depthAll, maxTreeDepth, register, publicKey, firstOutput,
      paysTo, choiceByteExpr, commitmentOkExpr, playerWinsExpr, winPayoutExpr,
      refundAmountExpr, paysPlayer, paysHouse, revealPaysExpr, canRevealExpr, timedOutExpr,
      refundsPlayer, refundPays, canRefundExpr]

variable {E} in
/-- A box with the published script is guarded by the tree. -/
theorem parse_of_ergoTreeHex {bytes : Bytes} (h : Hex.decode ergoTreeHex = some bytes) :
    ErgoTree.parse E bytes = some deployed := by
  obtain rfl : deployed.serialize E = bytes :=
    Option.some.inj ((decode_ergoTreeHex E).symm.trans h)
  exact ErgoTree.parse_serialize wellFormed_deployed

end Bytes

section Evaluation

variable {H : Blake2b} {E : Curve Point} {cs : List (Const Point)} {ctx : Context Point}
  {env : Env Point}

theorem eval_register_collByte (r : Reg) :
    (register r .collByte).eval H E cs ctx env =
      (ctx.self.collByte r).map fun bytes => .value (.collByte bytes) := by
  simp only [register, eval, Leaf.eval, Option.bind_eq_bind, Option.bind_some,
    Val.extractRegisterAs, Box.collByte]
  cases ctx.self.registers r with
  | none => rfl
  | some v => cases v <;> rfl

theorem eval_register_int (r : Reg) :
    (register r .int).eval H E cs ctx env =
      (ctx.self.int r).map fun n => .value (.int n) := by
  simp only [register, eval, Leaf.eval, Option.bind_eq_bind, Option.bind_some,
    Val.extractRegisterAs, Box.int]
  cases ctx.self.registers r with
  | none => rfl
  | some v => cases v <;> rfl

theorem eval_publicKey (r : Reg) :
    (publicKey r).eval H E cs ctx env =
      ((ctx.self.collByte r).bind E.decodePoint).map fun p => .sigmaProp (.proveDlog p) := by
  simp only [publicKey, eval, eval_register_collByte]
  cases ctx.self.collByte r with
  | none => rfl
  | some bytes =>
    simp only [Option.map_some, Option.bind_eq_bind, Option.bind_some, Unary.eval]
    cases E.decodePoint bytes <;> rfl

/-- The values bound at the head of the script. -/
def bound (ctx : Context Point) (bet : Bet Point) : Env Point :=
  [(5, .value (.long (Int64.ofNat ctx.self.value))), (4, .sigmaProp (.proveDlog bet.playerPk)),
    (3, .value (.int bet.playerChoice)), (2, .value (.collByte bet.playerSecret)),
    (1, .sigmaProp (.proveDlog bet.housePk))]

theorem eval_choiceByte (bet : Bet Point) :
    choiceByteExpr.eval H E segregated ctx (bound ctx bet) =
      some (.byte (choiceByte bet.playerChoice)) := by
  rw [choiceByte]
  by_cases h : bet.playerChoice = 0 <;>
    simp [choiceByteExpr, bound, segregated, Const.val, List.lookup_cons, h]

theorem eval_commitmentOk (bet : Bet Point) :
    commitmentOkExpr.eval H E segregated ctx (bound ctx bet) =
      ((ctx.self.collByte .R6).map fun hash =>
        computedHash H bet.playerSecret bet.playerChoice == hash).map .bool := by
  simp only [commitmentOkExpr, eval, evalAll, eval_register_collByte, eval_choiceByte]
  cases ctx.self.collByte .R6 <;> simp [bound, List.lookup_cons, computedHash]

/-- The remainder of a byte is the same number at every width. -/
theorem remainder_eq (b : Byte) (c : Int32) :
    (Int32.ofInt b.toInt % 2 == c) = (b.toInt.tmod 2 == c.toInt) := by
  have low := b.le_toInt
  have high := b.toInt_lt
  have same : (Int32.ofInt b.toInt % 2).toInt = b.toInt.tmod 2 := by
    rw [Int32.toInt_mod, Int32.toInt_ofInt_of_le (by omega) (by omega)]
    rfl
  rw [← same, Bool.eq_iff_iff, beq_iff_eq, beq_iff_eq, Int32.toInt_inj]

theorem eval_playerWins (bet : Bet Point) :
    playerWinsExpr.eval H E segregated ctx (bound ctx bet) =
      some (.bool (bet.playerWins H ctx.parentId)) := by
  simp only [playerWinsExpr, eval]
  simp [bound, segregated, Const.val, List.lookup_cons, Leaf.eval, remainder_eq, Bet.playerWins,
    playerWins, flipResult, firstByte, rngHash]

theorem eval_firstOutput {position : Nat} (h : cs[position]? = some (.value (.int 0))) :
    (firstOutput position).eval H E cs ctx env = (ctx.outputs[0]?).map .box := by
  simp [firstOutput, Leaf.eval, h, Const.val]

theorem propBytes_proveDlog (p : Point) :
    (SigmaProp.proveDlog p).propBytes E = E.propBytes p := rfl

theorem eval_winPayout {env : Env Point}
    (h : env.lookup 5 = some (.value (.long (.ofNat ctx.self.value)))) :
    winPayoutExpr.eval H E segregated ctx env =
      (winPayout ctx.self.value).map fun n => .value (.long (.ofNat n)) := by
  have product := @Binary.eval_multiply_ofNat _ E _ 97 ctx.self.value.2.2 (by decide)
  have evaluated : winPayoutExpr.eval H E segregated ctx env =
      ((mulLong ctx.self.value 97).map fun n => .value (.long (.ofNat n))).bind fun v =>
        Binary.division.eval E v (.value (.long (.ofNat 50))) := by
    simp only [winPayoutExpr, eval, h, Option.bind_eq_bind, Option.bind_some, ← product]
    rfl
  rw [evaluated, winPayout]
  cases fits : mulLong ctx.self.value 97 with
  | none => rfl
  | some n =>
      obtain ⟨bound, rfl⟩ := mulLong_eq_some_iff.mp fits
      exact @Binary.eval_division_ofNat _ E _ 50 bound (by decide) (by decide)

theorem eval_refundAmount {env : Env Point}
    (h : env.lookup 5 = some (.value (.long (.ofNat ctx.self.value)))) :
    refundAmountExpr.eval H E segregated ctx env =
      some (.value (.long (.ofNat (refundAmount ctx.self.value)))) := by
  have quotient := @Binary.eval_division_ofNat _ E ctx.self.value 50 ctx.self.value.2.2
    (by decide) (by decide)
  have difference := @Binary.eval_minus_ofNat _ E _ (ctx.self.value / 50) ctx.self.value.2.2
    (Nat.div_le_self _ _)
  calc refundAmountExpr.eval H E segregated ctx env
      = (Binary.division.eval E (.value (.long (.ofNat ctx.self.value)))
          (.value (.long (.ofNat 50)))).bind fun w =>
            Binary.minus.eval E (.value (.long (.ofNat ctx.self.value))) w := by
        simp only [refundAmountExpr, eval, h, Option.bind_eq_bind, Option.bind_some]
        rfl
    _ = some (.value (.long (.ofNat (refundAmount ctx.self.value)))) := by
        rw [quotient, Option.bind_some, difference, refundAmount]

theorem eval_paysPlayer (bet : Bet Point) :
    paysPlayer.eval H E segregated ctx (bound ctx bet) =
      (ctx.outputs[0]?).bind fun out : Box Point =>
        (Eval.and (some (out.propositionBytes == E.propBytes bet.playerPk))
          ((winPayout ctx.self.value).map fun payout : Nat =>
            decide (payout ≤ out.value))).map Val.bool := by
  have output := @eval_firstOutput Point H E segregated ctx (bound ctx bet) 5 rfl
  simp only [paysPlayer, eval, bindAll, paysTo, output]
  cases ctx.outputs[0]? with
  | none => rfl
  | some out =>
      have payout := @eval_winPayout _ H E ctx ((6, .box out) :: bound ctx bet) rfl
      simp only [Option.map_some, Option.bind_eq_bind, Option.bind_some, payout]
      by_cases script : out.propositionBytes = E.propBytes bet.playerPk
      · cases fits : winPayout ctx.self.value with
        | none => simp [bound, List.lookup_cons, propBytes_proveDlog, script, Eval.and]
        | some payout =>
            obtain ⟨small, rfl⟩ := winPayout_eq_some_iff.mp fits
            have compare := @Binary.eval_ge_ofNat _ E out.value (ctx.self.value * 97 / 50)
              out.value.2.2 (by omega)
            simp [bound, List.lookup_cons, propBytes_proveDlog, script, Eval.and, compare]
      · simp [bound, List.lookup_cons, propBytes_proveDlog, script, Eval.and]

theorem eval_paysHouse (bet : Bet Point) :
    paysHouse.eval H E segregated ctx (bound ctx bet) =
      (ctx.outputs[0]?).bind fun out : Box Point =>
        (Eval.and (some (out.propositionBytes == E.propBytes bet.housePk))
          (some (decide ((ctx.self.value : Nat) ≤ out.value)))).map Val.bool := by
  have output := @eval_firstOutput Point H E segregated ctx (bound ctx bet) 8 rfl
  simp only [paysHouse, eval, bindAll, paysTo, output]
  cases ctx.outputs[0]? with
  | none => rfl
  | some out =>
      have compare := @Binary.eval_ge_ofNat _ E out.value ctx.self.value out.value.2.2
        ctx.self.value.2.2
      by_cases script : out.propositionBytes = E.propBytes bet.housePk <;>
        simp [bound, List.lookup_cons, propBytes_proveDlog, script, Eval.and, compare]

theorem eval_revealPays (bet : Bet Point) :
    revealPaysExpr.eval H E segregated ctx (bound ctx bet) =
      ((ctx.outputs[0]?).bind (revealPays H E ctx bet)).map .bool := by
  simp only [revealPaysExpr, eval, eval_playerWins, eval_paysPlayer, eval_paysHouse,
    Option.bind_eq_bind, Option.bind_some, Val.toBool_bool]
  cases ctx.outputs[0]? with
  | none => simp
  | some out => cases h : bet.playerWins H ctx.parentId <;> simp [revealPays, h]

/-- The commitment is read inside the path that compares it. -/
theorem eval_canReveal (bet : Bet Point) :
    canRevealExpr.eval H E segregated ctx (bound ctx bet) =
      ((ctx.self.collByte .R6).bind fun commitmentHash =>
        canReveal H E ctx { bet with commitmentHash }).map .sigmaProp := by
  have house : (valUse 1).eval H E segregated ctx (bound ctx bet) =
      (some (.proveDlog bet.housePk)).map .sigmaProp := by
    rw [eval]
    rfl
  have opens := eval_boolToSigmaProp (@eval_commitmentOk _ H E ctx bet)
  have pays := eval_boolToSigmaProp (@eval_revealPays _ H E ctx bet)
  rw [canRevealExpr, eval_sigmaAnd_pair (eval_sigmaAnd_pair house opens) pays]
  congr 1
  cases ctx.self.collByte .R6 with
  | none => rfl
  | some commitmentHash =>
      simp only [canReveal, Option.map_some, Option.bind_some, Option.bind_eq_bind]
      cases ctx.outputs[0]? with
      | none => rfl
      | some out =>
          have same : revealPays H E ctx { bet with commitmentHash } out =
            revealPays H E ctx bet out := rfl
          simp only [same, Option.bind_some]
          cases revealPays H E ctx bet out <;> rfl

theorem eval_timedOut (bet : Bet Point) :
    timedOutExpr.eval H E segregated ctx (bound ctx bet) =
      ((ctx.self.int .R8).map fun timeoutHeight =>
        decide (timeoutHeight ≤ ctx.height)).map .bool := by
  simp only [timedOutExpr, eval, eval_register_int]
  cases ctx.self.int .R8 <;> simp [Leaf.eval]

theorem eval_refundsPlayer (bet : Bet Point) :
    refundsPlayer.eval H E segregated ctx (bound ctx bet) =
      ((ctx.outputs[0]?).map fun out =>
        out.propositionBytes == E.propBytes bet.playerPk).map .bool := by
  have output := @eval_firstOutput Point H E segregated ctx (bound ctx bet) 9 rfl
  simp only [refundsPlayer, paysTo, eval, output]
  cases ctx.outputs[0]? <;> simp [bound, List.lookup_cons, propBytes_proveDlog]

theorem eval_refundPays (bet : Bet Point) :
    refundPays.eval H E segregated ctx (bound ctx bet) =
      ((ctx.outputs[0]?).map fun out =>
        decide (refundAmount ctx.self.value ≤ out.value)).map .bool := by
  have output := @eval_firstOutput Point H E segregated ctx (bound ctx bet) 10 rfl
  have refund := @eval_refundAmount _ H E ctx (bound ctx bet) rfl
  have small : refundAmount ctx.self.value < 2 ^ 63 := by
    have := ctx.self.value.2.2
    rw [refundAmount]
    omega
  simp only [refundPays, eval, output, refund]
  cases ctx.outputs[0]? with
  | none => rfl
  | some out => exact @Binary.eval_ge_ofNat _ E _ _ out.value.2.2 small

/-- So is the timeout. -/
theorem eval_canRefund (bet : Bet Point) :
    canRefundExpr.eval H E segregated ctx (bound ctx bet) =
      ((ctx.self.int .R8).bind fun timeoutHeight =>
        canRefund E ctx { bet with timeoutHeight }).map .sigmaProp := by
  have player : (valUse 4).eval H E segregated ctx (bound ctx bet) =
      (some (.proveDlog bet.playerPk)).map .sigmaProp := by
    rw [eval]
    rfl
  have timedOut := eval_boolToSigmaProp (@eval_timedOut _ H E ctx bet)
  have script := eval_boolToSigmaProp (@eval_refundsPlayer _ H E ctx bet)
  have amount := eval_boolToSigmaProp (@eval_refundPays _ H E ctx bet)
  have signed := eval_sigmaAnd_pair timedOut player
  rw [canRefundExpr, eval_sigmaAnd_pair (eval_sigmaAnd_pair signed script) amount]
  congr 1
  cases ctx.self.int .R8 with
  | none => rfl
  | some timeoutHeight =>
      simp only [canRefund, Option.map_some, Option.bind_some, Option.bind_eq_bind]
      cases ctx.outputs[0]? <;> rfl

/-- The values that are shared by the paths, in the order of their definitions. -/
theorem bindAll_head :
    bindAll H E segregated ctx head [] =
      ((ctx.self.collByte .R4).bind E.decodePoint).bind fun housePk =>
        (ctx.self.collByte .R9).bind fun playerSecret =>
          (ctx.self.int .R7).bind fun playerChoice =>
            ((ctx.self.collByte .R5).bind E.decodePoint).map fun playerPk =>
              bound ctx ⟨housePk, playerPk, [], playerChoice, 0, playerSecret⟩ := by
  simp only [head, bindAll, eval_publicKey, eval_register_collByte, eval_register_int]
  cases (ctx.self.collByte .R4).bind E.decodePoint with
  | none => rfl
  | some housePk =>
    cases ctx.self.collByte .R9 with
    | none => rfl
    | some playerSecret =>
      cases ctx.self.int .R7 with
      | none => rfl
      | some playerChoice =>
        cases (ctx.self.collByte .R5).bind E.decodePoint with
        | none => rfl
        | some playerPk => simp [Leaf.eval, bound]

theorem reduce_deployed : deployed.reduce H E ctx = guard H E ctx := by
  have shape : deployed.reduce H E ctx =
      (bindAll H E segregated ctx head []).bind fun env =>
        ((sigmaOr [canRevealExpr, canRefundExpr]).eval H E segregated ctx env).bind
          Val.toSigmaProp := by
    simp only [ErgoTree.reduce, deployed, eval, Option.getD_some, Option.bind_eq_bind,
      Option.bind_assoc]
  have paths (bet : Bet Point) :=
    eval_sigmaOr_pair (@eval_canReveal _ H E ctx bet) (@eval_canRefund _ H E ctx bet)
  simp only [shape, bindAll_head, guard, readRegisters]
  cases ctx.self.collByte .R4 with
  | none => rfl
  | some housePkBytes =>
  cases house : E.decodePoint housePkBytes with
  | none => simp [house]
  | some housePk =>
  cases ctx.self.collByte .R9 with
  | none => simp
  | some playerSecret =>
  cases ctx.self.int .R7 with
  | none => simp
  | some playerChoice =>
  cases ctx.self.collByte .R5 with
  | none => simp
  | some playerPkBytes =>
  cases player : E.decodePoint playerPkBytes with
  | none => simp [player]
  | some playerPk =>
  simp only [house, player, Option.bind_eq_bind, Option.bind_some, Option.map_some, paths]
  cases ctx.self.collByte .R6 with
  | none => simp
  | some commitmentHash =>
  cases ctx.self.int .R8 with
  | none => simp
  | some timeoutHeight =>
  -- Neither path looks at what is not yet bound.
  have reveal : canReveal H E ctx ⟨housePk, playerPk, commitmentHash, playerChoice, 0,
      playerSecret⟩ = canReveal H E ctx ⟨housePk, playerPk, commitmentHash, playerChoice,
      timeoutHeight, playerSecret⟩ := rfl
  have refund : canRefund E ctx ⟨housePk, playerPk, [], playerChoice, timeoutHeight,
      playerSecret⟩ = canRefund E ctx ⟨housePk, playerPk, commitmentHash, playerChoice,
      timeoutHeight, playerSecret⟩ := rfl
  simp only [reveal, refund, Option.pure_def, Option.bind_some]
  cases canReveal H E ctx ⟨housePk, playerPk, commitmentHash, playerChoice, timeoutHeight,
      playerSecret⟩ with
  | none => rfl
  | some left =>
  cases canRefund E ctx ⟨housePk, playerPk, commitmentHash, playerChoice, timeoutHeight,
      playerSecret⟩ <;> rfl

/-- A box with the published script is guarded as the source says. -/
theorem reduce_of_ergoTreeHex {ctx : Context Point}
    (h : Hex.decode ergoTreeHex = some ctx.self.propositionBytes) :
    ctx.reduce H E = guard H E ctx := by
  simp only [Context.reduce, parse_of_ergoTreeHex h]
  exact reduce_deployed

end Evaluation

/-- A hash that is always zero, so that heads comes up. -/
def zeroHash : Blake2b := ⟨fun n _ => Vector.replicate n 0⟩

/-- A bet of 100 nanoERG behind the published script. -/
def sampleBox (choice timeout : Int32) : Box Bool where
  id := [1]
  value := Amount.ofNat 100
  propositionBytes := deployed.serialize twoKeys
  tokens := []
  registers := fun
    | .R4 => some (.collByte (twoKeys.getEncoded true))
    | .R5 => some (.collByte (twoKeys.getEncoded false))
    | .R6 => some (.collByte (List.replicate 32 0))
    | .R7 => some (.int choice)
    | .R8 => some (.int timeout)
    | .R9 => some (.collByte [])

theorem reduce_of_ergoTreeHex_sample :
    (⟨sampleBox 0 5, [], [], 0, []⟩ : Context Bool).reduce zeroHash twoKeys =
      guard zeroHash twoKeys ⟨sampleBox 0 5, [], [], 0, []⟩ :=
  @reduce_of_ergoTreeHex _ zeroHash twoKeys ⟨sampleBox 0 5, [], [], 0, []⟩
    (decode_ergoTreeHex twoKeys)

end DuckPools.CoinflipV2
