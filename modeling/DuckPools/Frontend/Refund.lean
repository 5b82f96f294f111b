import DuckPools.Frontend.Reveal

/-!
# Refunds built by the frontend, against the contract

`buildRefundTx` is meant to refuse refunds before the timeout and to build them from then on.
It is given a box id, a value and an address, and looks at neither the timeout nor the other
registers of the box. Fleet does look at the box, whose id is not that of a box without
registers: what is refused is every refund.

On chain the refund of 98 percent is a bound on one output. Where the other two percent go is
up to whoever builds the transaction, so the fee is not one.
-/

namespace DuckPools.Frontend

open ErgoScript CoinflipV2 Exceptions

variable {Point : Type} (E : Curve Point)

/-- The output that is asked for. -/
def refundBox (params : RefundParams) (recipient : Bytes) : Output where
  value := params.commitBox.value - params.commitBox.value / 50
  ergoTree := recipient
  creationHeight := params.currentHeight
  assets := params.commitBox.tokens.getD []
  additionalRegisters _ := none

/-- The caller has given what a refund takes: the flow is configured, the change goes to the
player of the bet, and the player's boxes pay the fee, of which `payMinFee` makes 1100000. -/
structure RefundReady (F : Fleet) (cfg : Config) (params : RefundParams) (b : BetBox E) : Prop where
  enabled : cfg.isOnChainEnabled = true
  address : F.fromBase58 params.changeAddress = .ok (E.propBytes b.bet.playerPk)
  fits : ∃ refund, F.OutputBuilder (refundBox params (E.propBytes b.bet.playerPk)) = .ok refund
  funded : ∃ selected, F.select params.playerUtxos 1_000_000 = .ok selected ∧ selected ≠ [] ∧
    1_100_000 ≤ params.commitBox.value / 50 + funds selected

/-- Refused before the timeout. After it a refund is built, and whatever is built spends the bet
and is accepted at the height it is built for, signed by the player. -/
structure RefundHonoured [DecidableEq Point] (F : Fleet) (cfg : Config) (params : RefundParams)
    (b : BetBox E) : Prop where
  early : params.currentHeight < b.bet.timeoutHeight.toInt →
    ∃ e, buildRefundTx F cfg params = .error e
  built : b.bet.timeoutHeight.toInt ≤ params.currentHeight → RefundReady E F cfg params b →
    ∃ r, buildRefundTx F cfg params = .ok r
  accepted : ∀ r, buildRefundTx F cfg params = .ok r →
    (∃ input ∈ r.unsignedTx.inputs, input.boxId = params.commitBox.boxId) ∧
    ∀ (height : Int32) (inputs outputs : List (Box Point)) (parentId : Bytes)
      (signers : List Point), height.toInt = params.currentHeight →
      StartsWith E outputs r.unsignedTx.outputs → b.bet.playerPk ∈ signers →
        acceptsRefund E (revealContext inputs outputs height parentId b) signers

variable {E} {H : Blake2b} {F : Fleet} {cfg : Config} {params : RefundParams} {b : BetBox E}

/-- No refund of a bet is built: Fleet refuses the commit box as an input. -/
theorem buildRefundTx_ne_ok (validates : F.Validates H)
    (genuine : params.commitBox.Genuine H cfg (b.box.hexRegisters E)) (r : RefundResult) :
    buildRefundTx F cfg params ≠ .ok r := by
  intro built
  simp only [buildRefundTx, throw_bind, ite_throw_eq_ok_iff, bind_eq_ok_iff] at built
  obtain ⟨_, recipient, _, refund, hrefund, selected, _, _, tx, htx, _⟩ := built
  have held : b.box.hexRegisters E .R9 = some (Value.hex E (.collByte b.bet.playerSecret)) := by
    rw [Box.hexRegisters, (readRegisters_eq_some_iff.mp b.reads).2.2.2.2.2, Option.map_some]
  exact build_ne_ok_of_commitInput validates genuine held hrefund rfl selected _ _ tx htx

/-- The refund of a bet on heads, whose timeout is 200. -/
def exampleRefund (currentHeight : Int) : RefundParams where
  commitBox := exampleCommitBox sizeHash (exampleBet 9 0)
  playerUtxos := [exampleUtxo sizeHash (Hex.encode (twoKeys.propBytes false))]
  changeAddress := ['p']
  currentHeight

theorem exampleRefund_ready (currentHeight : Int) :
    RefundReady twoKeys (exampleFleet sizeHash) exampleConfig (exampleRefund currentHeight)
      (exampleBet 9 0) where
  enabled := rfl
  address := rfl
  fits := ⟨_, if_neg (show ¬ (1_000_000_000 - 1_000_000_000 / 50 = 0) by decide)⟩
  funded := ⟨_, rfl, List.cons_ne_nil _ _,
    show 1_100_000 ≤ 1_000_000_000 / 50 + 5_000_000_000 by decide⟩

section Fee

/-- The player, who put `own` in besides the bet, keeps at most 98 percent of the bet. -/
def FeeCharged (paid : List (Payment Bytes)) (player : Bytes) (own betAmount : Nat) : Prop :=
  Payment.dueTo paid player ≤ own + refundAmount betAmount

instance (paid : List (Payment Bytes)) (player : Bytes) (own betAmount : Nat) :
    Decidable (FeeCharged paid player own betAmount) :=
  inferInstanceAs (Decidable (_ ≤ _))

/-- The bet is spent together with boxes of its player. -/
structure SpentByPlayer (b : BetBox E) (own inputs : List (Box Point)) : Prop where
  perm : inputs.Perm (b.box :: own)
  own_script : ∀ box ∈ own, box.propositionBytes = E.propBytes b.bet.playerPk

/-- The script lets the transaction spend the bet, and does so for the refund. -/
def SpendsByRefund [DecidableEq Point] (H : Blake2b) (E : Curve Point) (ctx : Context Point)
    (signers : List Point) : Prop :=
  accepts H E ctx signers ∧ acceptsRefund E ctx signers

/-- The bet can be refunded in this block by these signers. -/
structure RefundOpen (H : Blake2b) (b : BetBox E) (height : Int32) (parentId : Bytes)
    (signers : List Point) : Prop where
  timedOut : b.bet.timeoutHeight ≤ height
  signed : b.bet.playerPk ∈ signers
  /-- The product in the reveal path does not raise. -/
  fits : b.bet.payoutFits H parentId b.box.value

variable {own inputs outputs : List (Box Point)} {height : Int32} {parentId : Bytes}
  {signers : List Point}

/-- The bet and the boxes beside it hold what the outputs hold. -/
theorem total_outputs (hinputs : inputs.Perm (b.box :: own))
    (conserves : Conserves inputs outputs) :
    Payment.total (outputs.map Box.payment) =
      b.box.value + Payment.total (own.map Box.payment) := by
  rw [conserves.erg, Payment.total, ((hinputs.map _).map _).sum_eq]
  rfl

/-- All that goes in can go to the player. -/
def freeRefund (b : BetBox E) (own : List (Box Point)) : List (Box Point) :=
  (b.box :: own).map (Box.emptied (E.propBytes b.bet.playerPk))

theorem conserves_freeRefund (hinputs : inputs.Perm (b.box :: own)) :
    Conserves inputs (freeRefund b own) where
  erg := by
    rw [freeRefund, total_payment_emptied, Payment.total, Payment.total,
      ((hinputs.map _).map _).sum_eq]
  tokens := by
    intro out hout t ht
    obtain ⟨_, _, rfl⟩ := List.mem_map.mp hout
    cases ht

theorem spendsByRefund_freeRefund [DecidableEq Point]
    (isOpen : RefundOpen H b height parentId signers) :
    SpendsByRefund H E (revealContext inputs (freeRefund b own) height parentId b) signers := by
  have refunds : acceptsRefund E (revealContext inputs (freeRefund b own) height parentId b)
      signers :=
    acceptsRefund_iff.mpr ⟨isOpen.timedOut, isOpen.signed, _, rfl, rfl, Nat.sub_le _ _⟩
  exact (accepts_refund_iff b.reads).mpr ⟨refunds, isOpen.fits⟩

theorem dueTo_freeRefund :
    Payment.dueTo ((freeRefund b own).map Box.payment) (E.propBytes b.bet.playerPk) =
      b.box.value + Payment.total (own.map Box.payment) := by
  rw [Payment.dueTo_eq_total]
  · exact total_outputs (List.Perm.refl _) (conserves_freeRefund (List.Perm.refl _))
  · intro p hp
    obtain ⟨_, hout, rfl⟩ := List.mem_map.mp hp
    obtain ⟨_, _, rfl⟩ := List.mem_map.mp hout
    rfl

/-- Whatever outputs a refund has, the fee is charged, exactly if there is no fee to charge or no
refund. -/
theorem refund_fee_charged_iff [DecidableEq Point] {b : BetBox E}
    (spent : SpentByPlayer b own inputs) :
    (∀ outputs, Conserves inputs outputs →
        SpendsByRefund H E (revealContext inputs outputs height parentId b) signers →
        FeeCharged (outputs.map Box.payment) (E.propBytes b.bet.playerPk)
          (Payment.total (own.map Box.payment)) b.box.value) ↔
      (b.box.value : Nat) < 50 ∨ ¬ RefundOpen H b height parentId signers := by
  constructor
  · intro charged
    by_contra free
    rw [not_or, Nat.not_lt, not_not] at free
    have kept := charged _ (conserves_freeRefund spent.perm) (spendsByRefund_freeRefund free.2)
    rw [FeeCharged, dueTo_freeRefund, refundAmount] at kept
    omega
  · intro none outputs conserves spends
    have total := total_outputs spent.perm conserves
    have most := Payment.dueTo_le_total (outputs.map Box.payment) (E.propBytes b.bet.playerPk)
    obtain small | closed := none
    · rw [FeeCharged, refundAmount]
      omega
    · obtain ⟨refunds, fits⟩ := (accepts_refund_iff b.reads).mp spends
      obtain ⟨timedOut, signed, _⟩ := acceptsRefund_iff.mp refunds
      exact absurd ⟨timedOut, signed, fits⟩ closed

theorem spentByPlayer_alone (b : BetBox E) : SpentByPlayer b [] [b.box] :=
  ⟨List.Perm.refl _, fun _ hbox => absurd hbox List.not_mem_nil⟩

/-- A bet of one ERG without other boxes, in the block of its timeout. -/
theorem refund_fee_charged_iff_alone :
    (∀ outputs, Conserves [(exampleBet 9 0).box] outputs →
        SpendsByRefund sizeHash twoKeys
          (revealContext [(exampleBet 9 0).box] outputs 200 [] (exampleBet 9 0)) [false] →
        FeeCharged (outputs.map Box.payment) (twoKeys.propBytes false) 0 1_000_000_000) ↔
      1_000_000_000 < 50 ∨ ¬ RefundOpen sizeHash (exampleBet 9 0) 200 [] [false] :=
  refund_fee_charged_iff (spentByPlayer_alone (exampleBet 9 0))

section Counterexample

/-- A box of the player. -/
def playerBox (value : Nat) : Box Bool :=
  ⟨[2], Amount.ofNat value, twoKeys.propBytes false, [], fun _ => none⟩

/-- The refund of one ERG, the fee of the transaction, and the change. -/
def refundOutputs : List (Box Bool) :=
  [playerBox 980_000_000, ⟨[3], Amount.ofNat 1_100_000, [8], [], fun _ => none⟩,
    playerBox 5_018_900_000]

/-- With a box of five ERG beside the bet the player pays 0.0011 ERG, and not two percent. -/
theorem refund_fee_not_charged :
    ¬ ∀ (H : Blake2b) (b : BetBox twoKeys) (own inputs outputs : List (Box Bool))
        (height : Int32) (parentId : Bytes) (signers : List Bool), SpentByPlayer b own inputs →
        Conserves inputs outputs →
        SpendsByRefund H twoKeys (revealContext inputs outputs height parentId b) signers →
        FeeCharged (outputs.map Box.payment) (twoKeys.propBytes b.bet.playerPk)
          (Payment.total (own.map Box.payment)) b.box.value := by
  intro h
  have spent : SpentByPlayer (exampleBet 9 0) [playerBox 5_000_000_000]
      [(exampleBet 9 0).box, playerBox 5_000_000_000] := by
    refine ⟨List.Perm.refl _, fun box hbox => ?_⟩
    obtain rfl := List.mem_singleton.mp hbox
    rfl
  have conserves : Conserves [(exampleBet 9 0).box, playerBox 5_000_000_000] refundOutputs :=
    ⟨by decide, by decide⟩
  have refunds : acceptsRefund twoKeys (revealContext
      [(exampleBet 9 0).box, playerBox 5_000_000_000] refundOutputs 200 [] (exampleBet 9 0))
      [false] :=
    acceptsRefund_iff.mpr ⟨by decide, by decide, _, rfl, rfl, by decide⟩
  have spends := (@accepts_refund_iff _ sizeHash _ _ _ _ _ (exampleBet 9 0).reads).mpr
    ⟨refunds, fun _ => by decide⟩
  have charged := h _ _ _ _ _ _ _ _ spent conserves spends
  revert charged
  decide

end Counterexample

end Fee

end DuckPools.Frontend
