import DuckPools.Coinflip.Deployed
import DuckPools.Coinflip.SharedOutput
import DuckPools.ErgoScript.Chain

/-!
# Bets in runs of the ledger

A bet is placed when a box with the published script enters the ledger, and nothing that the
house or the player do off the chain changes what can become of it: it stays until a
transaction reveals or refunds it, and then it is gone. What follows holds for every run, with
any number of other bets, parties and transactions in it.

The timeout divides the life of a bet. Before it only the house can end it, in a block of its
choice; after it the player can too, alone. A box that the script cannot read is never spent.
-/

namespace DuckPools.CoinflipV2

open ErgoScript

variable {Point : Type}

/-- A readable bet behind the published script. -/
structure LockedBet (E : Curve Point) extends BetBox E where
  locked : Hex.decode ergoTreeHex = some box.propositionBytes

/-- The bytes that the published script is known by. -/
def publishedTree : Bytes := (Hex.decode ergoTreeHex).getD []

/-- Boxes behind the published script ask for what it reduces to. What other boxes ask for is
left open. -/
def guarded [DecidableEq Point] (H : Blake2b) (E : Curve Point) (others : Lock Point) :
    Lock Point :=
  Lock.behind publishedTree (Chain.Unlocks H E) others

variable {H : Blake2b} {E : Curve Point} {others : Lock Point} {s : Chain Point} {t : Tx Point}

/-- The first output meets the demand of the outcome, and the house has signed. -/
structure Reveals (H : Blake2b) (s : Chain Point) (t : Tx Point) (b : BetBox E) : Prop where
  signed : b.bet.housePk ∈ t.signers
  opens : commitmentOk H b.bet = true
  fits : b.bet.payoutFits H s.parentId b.box.value
  pays : ∃ out, t.outputs[0]? = some out ∧
    out.propositionBytes = (b.demand H s.parentId).payee ∧
    (b.demand H s.parentId).amount ≤ out.value

/-- The first output goes back to the player, who has signed after the timeout. -/
structure Refunds (s : Chain Point) (t : Tx Point) (b : BetBox E) : Prop where
  signed : b.bet.playerPk ∈ t.signers
  timedOut : b.bet.timeoutHeight ≤ s.height
  pays : ∃ out, t.outputs[0]? = some out ∧
    out.propositionBytes = E.propBytes b.bet.playerPk ∧
    refundAmount b.box.value ≤ out.value

/-- What ends a bet: a reveal, or a refund that the product in the reveal path does not block. -/
def Settles (H : Blake2b) (s : Chain Point) (t : Tx Point) (b : BetBox E) : Prop :=
  Reveals H s t b ∨ (Refunds s t b ∧ b.bet.payoutFits H s.parentId b.box.value)

variable [DecidableEq Point]

theorem guarded_iff {b : Box Point} (locked : Hex.decode ergoTreeHex = some b.propositionBytes) :
    guarded H E others s t b ↔ s.Unlocks H E t b :=
  Lock.behind_of_eq (by rw [publishedTree, locked, Option.getD_some])

/-- What unlocks a bet. -/
theorem unlocks_iff (b : LockedBet E) :
    guarded H E others s t b.box ↔ Settles H s t b.toBetBox := by
  have reduced : (s.context t b.box).reduce H E = guard H E (s.context t b.box) :=
    reduce_of_ergoTreeHex b.locked
  rw [guarded_iff b.locked, Chain.Unlocks, reduced]
  constructor
  · rintro ⟨prop, hguard, proved⟩
    have accepted : accepts H E (s.context t b.box) t.signers := ⟨prop, hguard, proved⟩
    simp only [guard, Option.bind_eq_bind, Option.bind_eq_some_iff, Option.pure_def,
      Option.some.injEq] at hguard
    obtain ⟨bet, hread, reveal, hreveal, refund, hrefund, rfl⟩ := hguard
    obtain rfl : b.bet = bet := Option.some.inj (b.reads.symm.trans hread)
    rw [SigmaProp.provedBy, Bool.or_eq_true] at proved
    obtain proved | proved := proved
    · left
      obtain ⟨signed, opens, fits, pays⟩ := canReveal_proved_iff.mp ⟨reveal, hreveal, proved⟩
      exact ⟨signed, opens, fits, pays⟩
    · right
      obtain ⟨timedOut, signed, out, hout, script, amount⟩ :=
        canRefund_proved_iff.mp ⟨refund, hrefund, proved⟩
      have refunded : acceptsRefund E (s.context t b.box) t.signers :=
        ⟨b.bet, refund, b.reads, hrefund, proved⟩
      exact ⟨⟨signed, timedOut, out, hout, script, amount⟩,
        ((accepts_refund_iff b.reads).mp ⟨accepted, refunded⟩).2⟩
  · rintro (reveals | ⟨refunds, fits⟩)
    · obtain ⟨prop, hreveal, proved⟩ := (@canReveal_proved_iff _ H E _ (s.context t b.box) b.bet
        t.signers).mpr ⟨reveals.signed, reveals.opens, reveals.fits, reveals.pays⟩
      exact accepts_of_acceptsReveal ⟨b.bet, prop, b.reads, hreveal, proved⟩
    · obtain ⟨refund, hrefund, proved⟩ := (@canRefund_proved_iff _ E _ (s.context t b.box) b.bet
        t.signers).mpr ⟨refunds.timedOut, refunds.signed, refunds.pays⟩
      have refunded : acceptsRefund E (s.context t b.box) t.signers :=
        ⟨b.bet, refund, b.reads, hrefund, proved⟩
      exact ((accepts_refund_iff b.reads).mpr ⟨refunded, fits⟩).1

section Payments

/-- Sends the value of a box to `payee`, less a fee. -/
def payment (b : Box Point) (payee feeTree : Bytes) (fee : Nat) (id feeId : Bytes)
    (signer : Point) : Tx Point where
  inputs := [b]
  outputs :=
    { payoutBox payee (Amount.ofNat (b.value - fee)) with id } ::
      if fee = 0 then [] else [{ payoutBox feeTree (Amount.ofNat fee) with id := feeId }]
  signers := [signer]

variable {b : Box Point} {payee feeTree id feeId : Bytes} {fee : Nat} {signer : Point}

omit [DecidableEq Point] in
theorem conserves_payment (h : fee < b.value) :
    Conserves (payment b payee feeTree fee id feeId signer).inputs
      (payment b payee feeTree fee id feeId signer).outputs where
  erg := by
    have small := b.value.2.2
    have rest := @Amount.val_ofNat (b.value - fee) (by omega) (by omega)
    by_cases none : fee = 0
    · simp only [none, Nat.sub_zero] at rest
      simp [payment, none, payoutBox, Box.payment, rest]
    · have paid := @Amount.val_ofNat fee (by omega) (by omega)
      simp [payment, none, payoutBox, Box.payment, rest, paid]
      omega
  tokens := by
    intro out hout tok htok
    have empty : out.tokens = [] := by
      by_cases none : fee = 0 <;>
        simp [payment, none] at hout <;> rcases hout with rfl | rfl <;> rfl
    rw [empty] at htok
    cases htok

theorem valid_payment (placed : b ∈ s.utxo.unspent) (h : fee < b.value)
    (hid : id ∉ s.utxo.created) (hfee : feeId ∉ s.utxo.created) (apart : id ≠ feeId)
    (unlocks : guarded H E others s (payment b payee feeTree fee id feeId signer) b) :
    s.ValidUnder (guarded H E others) (payment b payee feeTree fee id feeId signer) where
  allowed := by
    constructor
    · simpa [Tx.transfer, payment] using placed
    · simp [Tx.transfer, payment]
    · intro c hc
      by_cases none : fee = 0
      · simp only [Tx.transfer, payment, none, if_true, List.mem_singleton] at hc
        exact hc ▸ hid
      · simp only [Tx.transfer, payment, none, if_false, List.mem_cons, List.not_mem_nil,
          or_false] at hc
        obtain rfl | rfl := hc
        · exact hid
        · exact hfee
    · by_cases none : fee = 0 <;> simp [Tx.transfer, payment, none, apart]
  conserves := conserves_payment h
  unlocks := by
    intro c hc
    obtain rfl := List.mem_singleton.mp hc
    exact unlocks

/-- The player alone can take the bet back after the timeout. -/
theorem exists_refund (b : LockedBet E) (placed : b.box ∈ s.utxo.unspent)
    (timedOut : b.bet.timeoutHeight ≤ s.height) (small : (b.box.value : Nat) * 97 < 2 ^ 63)
    (feeTree : Bytes) {fee : Nat} (hfee : fee ≤ b.box.value / 50) :
    ∃ t, s.ValidUnder (guarded H E others) t ∧ t.inputs = [b.box] ∧ t.signers = [b.bet.playerPk] ∧
      ∃ out, t.outputs[0]? = some out ∧ out.propositionBytes = E.propBytes b.bet.playerPk ∧
        (out.value : Nat) = b.box.value - fee := by
  obtain ⟨id, feeId, hid, hfeeId, apart⟩ := Utxo.exists_fresh s.utxo.created
  have value := b.box.value.2
  have amount := @Amount.val_ofNat (b.box.value - fee) (by omega) (by omega)
  let t := payment b.box (E.propBytes b.bet.playerPk) feeTree fee id feeId b.bet.playerPk
  have refunds : Refunds s t b.toBetBox := by
    refine ⟨List.mem_singleton_self _, timedOut, _, rfl, rfl, ?_⟩
    show refundAmount b.box.value ≤ (Amount.ofNat (b.box.value - fee) : Nat)
    rw [amount, refundAmount]
    omega
  have unlocks := (@unlocks_iff _ H E others s t _ b).mpr (.inr ⟨refunds, fun _ => small⟩)
  exact ⟨t, valid_payment placed (by omega) hid hfeeId apart unlocks, rfl, rfl, _, rfl, rfl,
    amount⟩

/-- The house alone can take the stake of a lost bet. -/
theorem exists_lost_reveal (b : LockedBet E) (placed : b.box ∈ s.utxo.unspent)
    (opens : commitmentOk H b.bet = true) (loses : b.wins H s.parentId = false) :
    ∃ t, s.ValidUnder (guarded H E others) t ∧ t.inputs = [b.box] ∧ t.signers = [b.bet.housePk] ∧
      ∃ out, t.outputs = [out] ∧ out.propositionBytes = E.propBytes b.bet.housePk ∧
        (out.value : Nat) = b.box.value := by
  obtain ⟨id, feeId, hid, hfeeId, apart⟩ := Utxo.exists_fresh s.utxo.created
  have value := b.box.value.2
  have amount := @Amount.val_ofNat b.box.value value.1 value.2
  let t := payment b.box (E.propBytes b.bet.housePk) [] 0 id feeId b.bet.housePk
  have reveals : Reveals H s t b.toBetBox := by
    refine ⟨List.mem_singleton_self _, opens, ?_, _, rfl, ?_, ?_⟩
    · intro wins
      exact absurd (wins.symm.trans loses) Bool.true_eq_false_eq_False
    · rw [BetBox.demand_of_loses H loses]
      rfl
    · rw [BetBox.demand_of_loses H loses]
      exact amount.ge
  have unlocks := (@unlocks_iff _ H E others s t _ b).mpr (.inl reveals)
  exact ⟨t, valid_payment placed value.1 hid hfeeId apart unlocks, rfl, rfl, _, rfl, rfl, amount⟩

end Payments

section Sample

def sampleBet (choice timeout : Int32) : LockedBet twoKeys where
  box := sampleBox choice timeout
  bet := ⟨true, false, List.replicate 32 0, choice, timeout, []⟩
  reads := rfl
  locked := decode_ergoTreeHex twoKeys

/-- No other box can be taken. -/
def noOthers : Lock Bool := fun _ _ _ => False

/-- A ledger with this bet in it and nothing else. -/
def sampleChain (b : Box Bool) : Chain Bool := ⟨⟨[b], [b.id]⟩, 0, []⟩

theorem sound_sampleChain (b : Box Bool) : (sampleChain b).Sound where
  named := by simp [sampleChain]
  distinct := by simp [sampleChain]

theorem accepted_block (H : Blake2b) (others : Lock Bool) (b : Box Bool) :
    (sampleChain b).AcceptedUnder (guarded H twoKeys others) [.block [7]] :=
  ⟨show (0 : Int32) < Int32.maxValue by decide, trivial⟩

end Sample

section Runs

variable {events : List (Event Point)}

/-- A bet is settled at most once. Until then it is in the ledger, and afterwards it is
gone. -/
theorem settled_at_most_once (b : LockedBet E) (sound : s.Sound)
    (placed : b.box ∈ s.utxo.unspent) (accepted : s.AcceptedUnder (guarded H E others) events) :
    ((∀ e ∈ events, ¬ e.Spends b.box) ∧ b.box ∈ (s.run events).utxo.unspent) ∨
      ∃ before t after, events = before ++ .tx t :: after ∧ b.box ∈ t.inputs ∧
        Settles H (s.run before) t b.toBetBox ∧
        (∀ e ∈ before ++ after, ¬ e.Spends b.box) ∧
        b.box ∉ (s.run events).utxo.unspent := by
  obtain kept | ⟨before, t, after, split, spent, others, valid, gone⟩ :=
    Chain.spent_once sound placed accepted
  · exact .inl kept
  · have settles := (unlocks_iff b).mp (valid.unlocks b.box spent)
    exact .inr ⟨before, t, after, split, spent, settles, others, gone⟩

/-- The player takes back a bet that has timed out, and it is gone. -/
theorem settled_at_most_once_refunded :
    ∃ t : Tx Bool, (sampleBet 0 0).box ∉
      ((sampleChain (sampleBet 0 0).box).run [.tx t]).utxo.unspent := by
  let b := sampleBet 0 0
  have placed : b.box ∈ (sampleChain b.box).utxo.unspent := List.mem_singleton_self _
  obtain ⟨t, valid, inputs, _⟩ := @exists_refund _ zeroHash _ noOthers _ _ b placed
    (by decide) (by decide) [] 0 (by decide)
  have spends : (Event.tx t).Spends b.box := by
    show b.box ∈ t.inputs
    simp [inputs]
  obtain ⟨kept, _⟩ | ⟨_, _, _, _, _, _, _, gone⟩ :=
    @settled_at_most_once _ zeroHash _ noOthers _ _ [.tx t] b (sound_sampleChain _) placed
      ⟨valid, trivial⟩
  · exact absurd spends (kept _ (List.mem_singleton_self _))
  · exact ⟨t, gone⟩

/-- Without the house, a bet is there until its timeout, and for good if the player does not
sign either. -/
theorem unspent_unless_signed (b : LockedBet E) (sound : s.Sound)
    (placed : b.box ∈ s.utxo.unspent) (accepted : s.AcceptedUnder (guarded H E others) events)
    (house : ∀ t, .tx t ∈ events → b.bet.housePk ∉ t.signers)
    (player : (s.run events).height < b.bet.timeoutHeight ∨
      ∀ t, .tx t ∈ events → b.bet.playerPk ∉ t.signers) :
    b.box ∈ (s.run events).utxo.unspent := by
  obtain ⟨_, kept⟩ | ⟨before, t, after, rfl, _, settles, _, _⟩ :=
    settled_at_most_once b sound placed accepted
  · exact kept
  · have mem : Event.tx t ∈ before ++ .tx t :: after := by simp
    obtain reveals | ⟨refunds, _⟩ := settles
    · exact absurd reveals.signed (house t mem)
    · obtain early | unsigned := player
      · have later := (Chain.accepted_append.mp accepted).2
        have height := Chain.height_le_run later
        rw [← Chain.run_append] at height
        have reached := Int32.le_trans refunds.timedOut height
        exact absurd early (Int32.not_lt.mpr reached)
      · exact absurd refunds.signed (unsigned t mem)

theorem unspent_unless_signed_block :
    (sampleBet 0 5).box ∈ ((sampleChain (sampleBet 0 5).box).run [.block [7]]).utxo.unspent :=
  unspent_unless_signed (sampleBet 0 5) (sound_sampleChain _) (List.mem_singleton_self _)
    (accepted_block zeroHash noOthers _) (fun t ht => by simp at ht) (.inl (by decide))

/-- What the script cannot read stays where it is. -/
theorem unreadable_never_spent {b : Box Point}
    (locked : Hex.decode ergoTreeHex = some b.propositionBytes)
    (unreadable : readRegisters E b = none) (sound : s.Sound) (placed : b ∈ s.utxo.unspent)
    (accepted : s.AcceptedUnder (guarded H E others) events) :
    (∀ e ∈ events, ¬ e.Spends b) ∧ b ∈ (s.run events).utxo.unspent := by
  obtain kept | ⟨before, t, after, _, spent, _, valid, _⟩ :=
    Chain.spent_once sound placed accepted
  · exact kept
  · obtain ⟨prop, reduces, _⟩ := (guarded_iff locked).mp (valid.unlocks b spent)
    have reduced : ((s.run before).context t b).reduce H E = guard H E _ :=
      reduce_of_ergoTreeHex locked
    have raises : readRegisters E ((s.run before).context t b).self = none := unreadable
    simp only [reduced, guard, raises, Option.bind_eq_bind, Option.bind_none] at reduces
    cases reduces

/-- After its timeout a bet has been settled, or the player can take it back without anybody's
help, for a fee of up to the fiftieth that the script leaves for it. -/
theorem settled_or_refundable (b : LockedBet E) (sound : s.Sound)
    (placed : b.box ∈ s.utxo.unspent) (accepted : s.AcceptedUnder (guarded H E others) events)
    (timedOut : b.bet.timeoutHeight ≤ (s.run events).height)
    (small : (b.box.value : Nat) * 97 < 2 ^ 63) (feeTree : Bytes) {fee : Nat}
    (hfee : fee ≤ b.box.value / 50) :
    (∃ before t after, events = before ++ .tx t :: after ∧ b.box ∈ t.inputs ∧
        Settles H (s.run before) t b.toBetBox) ∨
      ∃ t, (s.run events).ValidUnder (guarded H E others) t ∧ t.inputs = [b.box] ∧
        t.signers = [b.bet.playerPk] ∧ ∃ out, t.outputs[0]? = some out ∧
          out.propositionBytes = E.propBytes b.bet.playerPk ∧
          (out.value : Nat) = b.box.value - fee := by
  obtain ⟨_, kept⟩ | ⟨before, t, after, split, spent, settles, _, _⟩ :=
    settled_at_most_once b sound placed accepted
  · exact .inr (exists_refund b kept timedOut small feeTree hfee)
  · exact .inl ⟨before, t, after, split, spent, settles⟩

theorem settled_or_refundable_block :
    ∃ t, ((sampleChain (sampleBet 0 1).box).run [.block [7]]).ValidUnder
        (guarded zeroHash twoKeys noOthers) t ∧
      t.signers = [false] := by
  obtain ⟨_, t, _, split, _⟩ | ⟨t, valid, _, signed, _⟩ :=
    @settled_or_refundable _ zeroHash _ noOthers _ _ [.block [7]] (sampleBet 0 1)
      (sound_sampleChain _) (List.mem_singleton_self _) (accepted_block zeroHash noOthers _)
      (by decide) (by decide) [] 2 (by decide)
  · have mem : Event.tx t ∈ [Event.block [7]] := by
      rw [split]
      exact List.mem_append_right _ List.mem_cons_self
    simp at mem
  · exact ⟨t, valid, signed⟩

/-- As long as the house holds back and the timeout is ahead, nobody can keep it from taking
the stake in a block in which the player loses. -/
theorem lost_bet_waits_for_house (b : LockedBet E) (sound : s.Sound)
    (placed : b.box ∈ s.utxo.unspent) (accepted : s.AcceptedUnder (guarded H E others) events)
    (house : ∀ t, .tx t ∈ events → b.bet.housePk ∉ t.signers)
    (early : (s.run events).height < b.bet.timeoutHeight)
    (opens : commitmentOk H b.bet = true) (loses : b.wins H (s.run events).parentId = false) :
    ∃ t, (s.run events).ValidUnder (guarded H E others) t ∧ t.inputs = [b.box] ∧
      t.signers = [b.bet.housePk] ∧ ∃ out, t.outputs = [out] ∧
        out.propositionBytes = E.propBytes b.bet.housePk ∧
        (out.value : Nat) = b.box.value := by
  have kept := unspent_unless_signed b sound placed accepted house (.inl early)
  exact exists_lost_reveal b kept opens loses

theorem lost_bet_waits_for_house_block :
    ∃ t, ((sampleChain (sampleBet 1 5).box).run [.block [7]]).ValidUnder
        (guarded zeroHash twoKeys noOthers) t ∧
      t.inputs = [(sampleBet 1 5).box] ∧ t.signers = [true] ∧
      ∃ out, t.outputs = [out] ∧ out.propositionBytes = twoKeys.propBytes true ∧
        (out.value : Nat) = (sampleBet 1 5).box.value :=
  lost_bet_waits_for_house (sampleBet 1 5) (sound_sampleChain _) (List.mem_singleton_self _)
    (accepted_block zeroHash noOthers _) (fun t ht => by simp at ht) (by decide) (by decide)
    (by decide)

omit [DecidableEq Point] in
/-- Blocks alone bring the ledger to any height. -/
theorem exists_blocks (lock : Lock Point) (s : Chain Point) (height : Int32) :
    ∃ events, s.AcceptedUnder lock events ∧ (s.run events).utxo = s.utxo ∧
      height ≤ (s.run events).height := by
  induction distance : (height.toInt - s.height.toInt).toNat generalizing s with
  | zero =>
      refine ⟨[], trivial, rfl, ?_⟩
      rw [Int32.le_iff_toInt_le]
      show height.toInt ≤ s.height.toInt
      omega
  | succ n ih =>
      have below : s.height < Int32.maxValue := by
        have last := height.toInt_le
        rw [Int32.lt_iff_toInt_lt]
        omega
      have next := Chain.add_one_toInt below
      obtain ⟨events, accepted, same, reached⟩ := ih (s.step (.block [])) (by
        show (height.toInt - (s.height + 1).toInt).toNat = n
        omega)
      exact ⟨.block [] :: events, ⟨below, accepted⟩, same, reached⟩

/-- The funds behind the published script can move some day exactly if the script can read its
registers. -/
theorem spendable_iff_readable {b : Box Point}
    (locked : Hex.decode ergoTreeHex = some b.propositionBytes) (sound : s.Sound)
    (placed : b ∈ s.utxo.unspent) (small : (b.value : Nat) * 97 < 2 ^ 63) :
    (∃ events, s.AcceptedUnder (guarded H E others) events ∧ b ∉ (s.run events).utxo.unspent) ↔
      (readRegisters E b).isSome = true := by
  constructor
  · rintro ⟨events, accepted, spent⟩
    by_contra unreadable
    rw [Option.not_isSome_iff_eq_none] at unreadable
    exact spent (unreadable_never_spent locked unreadable sound placed accepted).2
  · intro readable
    obtain ⟨bet, reads⟩ := Option.isSome_iff_exists.mp readable
    obtain ⟨events, accepted, same, timedOut⟩ :=
      exists_blocks (guarded H E others) s bet.timeoutHeight
    let c : LockedBet E := ⟨⟨b, bet, reads⟩, locked⟩
    have there : c.box ∈ (s.run events).utxo.unspent := same ▸ placed
    obtain ⟨t, valid, inputs, _⟩ :=
      @exists_refund _ H E others _ _ c there timedOut small [] 0 (Nat.zero_le _)
    have taken : b ∈ t.inputs := by
      rw [inputs]
      exact List.mem_singleton_self b
    have gone := Utxo.Sound.gone_of_mem_inputs (sound.run accepted) valid.allowed taken
    have last : Chain.AcceptsUnder (guarded H E others) (s.run events) (.tx t) := valid
    refine ⟨events ++ [.tx t], Chain.accepted_append.mpr ⟨accepted, last, trivial⟩, ?_⟩
    rw [Chain.run_append]
    exact gone.not_mem

theorem spendable_iff_readable_sample :
    (∃ events, (sampleChain (sampleBet 0 5).box).AcceptedUnder
          (guarded zeroHash twoKeys noOthers) events ∧
        (sampleBet 0 5).box ∉
          ((sampleChain (sampleBet 0 5).box).run events).utxo.unspent) ↔
      (readRegisters twoKeys (sampleBet 0 5).box).isSome = true :=
  spendable_iff_readable (sampleBet 0 5).locked (sound_sampleChain _) (List.mem_singleton_self _)
    (by decide)

end Runs

end DuckPools.CoinflipV2
