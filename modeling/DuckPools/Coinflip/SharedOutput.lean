import DuckPools.Coinflip.Contract

/-!
# Several bets revealed by one transaction

Every guard looks at its own box and at the first output, and all guards of one
transaction look at the same first output. What they demand of it one by one is
therefore a maximum, while settling all the bets needs the sum: a transaction can
satisfy every guard and still pay only the largest of the bets it closes.

`reveals_settled_iff` says for which sets of boxes this can happen. It quantifies over
all transactions that reveal the set, so the condition is one on the boxes alone.
-/

namespace DuckPools.CoinflipV2

open ErgoScript Payment

variable {Point : Type} (H : Blake2b) {E : Curve Point}

/-- The demands of the bets that came out as `won` says. -/
def demandsWhere (won : Bool) (parentId : Bytes) (spent : List (BetBox E)) :
    List (Payment Bytes) :=
  (spent.filter (fun b => b.wins H parentId == won)).map (fun b => b.demand H parentId)

/-- The payouts of the bets their players have won. -/
def wonDemands (parentId : Bytes) (spent : List (BetBox E)) : List (Payment Bytes) :=
  demandsWhere H true parentId spent

/-- The stakes of the bets their players have lost. -/
def lostDemands (parentId : Bytes) (spent : List (BetBox E)) : List (Payment Bytes) :=
  demandsWhere H false parentId spent

def demands (parentId : Bytes) (spent : List (BetBox E)) : List (Payment Bytes) :=
  spent.map (fun b => b.demand H parentId)

/-- Some transaction reveals all of the boxes: every commitment opens, every payout
fits, and they all want the first output for the same script. -/
def JointlyRevealable (parentId : Bytes) (spent : List (BetBox E)) : Prop :=
  ∃ payee, ∀ b ∈ spent, commitmentOk H b.bet = true ∧
    b.bet.payoutFits H parentId b.box.value ∧ (b.demand H parentId).payee = payee

variable {H}

theorem payee_of_mem_demandsWhere {won : Bool} {parentId payee : Bytes}
    {spent : List (BetBox E)} (h : ∀ b ∈ spent, (b.demand H parentId).payee = payee) :
    ∀ p ∈ demandsWhere H won parentId spent, p.payee = payee := by
  intro p hp
  obtain ⟨b, hb, rfl⟩ := List.mem_map.mp hp
  exact h b (List.mem_of_mem_filter hb)

/-- Where all bets have one outcome, the demands of that outcome are all demands. -/
theorem demandsWhere_eq_demands {won : Bool} {parentId : Bytes} {spent : List (BetBox E)}
    (h : ∀ b ∈ spent, b.wins H parentId = won) :
    demandsWhere H won parentId spent = demands H parentId spent := by
  rw [demandsWhere, demands, List.filter_eq_self.mpr]
  intro b hb
  exact beq_iff_eq.mpr (h b hb)

/-- There are then none of the other outcome. -/
theorem demandsWhere_not_eq_nil {won : Bool} {parentId : Bytes} {spent : List (BetBox E)}
    (h : ∀ b ∈ spent, b.wins H parentId = won) : demandsWhere H (!won) parentId spent = [] := by
  rw [demandsWhere, List.filter_eq_nil_iff.mpr, List.map_nil]
  intro b hb
  rw [h b hb]
  cases won <;> decide

/-- Where no player is also the house, jointly revealable boxes are either all won or
all lost, and a peak as large as both sums means that there is at most one of them. -/
theorem bounded_iff_length_le_one {parentId : Bytes} {spent : List (BetBox E)}
    (joint : JointlyRevealable H parentId spent)
    (distinct : ∀ b ∈ spent, ∀ c ∈ spent, b.bet.playerPk ≠ c.bet.housePk) :
    (total (wonDemands H parentId spent) ≤ peak (demands H parentId spent) ∧
        total (lostDemands H parentId spent) ≤ peak (demands H parentId spent)) ↔
      spent.length ≤ 1 := by
  obtain ⟨payee, joint⟩ := joint
  have pos : ∀ p ∈ demands H parentId spent, 0 < p.amount := by
    intro p hp
    obtain ⟨b, _, rfl⟩ := List.mem_map.mp hp
    exact b.demand_pos H parentId
  have count := total_le_peak_iff pos
  rw [show (demands H parentId spent).length = spent.length from List.length_map _] at count
  by_cases hwon : ∀ b ∈ spent, b.wins H parentId = true
  · have won : wonDemands H parentId spent = demands H parentId spent :=
      demandsWhere_eq_demands hwon
    have lost : lostDemands H parentId spent = [] := demandsWhere_not_eq_nil hwon
    rw [won, lost, count, total_nil]
    exact and_iff_left (Nat.zero_le _)
  · obtain ⟨c, hc, hlose⟩ : ∃ c ∈ spent, c.wins H parentId = false := by simpa using hwon
    -- One lost box fixes the common script to a house key, so no box can be won.
    have hlost : ∀ b ∈ spent, b.wins H parentId = false := by
      intro b hb
      cases hw : b.wins H parentId with
      | false => rfl
      | true =>
          have hplayer := (joint b hb).2.2
          have hhouse := (joint c hc).2.2
          rw [BetBox.demand_of_wins H hw] at hplayer
          rw [BetBox.demand_of_loses H hlose] at hhouse
          exact absurd (E.propBytes_injective (hplayer.trans hhouse.symm)) (distinct b hb c hc)
    have won : wonDemands H parentId spent = [] := demandsWhere_not_eq_nil hlost
    have lost : lostDemands H parentId spent = demands H parentId spent :=
      demandsWhere_eq_demands hlost
    rw [won, lost, count, total_nil]
    exact and_iff_right (Nat.zero_le _)

/-- A box without tokens that pays `amount` to `payee`. -/
def payoutBox (payee : Bytes) (amount : Amount) : Box Point where
  id := []
  value := amount
  propositionBytes := payee
  tokens := []
  registers _ := none

/-- Boxes emptied beside a payout that an extra input provides. -/
theorem conserves_payout (payee tree : Bytes) (amount : Amount) (boxes : List (Box Point)) :
    Conserves ((payoutBox payee amount).emptied tree :: boxes)
      (payoutBox payee amount :: boxes.map (Box.emptied tree)) where
  erg := by
    simp only [List.map_cons, total_cons, total_payment_emptied]
    rfl
  tokens := by
    intro out hout t ht
    rcases List.mem_cons.mp hout with rfl | hout
    · cases ht
    · obtain ⟨b, _, rfl⟩ := List.mem_map.mp hout
      cases ht

section Transactions

variable [DecidableEq Point]

/-- A transaction that every guard accepts pays the peak of the demands, to the one
script they agree on. -/
theorem exists_first_output {inputs outputs : List (Box Point)} {height : Int32}
    {parentId : Bytes} {spent : List (BetBox E)} {signers : List Point} (hne : spent ≠ [])
    (h : ∀ b ∈ spent,
      acceptsReveal H E (revealContext inputs outputs height parentId b) signers) :
    ∃ out ∈ outputs, peak (demands H parentId spent) ≤ out.value ∧
      ∀ b ∈ spent, commitmentOk H b.bet = true ∧
        b.bet.payoutFits H parentId b.box.value ∧
        (b.demand H parentId).payee = out.propositionBytes := by
  obtain ⟨first, hfirst⟩ := List.exists_mem_of_ne_nil spent hne
  obtain ⟨_, _, _, out, hout, _⟩ := acceptsReveal_iff.mp (h first hfirst)
  refine ⟨out, List.mem_of_getElem? hout, ?_, ?_⟩
  · rw [peak_le_iff]
    intro p hp
    obtain ⟨b, hb, rfl⟩ := List.mem_map.mp hp
    obtain ⟨_, _, _, out', hout', _, hle⟩ := acceptsReveal_iff.mp (h b hb)
    rw [hout, Option.some.injEq] at hout'
    exact hout' ▸ hle
  · intro b hb
    obtain ⟨_, hcommit, hfit, out', hout', hscript, _⟩ := acceptsReveal_iff.mp (h b hb)
    rw [hout, Option.some.injEq] at hout'
    exact ⟨hcommit, hfit, by rw [hout', hscript]⟩

/-- Conversely a jointly revealable set is revealed by a transaction that pays the common
script the peak and nothing else. -/
theorem exists_peak_transaction {parentId : Bytes} {spent : List (BetBox E)} {payee : Bytes}
    (hne : spent ≠ [])
    (h : ∀ b ∈ spent, commitmentOk H b.bet = true ∧
      b.bet.payoutFits H parentId b.box.value ∧ (b.demand H parentId).payee = payee)
    (height : Int32) :
    ∃ (inputs others : List (Box Point)) (amount : Amount) (signers : List Point),
      Conserves inputs (payoutBox payee amount :: others) ∧
      (∀ b ∈ spent, b.box ∈ inputs) ∧ (∀ b ∈ others, b.propositionBytes ≠ payee) ∧
      (amount : Nat) = peak (demands H parentId spent) ∧
      ∀ b ∈ spent, acceptsReveal H E
        (revealContext inputs (payoutBox payee amount :: others) height parentId b) signers := by
  have hmap : demands H parentId spent ≠ [] := by simpa [demands] using hne
  obtain ⟨p, hp, hpeak⟩ := exists_amount_eq_peak hmap
  obtain ⟨top, htop, rfl⟩ := List.mem_map.mp hp
  let amount : Amount := ⟨(top.demand H parentId).amount, top.demand_pos H parentId,
    BetBox.demand_lt H (h top htop).2.1⟩
  refine ⟨_, _, amount, spent.map (fun b => b.bet.housePk),
    conserves_payout payee (payee ++ [0]) amount (spent.map BetBox.box), ?_, ?_, hpeak, ?_⟩
  · intro b hb
    exact List.mem_cons_of_mem _ (List.mem_map_of_mem hb)
  · intro other hother
    obtain ⟨b, _, rfl⟩ := List.mem_map.mp hother
    show payee ++ [0] ≠ payee
    simp
  · intro b hb
    obtain ⟨hcommit, hfit, hpayee⟩ := h b hb
    refine acceptsReveal_iff.mpr ⟨List.mem_map_of_mem hb, hcommit, hfit, _, rfl, hpayee.symm, ?_⟩
    show _ ≤ (top.demand H parentId).amount
    rw [hpeak]
    exact amount_le_peak (List.mem_map_of_mem hb)

/-- All transactions revealing exactly these boxes settle all of their bets if and
only if no transaction reveals them together, or the largest single demand already is
the sum of the won payouts and the sum of the lost stakes. -/
theorem reveals_settled_iff (parentId : Bytes) (height : Int32) (spent : List (BetBox E)) :
    (∀ (inputs outputs : List (Box Point)) (signers : List Point),
      Conserves inputs outputs → (∀ b ∈ spent, b.box ∈ inputs) →
      (∀ b ∈ spent,
        acceptsReveal H E (revealContext inputs outputs height parentId b) signers) →
      Covers (outputs.map Box.payment) (wonDemands H parentId spent) ∧
        Covers (outputs.map Box.payment) (lostDemands H parentId spent)) ↔
      (JointlyRevealable H parentId spent →
        total (wonDemands H parentId spent) ≤ peak (demands H parentId spent) ∧
        total (lostDemands H parentId spent) ≤ peak (demands H parentId spent)) := by
  rcases spent.eq_nil_or_concat' with rfl | hcons
  · simp [wonDemands, lostDemands, demandsWhere, Covers]
  have hne : spent ≠ [] := by
    obtain ⟨_, _, rfl⟩ := hcons
    simp
  constructor
  · rintro settled ⟨payee, joint⟩
    obtain ⟨inputs, others, amount, signers, conserves, spends, apart, hamount, accepted⟩ :=
      exists_peak_transaction hne joint height
    obtain ⟨won, lost⟩ := settled inputs _ signers conserves spends accepted
    have elsewhere : ∀ p ∈ others.map Box.payment, p.payee ≠ payee := by
      intro p hp
      obtain ⟨b, hb, rfl⟩ := List.mem_map.mp hp
      exact apart b hb
    have payees : ∀ b ∈ spent, (b.demand H parentId).payee = payee := by
      intro b hb
      exact (joint b hb).2.2
    rw [← hamount]
    exact ⟨total_le_of_covers_cons (payee_of_mem_demandsWhere payees) elsewhere won,
      total_le_of_covers_cons (payee_of_mem_demandsWhere payees) elsewhere lost⟩
  · intro bounded inputs outputs signers _ _ accepted
    obtain ⟨out, hout, hpeak, each⟩ := exists_first_output hne accepted
    obtain ⟨hwon, hlost⟩ := bounded ⟨out.propositionBytes, each⟩
    have mem : out.payment ∈ outputs.map Box.payment := List.mem_map_of_mem hout
    have payees : ∀ b ∈ spent, (b.demand H parentId).payee = out.payment.payee := by
      intro b hb
      exact (each b hb).2.2
    exact ⟨covers_of_total_le mem (payee_of_mem_demandsWhere payees) (Nat.le_trans hwon hpeak),
      covers_of_total_le mem (payee_of_mem_demandsWhere payees) (Nat.le_trans hlost hpeak)⟩

end Transactions

/-- A won bet of 100 nanoERG on an all-zero hash. -/
def zeroHashBet (id : Byte) : BetBox twoKeys where
  box :=
    { id := [id]
      value := Amount.ofNat 100
      propositionBytes := []
      tokens := []
      registers := fun
        | .R4 => some (.collByte (twoKeys.getEncoded true))
        | .R5 => some (.collByte (twoKeys.getEncoded false))
        | .R6 => some (.collByte (List.replicate 32 0))
        | .R7 => some (.int 0)
        | .R8 => some (.int 0)
        | .R9 => some (.collByte []) }
  bet := ⟨true, false, List.replicate 32 0, 0, 0, []⟩
  reads := by rfl

/-- Two won bets of one player, revealed into a single payout of 194; the other 6 are the
fee. -/
theorem not_all_reveals_settled :
    ¬ ∀ (H : Blake2b) (parentId : Bytes) (height : Int32) (spent : List (BetBox twoKeys))
        (inputs outputs : List (Box Bool)) (signers : List Bool),
        Conserves inputs outputs → (∀ b ∈ spent, b.box ∈ inputs) →
        (∀ b ∈ spent,
          acceptsReveal H twoKeys (revealContext inputs outputs height parentId b) signers) →
        Covers (outputs.map Box.payment) (wonDemands H parentId spent) ∧
          Covers (outputs.map Box.payment) (lostDemands H parentId spent) := by
  intro h
  let H : Blake2b := ⟨fun n _ => Vector.replicate n 0⟩
  let inputs : List (Box Bool) := [(zeroHashBet 1).box, (zeroHashBet 2).box]
  let out : Box Bool := payoutBox (twoKeys.propBytes false) (Amount.ofNat 194)
  let outputs : List (Box Bool) := [out, payoutBox [8] (Amount.ofNat 6)]
  have conserves : Conserves inputs outputs := ⟨by decide, by decide⟩
  have accepted : ∀ b ∈ [zeroHashBet 1, zeroHashBet 2],
      acceptsReveal H twoKeys (revealContext inputs outputs 0 [] b) [true] := by
    intro b hb
    rw [acceptsReveal_iff]
    simp only [List.mem_cons, List.not_mem_nil, or_false] at hb
    rcases hb with rfl | rfl <;>
      exact ⟨by decide, by decide, fun _ => by decide, out, rfl, by decide, by decide⟩
  have covers := (h H [] 0 [zeroHashBet 1, zeroHashBet 2] inputs outputs [true] conserves
    (by simp [inputs]) accepted).1
  have bound := covers (twoKeys.propBytes false)
  revert bound
  decide

end DuckPools.CoinflipV2
