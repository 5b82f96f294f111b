import DuckPools.Codec.Blake2b
import DuckPools.ErgoScript.Box

/-!
# The guard script `coinflip_v2.es`

The script locks one bet. Its six registers are read before anything else, so a box
in which one of them is absent, has another type or does not decode to a public key
can never be spent.

The result is one proposition, the disjunction of the reveal path of the house and
the refund path of the player. Both disjuncts are reduced whatever the spender
intends: an exception in the one also blocks the other. Inside a path the boolean
conjunctions are lazy, so the checked product in `winPayout` is only computed for a
winning reveal that already pays the player's script.
-/

namespace DuckPools.CoinflipV2

open ErgoScript

variable {Point : Type} (H : Blake2b) (E : Curve Point)

/-- The values bound at the head of the script. -/
structure Bet (Point : Type) where
  housePk : Point
  playerPk : Point
  commitmentHash : Bytes
  playerChoice : Int32
  timeoutHeight : Int32
  playerSecret : Bytes

def readRegisters (self : Box Point) : Eval (Bet Point) := do
  let housePkBytes ← self.collByte .R4
  let playerPkBytes ← self.collByte .R5
  let commitmentHash ← self.collByte .R6
  let playerChoice ← self.int .R7
  let timeoutHeight ← self.int .R8
  let playerSecret ← self.collByte .R9
  let housePk ← E.decodePoint housePkBytes
  let playerPk ← E.decodePoint playerPkBytes
  return { housePk, playerPk, commitmentHash, playerChoice, timeoutHeight, playerSecret }

/-- `if (playerChoice == 0) (0.toByte) else (1.toByte)` -/
def choiceByte (playerChoice : Int32) : Byte := if playerChoice = 0 then 0 else 1

def computedHash (playerSecret : Bytes) (playerChoice : Int32) : Bytes :=
  (H.blake2b256 (playerSecret ++ [choiceByte playerChoice])).toList

def commitmentOk (bet : Bet Point) : Bool :=
  computedHash H bet.playerSecret bet.playerChoice == bet.commitmentHash

def rngHash (blockSeed playerSecret : Bytes) : Vector Byte 32 :=
  H.blake2b256 (blockSeed ++ playerSecret)

/-- `rngHash(0) % 2`: the byte is signed, is upcast to `Int`, and the remainder takes
the sign of the dividend. -/
def flipResult (blockSeed playerSecret : Bytes) : Int :=
  (firstByte (rngHash H blockSeed playerSecret)).toInt.tmod 2

def playerWins (blockSeed playerSecret : Bytes) (playerChoice : Int32) : Bool :=
  flipResult H blockSeed playerSecret == playerChoice.toInt

/-- `betAmount * 97L / 50L` -/
def winPayout (betAmount : Nat) : Eval Nat := (mulLong betAmount 97).map (· / 50)

/-- `betAmount - betAmount / 50L` -/
def refundAmount (betAmount : Nat) : Nat := betAmount - betAmount / 50

def Bet.playerWins (bet : Bet Point) (parentId : Bytes) : Bool :=
  CoinflipV2.playerWins H parentId bet.playerSecret bet.playerChoice

/-- The value check of the reveal path on the first output. -/
def revealPays (ctx : Context Point) (bet : Bet Point) (out : Box Point) : Eval Bool :=
  if bet.playerWins H ctx.parentId then
    Eval.and (some (out.propositionBytes == E.propBytes bet.playerPk))
      ((winPayout ctx.self.value).map fun payout : Nat => decide (payout ≤ out.value))
  else
    Eval.and (some (out.propositionBytes == E.propBytes bet.housePk))
      (some (decide ((ctx.self.value : Nat) ≤ out.value)))

def canReveal (ctx : Context Point) (bet : Bet Point) : Eval (SigmaProp Point) := do
  let out ← ctx.outputs[0]?
  let pays ← revealPays H E ctx bet out
  return .and (.and (.proveDlog bet.housePk) (.bool (commitmentOk H bet))) (.bool pays)

def canRefund (ctx : Context Point) (bet : Bet Point) : Eval (SigmaProp Point) := do
  let out ← ctx.outputs[0]?
  return .and
    (.and
      (.and (.bool (decide (bet.timeoutHeight ≤ ctx.height))) (.proveDlog bet.playerPk))
      (.bool (out.propositionBytes == E.propBytes bet.playerPk)))
    (.bool (decide (refundAmount ctx.self.value ≤ out.value)))

/-- The whole guard: `canReveal || canRefund`. -/
def guard (ctx : Context Point) : Eval (SigmaProp Point) := do
  let bet ← readRegisters E ctx.self
  let reveal ← canReveal H E ctx bet
  let refund ← canRefund E ctx bet
  return .or reveal refund

section Acceptance

variable [DecidableEq Point]

/-- The box may be spent in `ctx` by a transaction the given keys have signed. -/
def accepts (ctx : Context Point) (signers : List Point) : Prop :=
  ∃ prop, guard H E ctx = some prop ∧ prop.provedBy signers = true

/-- The same, by satisfying the reveal disjunct. -/
def acceptsReveal (ctx : Context Point) (signers : List Point) : Prop :=
  ∃ bet prop, readRegisters E ctx.self = some bet ∧ canReveal H E ctx bet = some prop ∧
    prop.provedBy signers = true

/-- The same, by satisfying the refund disjunct. -/
def acceptsRefund (ctx : Context Point) (signers : List Point) : Prop :=
  ∃ bet prop, readRegisters E ctx.self = some bet ∧ canRefund E ctx bet = some prop ∧
    prop.provedBy signers = true

end Acceptance

/-- What a reveal in a block after `parentId` demands of the first output. -/
def Bet.demand (bet : Bet Point) (parentId : Bytes) (betAmount : Nat) : Payment Bytes :=
  if bet.playerWins H parentId then ⟨E.propBytes bet.playerPk, betAmount * 97 / 50⟩
  else ⟨E.propBytes bet.housePk, betAmount⟩

/-- The checked product of `winPayout` is only evaluated, and only then has to fit,
when the player wins. -/
def Bet.payoutFits (bet : Bet Point) (parentId : Bytes) (betAmount : Nat) : Prop :=
  bet.playerWins H parentId = true → betAmount * 97 < 2 ^ 63

theorem winPayout_eq_some_iff {betAmount payout : Nat} :
    winPayout betAmount = some payout ↔ betAmount * 97 < 2 ^ 63 ∧ payout = betAmount * 97 / 50 := by
  simp only [winPayout, Option.map_eq_some_iff, mulLong_eq_some_iff]
  constructor
  · rintro ⟨_, ⟨hfit, rfl⟩, rfl⟩
    exact ⟨hfit, rfl⟩
  · rintro ⟨hfit, rfl⟩
    exact ⟨_, ⟨hfit, rfl⟩, rfl⟩

variable {H E}

theorem revealPays_eq_true_iff {ctx : Context Point} {bet : Bet Point} {out : Box Point} :
    revealPays H E ctx bet out = some true ↔
      bet.payoutFits H ctx.parentId ctx.self.value ∧
        out.propositionBytes = (bet.demand H E ctx.parentId ctx.self.value).payee ∧
        (bet.demand H E ctx.parentId ctx.self.value).amount ≤ out.value := by
  rw [revealPays, Bet.demand, Bet.payoutFits]
  by_cases hwin : bet.playerWins H ctx.parentId = true
  · simp only [hwin, if_true, Eval.and_eq_true, Option.some.injEq, beq_iff_eq,
      Option.map_eq_some_iff, winPayout_eq_some_iff, decide_eq_true_eq, true_imp_iff]
    constructor
    · rintro ⟨hscript, _, ⟨hfit, rfl⟩, hle⟩
      exact ⟨hfit, hscript, hle⟩
    · rintro ⟨hfit, hscript, hle⟩
      exact ⟨hscript, _, ⟨hfit, rfl⟩, hle⟩
  · simp [hwin]

/-- The reveal path in one line: the house signs, the commitment opens, and the first
output meets the demand. -/
theorem canReveal_proved_iff [DecidableEq Point] {ctx : Context Point} {bet : Bet Point}
    {signers : List Point} :
    (∃ prop, canReveal H E ctx bet = some prop ∧ prop.provedBy signers = true) ↔
      bet.housePk ∈ signers ∧ commitmentOk H bet = true ∧
        bet.payoutFits H ctx.parentId ctx.self.value ∧
        ∃ out, ctx.outputs[0]? = some out ∧
          out.propositionBytes = (bet.demand H E ctx.parentId ctx.self.value).payee ∧
          (bet.demand H E ctx.parentId ctx.self.value).amount ≤ out.value := by
  have pays (out : Box Point) :
      (∃ prop, (revealPays H E ctx bet out).bind (fun pays => some (SigmaProp.and (.and
          (.proveDlog bet.housePk) (.bool (commitmentOk H bet))) (.bool pays))) = some prop ∧
          prop.provedBy signers = true) ↔
        bet.housePk ∈ signers ∧ commitmentOk H bet = true ∧
          revealPays H E ctx bet out = some true := by
    rcases revealPays H E ctx bet out with _ | _ | _ <;> simp [SigmaProp.provedBy]
  unfold canReveal
  cases ctx.outputs[0]? with
  | none => simp
  | some out =>
      simp only [Option.bind_eq_bind, Option.bind_some, Option.pure_def, pays,
        revealPays_eq_true_iff, Option.some.injEq, exists_eq_left']

/-- The refund path in one line. -/
theorem canRefund_proved_iff [DecidableEq Point] {ctx : Context Point} {bet : Bet Point}
    {signers : List Point} :
    (∃ prop, canRefund E ctx bet = some prop ∧ prop.provedBy signers = true) ↔
      bet.timeoutHeight ≤ ctx.height ∧ bet.playerPk ∈ signers ∧
        ∃ out, ctx.outputs[0]? = some out ∧
          out.propositionBytes = E.propBytes bet.playerPk ∧
          refundAmount ctx.self.value ≤ out.value := by
  rw [canRefund]
  cases hout : ctx.outputs[0]? with
  | none => simp
  | some out => simp [SigmaProp.provedBy, and_assoc]

/-- A reveal satisfies the whole guard: the refund disjunct cannot raise once there
is a first output. -/
theorem accepts_of_acceptsReveal [DecidableEq Point] {ctx : Context Point}
    {signers : List Point} (h : acceptsReveal H E ctx signers) : accepts H E ctx signers := by
  obtain ⟨bet, prop, hread, hreveal, hproved⟩ := h
  obtain ⟨_, _, _, out, hout, _⟩ := canReveal_proved_iff.mp ⟨prop, hreveal, hproved⟩
  obtain ⟨refund, hrefund⟩ : ∃ refund, canRefund E ctx bet = some refund := by
    simp [canRefund, hout]
  refine ⟨.or prop refund, ?_, ?_⟩
  · simp only [guard, hread, hreveal, hrefund, Option.bind_eq_bind, Option.bind_some,
      Option.pure_def]
  · simp [SigmaProp.provedBy, hproved]

/-- Where the first output goes to the player, the checked product must not overflow. -/
theorem payoutFits_of_revealPays {ctx : Context Point} {bet : Bet Point} {out : Box Point}
    {pays : Bool} (h : revealPays H E ctx bet out = some pays)
    (script : out.propositionBytes = E.propBytes bet.playerPk) :
    bet.payoutFits H ctx.parentId ctx.self.value := by
  intro wins
  simp only [revealPays, wins, if_true, script, beq_self_eq_true, Eval.and, Option.bind_some,
    Option.map_eq_some_iff] at h
  obtain ⟨payout, hpayout, _⟩ := h
  exact (winPayout_eq_some_iff.mp hpayout).1

theorem exists_revealPays {ctx : Context Point} {bet : Bet Point} {out : Box Point}
    (fits : bet.payoutFits H ctx.parentId ctx.self.value) :
    ∃ pays, revealPays H E ctx bet out = some pays := by
  rw [revealPays]
  cases wins : bet.playerWins H ctx.parentId with
  | false =>
      rw [if_neg Bool.false_ne_true]
      cases out.propositionBytes == E.propBytes bet.housePk <;> exact ⟨_, rfl⟩
  | true =>
      have payout := winPayout_eq_some_iff.mpr ⟨fits wins, rfl⟩
      rw [if_pos rfl, payout]
      cases out.propositionBytes == E.propBytes bet.playerPk <;> exact ⟨_, rfl⟩

/-- The refund path is open as well if the product in the reveal path does not raise. -/
theorem accepts_refund_iff [DecidableEq Point] {ctx : Context Point} {bet : Bet Point}
    {signers : List Point} (hread : readRegisters E ctx.self = some bet) :
    (accepts H E ctx signers ∧ acceptsRefund E ctx signers) ↔
      acceptsRefund E ctx signers ∧ bet.payoutFits H ctx.parentId ctx.self.value := by
  constructor
  · rintro ⟨⟨_, hguard, _⟩, refunded⟩
    refine ⟨refunded, ?_⟩
    obtain ⟨_, refund, hread', hrefund, proved⟩ := refunded
    obtain rfl := Option.some.inj (hread.symm.trans hread')
    obtain ⟨_, _, out, hout, script, _⟩ := canRefund_proved_iff.mp ⟨refund, hrefund, proved⟩
    simp only [guard, hread, canReveal, hout, Option.bind_eq_bind, Option.bind_some,
      Option.bind_eq_some_iff] at hguard
    obtain ⟨_, ⟨pays, hpays, _⟩, _⟩ := hguard
    exact payoutFits_of_revealPays hpays script
  · rintro ⟨refunded, fits⟩
    refine ⟨?_, refunded⟩
    obtain ⟨_, refund, hread', hrefund, proved⟩ := refunded
    obtain rfl := Option.some.inj (hread.symm.trans hread')
    obtain ⟨_, _, out, hout, _⟩ := canRefund_proved_iff.mp ⟨refund, hrefund, proved⟩
    obtain ⟨pays, hpays⟩ := @exists_revealPays _ H E ctx bet out fits
    obtain ⟨reveal, hreveal⟩ : ∃ reveal, canReveal H E ctx bet = some reveal := by
      simp [canReveal, hout, hpays]
    refine ⟨.or reveal refund, ?_, ?_⟩
    · simp only [guard, hread, hreveal, hrefund, Option.bind_eq_bind, Option.bind_some,
        Option.pure_def]
    · simp only [SigmaProp.provedBy, proved, Bool.or_true]

/-- The registers a readable box has, and nothing else about it. -/
theorem readRegisters_eq_some_iff {self : Box Point} {bet : Bet Point} :
    readRegisters E self = some bet ↔
      (∃ bytes, self.registers .R4 = some (.collByte bytes) ∧
        E.decodePoint bytes = some bet.housePk) ∧
      (∃ bytes, self.registers .R5 = some (.collByte bytes) ∧
        E.decodePoint bytes = some bet.playerPk) ∧
      self.registers .R6 = some (.collByte bet.commitmentHash) ∧
      self.registers .R7 = some (.int bet.playerChoice) ∧
      self.registers .R8 = some (.int bet.timeoutHeight) ∧
      self.registers .R9 = some (.collByte bet.playerSecret) := by
  simp only [readRegisters, Option.bind_eq_bind, Option.bind_eq_some_iff, Option.pure_def,
    Option.some.injEq, Box.collByte_eq_some_iff, Box.int_eq_some_iff]
  constructor
  · rintro ⟨house, h4, player, h5, hash, h6, choice, h7, timeout, h8, secret, h9, housePk, hhouse,
      playerPk, hplayer, rfl⟩
    exact ⟨⟨house, h4, hhouse⟩, ⟨player, h5, hplayer⟩, h6, h7, h8, h9⟩
  · rintro ⟨⟨house, h4, hhouse⟩, ⟨player, h5, hplayer⟩, h6, h7, h8, h9⟩
    exact ⟨house, h4, player, h5, _, h6, _, h7, _, h8, _, h9, _, hhouse, _, hplayer, rfl⟩

variable (H)

/-- A box the guard can read. -/
structure BetBox (E : Curve Point) where
  box : Box Point
  bet : Bet Point
  reads : readRegisters E box = some bet

namespace BetBox

def wins (parentId : Bytes) (b : BetBox E) : Bool := b.bet.playerWins H parentId

def demand (parentId : Bytes) (b : BetBox E) : Payment Bytes :=
  b.bet.demand H E parentId b.box.value

theorem demand_eq (b : BetBox E) (parentId : Bytes) :
    b.demand H parentId =
      ⟨E.propBytes (if b.wins H parentId then b.bet.playerPk else b.bet.housePk),
        if b.wins H parentId then b.box.value * 97 / 50 else b.box.value⟩ := by
  rw [demand, Bet.demand, wins]
  split <;> rfl

theorem demand_of_wins {b : BetBox E} {parentId : Bytes} (h : b.wins H parentId = true) :
    b.demand H parentId = ⟨E.propBytes b.bet.playerPk, b.box.value * 97 / 50⟩ := by
  rw [demand_eq, h, if_pos rfl, if_pos rfl]

theorem demand_of_loses {b : BetBox E} {parentId : Bytes} (h : b.wins H parentId = false) :
    b.demand H parentId = ⟨E.propBytes b.bet.housePk, b.box.value⟩ := by
  rw [demand_eq, h]
  rfl

theorem demand_pos (b : BetBox E) (parentId : Bytes) : 0 < (b.demand H parentId).amount := by
  have hv := b.box.value.2.1
  cases h : b.wins H parentId
  · rw [demand_of_loses H h]
    exact hv
  · rw [demand_of_wins H h]
    show 0 < (b.box.value : Nat) * 97 / 50
    omega

theorem demand_lt {b : BetBox E} {parentId : Bytes}
    (h : b.bet.payoutFits H parentId b.box.value) : (b.demand H parentId).amount < 2 ^ 63 := by
  cases hw : b.wins H parentId
  · rw [demand_of_loses H hw]
    exact b.box.value.2.2
  · have hfit := h hw
    rw [demand_of_wins H hw]
    show (b.box.value : Nat) * 97 / 50 < 2 ^ 63
    omega

end BetBox

variable {H}

/-- The spending context of one of the boxes in a common transaction. -/
def revealContext (inputs outputs : List (Box Point)) (height : Int32) (parentId : Bytes)
    (b : BetBox E) : Context Point :=
  { self := b.box, inputs, outputs, height, parentId }

theorem acceptsRefund_iff [DecidableEq Point] {inputs outputs : List (Box Point)}
    {height : Int32} {parentId : Bytes} {b : BetBox E} {signers : List Point} :
    acceptsRefund E (revealContext inputs outputs height parentId b) signers ↔
      b.bet.timeoutHeight ≤ height ∧ b.bet.playerPk ∈ signers ∧
        ∃ out, outputs[0]? = some out ∧ out.propositionBytes = E.propBytes b.bet.playerPk ∧
          refundAmount b.box.value ≤ out.value := by
  have refund := @canRefund_proved_iff _ E _
    (revealContext inputs outputs height parentId b) b.bet signers
  constructor
  · rintro ⟨bet, prop, hread, hrefund, hproved⟩
    obtain rfl : b.bet = bet := Option.some.inj (b.reads.symm.trans hread)
    exact refund.mp ⟨prop, hrefund, hproved⟩
  · intro h
    obtain ⟨prop, hrefund, hproved⟩ := refund.mpr h
    exact ⟨b.bet, prop, b.reads, hrefund, hproved⟩

theorem acceptsReveal_iff [DecidableEq Point] {inputs outputs : List (Box Point)} {height : Int32}
    {parentId : Bytes} {b : BetBox E} {signers : List Point} :
    acceptsReveal H E (revealContext inputs outputs height parentId b) signers ↔
      b.bet.housePk ∈ signers ∧ commitmentOk H b.bet = true ∧
        b.bet.payoutFits H parentId b.box.value ∧
        ∃ out, outputs[0]? = some out ∧ out.propositionBytes = (b.demand H parentId).payee ∧
          (b.demand H parentId).amount ≤ out.value := by
  have reveal := @canReveal_proved_iff _ H E _
    (revealContext inputs outputs height parentId b) b.bet signers
  constructor
  · rintro ⟨bet, prop, hread, hreveal, hproved⟩
    obtain rfl : b.bet = bet := Option.some.inj (b.reads.symm.trans hread)
    exact reveal.mp ⟨prop, hreveal, hproved⟩
  · intro h
    obtain ⟨prop, hreveal, hproved⟩ := reveal.mpr h
    exact ⟨b.bet, prop, b.reads, hreveal, hproved⟩

end DuckPools.CoinflipV2
