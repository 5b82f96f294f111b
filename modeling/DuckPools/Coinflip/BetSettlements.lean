import DuckPools.Coinflip.BetRuns

/-!
# What settled bets are paid

Each transaction that ends a bet owes somebody something: the payout or the stake if it reveals
the bet, the stake less the fee if it refunds it. `Claims` collects what the transactions of a
run owe, in the states they happen in.

The script compares a claim with the first output, which the other bets of the transaction look
at as well. Where every transaction ends one bet, no output is counted twice, and all that is
owed over the run has been paid.
-/

namespace DuckPools.CoinflipV2

open ErgoScript Payment

variable {Point : Type} {H : Blake2b} {E : Curve Point} {others : Lock Point}
  {s : Chain Point} {t : Tx Point} {events : List (Event Point)}

/-- The boxes that an event puts into the ledger. -/
def created (events : List (Event Point)) : List (Box Point) :=
  events.flatMap fun
    | .tx t => t.outputs
    | .block _ => []

/-- The inputs that are locked by the published script. -/
def betInputs (t : Tx Point) : List (Box Point) :=
  t.inputs.filter fun b => Hex.decode ergoTreeHex = some b.propositionBytes

/-- The transaction ends the bet in a way that entitles somebody to this payment. -/
def Owed (H : Blake2b) (E : Curve Point) (s : Chain Point) (t : Tx Point) (b : Box Point)
    (p : Payment Bytes) : Prop :=
  ∃ c : BetBox E, c.box = b ∧
    ((Reveals H s t c ∧ p = c.demand H s.parentId) ∨
      (Refunds s t c ∧ p = ⟨E.propBytes c.bet.playerPk, refundAmount c.box.value⟩))

/-- One payment for every bet that ends in the run. -/
inductive Claims (H : Blake2b) (E : Curve Point) :
    Chain Point → List (Event Point) → List (Payment Bytes) → Prop
  | nil (s : Chain Point) : Claims H E s [] []
  | block {s : Chain Point} {headerId : Bytes} {events : List (Event Point)}
      {claims : List (Payment Bytes)} :
      Claims H E (s.step (.block headerId)) events claims →
      Claims H E s (.block headerId :: events) claims
  | tx {s : Chain Point} {t : Tx Point} {events : List (Event Point)}
      {own later : List (Payment Bytes)} :
      List.Forall₂ (Owed H E s t) (betInputs t) own →
      Claims H E (s.step (.tx t)) events later →
      Claims H E s (.tx t :: events) (own ++ later)

/-- The first output pays what is owed. -/
theorem Owed.covered {b : Box Point} {p : Payment Bytes} (h : Owed H E s t b p) :
    Covers (t.outputs.map Box.payment) [p] := by
  obtain ⟨out, hout, payee, amount⟩ : ∃ out, t.outputs[0]? = some out ∧
      out.propositionBytes = p.payee ∧ p.amount ≤ out.value := by
    obtain ⟨c, rfl, ⟨reveals, rfl⟩ | ⟨refunds, rfl⟩⟩ := h
    · exact reveals.pays
    · exact refunds.pays
  have mem : out.payment ∈ t.outputs.map Box.payment :=
    List.mem_map_of_mem (List.mem_of_getElem? hout)
  apply covers_of_total_le mem
  · intro claim hclaim
    obtain rfl := List.mem_singleton.mp hclaim
    exact payee.symm
  · simpa using amount

section Runs

variable [DecidableEq Point]

/-- Whatever ends a bet owes something. -/
theorem exists_owed {b : Box Point} (valid : s.ValidUnder (guarded H E others) t)
    (hb : b ∈ betInputs t) :
    ∃ p, Owed H E s t b p := by
  simp only [betInputs, List.mem_filter, decide_eq_true_eq] at hb
  have unlocks := valid.unlocks b hb.1
  obtain ⟨prop, reduces, _⟩ := (guarded_iff hb.2).mp unlocks
  have reduced : (s.context t b).reduce H E = guard H E _ := reduce_of_ergoTreeHex hb.2
  simp only [reduced, guard, Option.bind_eq_bind, Option.bind_eq_some_iff] at reduces
  obtain ⟨bet, reads, _⟩ := reduces
  let c : LockedBet E := ⟨⟨b, bet, reads⟩, hb.2⟩
  obtain reveals | ⟨refunds, _⟩ := (unlocks_iff c).mp unlocks
  · exact ⟨_, c.toBetBox, rfl, .inl ⟨reveals, rfl⟩⟩
  · exact ⟨_, c.toBetBox, rfl, .inr ⟨refunds, rfl⟩⟩

theorem exists_claims (accepted : s.AcceptedUnder (guarded H E others) events) :
    ∃ claims, Claims H E s events claims := by
  induction events generalizing s with
  | nil => exact ⟨[], .nil s⟩
  | cons e events ih =>
      obtain ⟨later, hlater⟩ := ih accepted.2
      cases e with
      | block headerId => exact ⟨later, .block hlater⟩
      | tx t =>
          have each : ∀ b ∈ betInputs t, ∃ p, Owed H E s t b p :=
            fun b hb => exists_owed accepted.1 hb
          obtain ⟨own, hown⟩ : ∃ own, List.Forall₂ (Owed H E s t) (betInputs t) own := by
            generalize betInputs t = bs at each
            induction bs with
            | nil => exact ⟨[], .nil⟩
            | cons b bs ihb =>
                obtain ⟨p, hp⟩ := each b List.mem_cons_self
                obtain ⟨own, hown⟩ := ihb fun c hc => each c (List.mem_cons_of_mem b hc)
                exact ⟨p :: own, .cons hp hown⟩
          exact ⟨own ++ later, .tx hown hlater⟩

end Runs

/-- Over a run in which no transaction ends two bets, all that the ends of bets entitle to is
paid by outputs of the run. -/
theorem Claims.covered {claims : List (Payment Bytes)} (h : Claims H E s events claims)
    (single : ∀ t, .tx t ∈ events → (betInputs t).length ≤ 1) :
    Covers ((created events).map Box.payment) claims := by
  induction h with
  | nil => exact covers_nil _
  | block _ ih => exact ih fun t ht => single t (List.mem_cons_of_mem _ ht)
  | @tx s t events own later owed _ ih =>
      have rest := ih fun u hu => single u (List.mem_cons_of_mem _ hu)
      have here : Covers (t.outputs.map Box.payment) own := by
        have one := single t List.mem_cons_self
        rw [owed.length_eq] at one
        match own, one with
        | [], _ => exact covers_nil _
        | [p], _ =>
            obtain ⟨b, _, hp, _, _⟩ := List.forall₂_cons_right_iff.mp owed
            exact hp.covered
      simpa [created] using here.append rest

section Runs

variable [DecidableEq Point]

/-- What the ends of bets entitle to is defined for every run, and paid in every run that ends
them one at a time. -/
theorem settlements_covered (accepted : s.AcceptedUnder (guarded H E others) events)
    (single : ∀ t, .tx t ∈ events → (betInputs t).length ≤ 1) :
    (∃ claims, Claims H E s events claims) ∧
      ∀ claims, Claims H E s events claims →
        Covers ((created events).map Box.payment) claims :=
  ⟨exists_claims accepted, fun _ claims => claims.covered single⟩

/-- The player takes back a bet that has timed out. -/
theorem settlements_covered_refund :
    ∃ t : Tx Bool, ∃ claims, Claims zeroHash twoKeys (sampleChain (sampleBet 0 0).box) [.tx t]
        claims ∧ Covers ((created [.tx t]).map Box.payment) claims := by
  obtain ⟨t, valid, inputs, _⟩ := @exists_refund _ zeroHash _ noOthers (sampleChain _) _
    (sampleBet 0 0) (List.mem_singleton_self _) (by decide) (by decide) [] 0 (by decide)
  have single : ∀ u, Event.tx u ∈ [Event.tx t] → (betInputs u).length ≤ 1 := by
    intro u hu
    obtain rfl := Event.tx.inj (List.mem_singleton.mp hu)
    exact (List.length_filter_le _ _).trans (by simp [inputs])
  obtain ⟨⟨claims, defined⟩, covered⟩ :=
    @settlements_covered _ zeroHash twoKeys noOthers _ [.tx t] _ ⟨valid, trivial⟩ single
  exact ⟨t, claims, defined, covered claims defined⟩

end Runs

end DuckPools.CoinflipV2
