import DuckPools.Frontend.Reveal

/-!
# Funds for what the builders ask for

A selector of boxes only promises the amount it is asked for. `buildPlaceBetTx` asks for the
bet without the fee of the transaction, `buildRevealTx` for that fee without the winnings
that the house adds. Both leave the rest to whatever the selector returns in excess.
-/

namespace DuckPools.Frontend

open ErgoScript CoinflipV2 Exceptions

/-- Some of the boxes, with at least the target. -/
def Selects (utxos : List Utxo) (target : Nat) (selected : List Utxo) : Prop :=
  selected.Subperm utxos ∧ target ≤ funds selected

/-- A selector keeps its promise. -/
def Admissible (select : List Utxo → Nat → Except String (List Utxo)) : Prop :=
  ∀ {utxos target selected}, select utxos target = .ok selected → Selects utxos target selected

/-- Whenever all boxes, with `own`, hold what is needed, so do those selected. -/
def SelectionSuffices (utxos : List Utxo) (target own needed : Nat) : Prop :=
  needed ≤ own + funds utxos →
    ∀ selected, Selects utxos target selected → selected ≠ [] → needed ≤ own + funds selected

/-- What the outputs and the fee of a request take. -/
def TxRequest.needed (request : TxRequest) (minFee : Nat) : Nat :=
  (request.outputs.map Output.value).sum + minFee

/-- With a wallet that can pay for a transaction, what is handed over can pay for it. -/
def Fundable (minFee wallet : Nat) (request : Except String TxRequest) : Prop :=
  ∀ {asked}, request = .ok asked → asked.needed minFee ≤ wallet →
    asked.needed minFee ≤ funds asked.inputs

section Selection

variable {F : Fleet} {box : Except String Output} {utxos own : List Utxo} {target : Nat}
  {nothing : String} {creationHeight : Int} {changeAddress : Text}

theorem funds_append (utxos others : List Utxo) :
    funds (utxos ++ others) = funds utxos + funds others := by
  rw [funds, List.map_append, List.sum_append]
  rfl

/-- A selector may return any of the selections that keep the promise. -/
theorem exists_admissible {selected : List Utxo} (h : Selects utxos target selected) :
    ∃ select, Admissible select ∧ select utxos target = .ok selected := by
  classical
  refine ⟨fun boxes amount => if boxes = utxos ∧ amount = target then .ok selected
    else .error "Insufficient inputs", ?_, if_pos ⟨rfl, rfl⟩⟩
  intro boxes amount chosen hchosen
  dsimp only at hchosen
  split at hchosen
  · rename_i same
    obtain ⟨rfl, rfl⟩ := same
    cases hchosen
    exact h
  · cases hchosen

/-- What is handed over can pay under every selector, or some selection is too small. -/
theorem fundable_iff {needed minFee : Nat} (hvalue : ∀ {out}, box = .ok out →
      out.value + minFee = needed) :
    (∀ select, Admissible select → Fundable minFee (funds own + funds utxos)
      (withSelection { F with select } box utxos target nothing own creationHeight
        changeAddress)) ↔
    ((∃ out, box = .ok out) → SelectionSuffices utxos target (funds own) needed) := by
  constructor
  · rintro h ⟨out, hout⟩ covered selected hselected some
    obtain ⟨select, admissible, hselect⟩ := exists_admissible hselected
    have needs := hvalue hout
    have request : withSelection { F with select } box utxos target nothing own creationHeight
        changeAddress = .ok ⟨creationHeight, own ++ selected, [out], changeAddress⟩ :=
      withSelection_eq_ok_iff.mpr ⟨out, selected, hout, hselect, some, rfl⟩
    have paid := h select admissible request
    simp only [TxRequest.needed, List.map_cons, List.map_nil, List.sum_singleton, funds_append,
      needs] at paid
    exact paid covered
  · intro h select admissible asked hasked covered
    obtain ⟨out, selected, hout, hselect, some, rfl⟩ := withSelection_eq_ok_iff.mp hasked
    have needs := hvalue hout
    simp only [TxRequest.needed, List.map_cons, List.map_nil, List.sum_singleton, funds_append,
      needs] at covered ⊢
    exact h ⟨out, hout⟩ covered selected (admissible hselect) some

end Selection

/-- Place-bet transactions are fundable from every wallet that can pay for them. -/
def BetFundable (F : Fleet) (cfg : Config) (ergText : Nat → String) (minFee : Nat)
    (params : PlaceBetParams) : Prop :=
  ∀ select, Admissible select → Fundable minFee (funds params.utxos)
    (placeBetRequest { F with select } cfg ergText params)

/-- Reveals are fundable from every wallet that can pay for them together with the commit
box. -/
def RevealFundable (H : Blake2b) (F : Fleet) (cfg : Config) (node : Node) (minFee : Nat)
    (params : RevealParams) : Prop :=
  ∀ select, Admissible select → Fundable minFee (params.commitBox.value + funds params.houseUtxos)
    (revealRequest H { F with select } cfg node params)

variable {H : Blake2b} {F : Fleet} {cfg : Config} {ergText : Nat → String} {node : Node}
  {minFee : Nat}

theorem betFundable_iff (lawful : F.Lawful) {params : PlaceBetParams} :
    BetFundable F cfg ergText minFee params ↔
      ((∃ out, lockedBet F cfg params = .ok out) →
        SelectionSuffices params.utxos params.amountNanoErg 0 (params.amountNanoErg + minFee)) := by
  have hvalue : ∀ {out}, lockedBet F cfg params = .ok out →
      out.value + minFee = params.amountNanoErg + minFee := by
    intro out hout
    simp only [lockedBet, throw_bind, ite_throw_eq_ok_iff, bind_eq_ok_iff] at hout
    obtain ⟨_, _, _, hmade⟩ := hout
    rw [(lawful.output_kept hmade).1]
    rfl
  have alone : funds [] + funds params.utxos = funds params.utxos := Nat.zero_add _
  rw [BetFundable, ← alone]
  exact fundable_iff hvalue

theorem revealFundable_iff (lawful : F.Lawful) {params : RevealParams} :
    RevealFundable H F cfg node minFee params ↔
      ∀ playerWins header, simulatedFlip H cfg node params = .ok (playerWins, header) →
        (∃ out, payoutBox F cfg params playerWins = .ok out) →
          SelectionSuffices params.houseUtxos 1_000_000 params.commitBox.value
            (payoutValue params.commitBox.value playerWins + minFee) := by
  have hvalue : ∀ {playerWins out}, payoutBox F cfg params playerWins = .ok out →
      out.value + minFee = payoutValue params.commitBox.value playerWins + minFee := by
    intro playerWins out hout
    simp only [payoutBox, bind_eq_ok_iff] at hout
    obtain ⟨_, _, hmade⟩ := hout
    rw [(lawful.output_kept hmade).1]
  cases flip : simulatedFlip H cfg node params with
  | error e =>
      refine iff_of_true ?_ ?_
      · intro select _ asked hasked
        simp only [revealRequest, flip] at hasked
        cases hasked
      · intro playerWins header simulated
        cases simulated
  | ok simulated =>
      obtain ⟨playerWins, header⟩ := simulated
      have request : ∀ select, revealRequest H { F with select } cfg node params =
          payoutRequest { F with select } cfg params playerWins := by
        intro select
        rw [revealRequest, flip]
        rfl
      simp only [RevealFundable, request, Except.ok.injEq, Prod.mk.injEq, and_imp,
        forall_eq', forall_apply_eq_imp_iff]
      exact fundable_iff hvalue

/-- Both builders are always fundable exactly if the selector cannot stop between its target
and what is needed. -/
theorem builders_fundable_iff (lawful : F.Lawful) (bet : PlaceBetParams) (reveal : RevealParams) :
    (BetFundable F cfg ergText minFee bet ∧ RevealFundable H F cfg node minFee reveal) ↔
      ((∃ out, lockedBet F cfg bet = .ok out) →
        SelectionSuffices bet.utxos bet.amountNanoErg 0 (bet.amountNanoErg + minFee)) ∧
      ∀ playerWins header, simulatedFlip H cfg node reveal = .ok (playerWins, header) →
        (∃ out, payoutBox F cfg reveal playerWins = .ok out) →
          SelectionSuffices reveal.houseUtxos 1_000_000 reveal.commitBox.value
            (payoutValue reveal.commitBox.value playerWins + minFee) :=
  and_congr (betFundable_iff lawful) (revealFundable_iff lawful)

/-- A bet of one ERG from these boxes. -/
def exampleBetFrom (utxos : List Utxo) : PlaceBetParams where
  changeAddress := ['p']
  amountNanoErg := 1_000_000_000
  playerPubKey := Hex.encode (twoKeys.getEncoded false)
  commitment := Hex.encode (List.replicate 32 0)
  choice := 0
  secret := [1, 2, 3, 4, 5, 6, 7, 8]
  currentHeight := 100
  utxos

/-- One box is selected as a whole. -/
theorem selectionSuffices_singleton {utxo : Utxo} {target own needed : Nat} :
    SelectionSuffices [utxo] target own needed := by
  rintro covered selected ⟨hsub, _⟩ some
  have perm := hsub.perm_of_length_le (List.length_pos_of_ne_nil some)
  rw [funds, (perm.map _).sum_eq]
  exact covered

theorem builders_fundable_one_box :
    BetFundable (exampleFleet (constantHash 0)) exampleConfig (fun _ => "") 1_100_000
        (exampleBetFrom [exampleUtxo (constantHash 0) []]) ∧
      RevealFundable (constantHash 0) (exampleFleet (constantHash 0)) exampleConfig
        (exampleNode (exampleBet 0 0) []) 1_100_000
        (exampleParams (constantHash 0) (exampleBet 0 0)) :=
  (builders_fundable_iff (fleetAt_lawful _ _) _ _).mpr
    ⟨fun _ => selectionSuffices_singleton, fun _ _ _ _ => selectionSuffices_singleton⟩

/-- The example wallet with one more box, which holds exactly what is asked for. -/
def exactUtxos (target : Nat) : List Utxo :=
  [walletBox (constantHash 0) [] target, exampleUtxo (constantHash 0) []]

theorem selects_exact (target : Nat) :
    Selects (exactUtxos target) target [walletBox (constantHash 0) [] target] :=
  ⟨(List.cons_sublist_cons.mpr (List.nil_sublist _)).subperm, Nat.le_refl _⟩

/-- The reveal of a bet on heads, with these boxes of the house. -/
def exactReveal (target : Nat) : RevealParams :=
  { exampleParams (constantHash 0) (exampleBet 0 0) with houseUtxos := exactUtxos target }

/-- If the selector returns that box, a bet lacks the fee of its transaction, and a won
reveal the winnings. -/
theorem exact_selection_falls_short :
    ¬ BetFundable (exampleFleet (constantHash 0)) exampleConfig (fun _ => "") 1_100_000
        (exampleBetFrom (exactUtxos 1_000_000_000)) ∧
      ¬ RevealFundable (constantHash 0) (exampleFleet (constantHash 0)) exampleConfig
        (exampleNode (exampleBet 0 0) []) 1_100_000
        (exactReveal 1_000_000) := by
  constructor
  · intro h
    have enough := betFundable_iff (fleetAt_lawful _ _) |>.mp h ⟨_, rfl⟩ (by decide) _
      (selects_exact _) (List.cons_ne_nil _ _)
    revert enough
    decide
  · intro h
    have situation := exampleSituation (.inl rfl) (computedHash_constantHash 0 0) []
    have flip := RevealSituation.simulatedFlip_eq
      { situation with :
        RevealSituation (constantHash 0) (exampleFleet (constantHash 0)) exampleConfig
          (exampleNode (exampleBet 0 0) []) (exactReveal 1_000_000) (exampleBet 0 0) 100 [] }
      rfl rfl
    have enough := revealFundable_iff (fleetAt_lawful _ _) |>.mp h _ _ flip ⟨_, rfl⟩
      (by decide) _ (selects_exact _) (List.cons_ne_nil _ _)
    revert enough
    decide

end DuckPools.Frontend
