import DuckPools.Language.Doubles
import DuckPools.Language.PythonText

/-!
# `backend/game_routes.py` and `backend/validators.py`

The in-memory store of bets and the endpoints that write and read it. A request body is
validated field by field before the handler sees it; a body that fails is answered with
the messages of its fields and does not reach the store. Whether the body has the five
fields at their types is decided by the web framework and is part of the request here.
-/

namespace DuckPools.Backend

/-- `[1-9A-HJ-NP-Za-km-z]` -/
def isBase58 (c : Char) : Bool :=
  ('1' ≤ c && c ≤ '9') || ('A' ≤ c && c ≤ 'H') || ('J' ≤ c && c ≤ 'N') || ('P' ≤ c && c ≤ 'Z') ||
    ('a' ≤ c && c ≤ 'k') || ('m' ≤ c && c ≤ 'z')

def startsWithPrefix : Text → Bool
  | [] => false
  | c :: _ => c == '3' || c == '9'

/-- `ERGO_ADDRESS_RE.match(address)`, on stripped text -/
def matchesErgoAddress (address : Text) : Bool :=
  startsWithPrefix address && (address.drop 1).all isBase58 && 26 ≤ address.length &&
    address.length ≤ 60

def validateErgoAddress (address : Text) : Except Text Text :=
  if address.isEmpty then throw "Address is required and must be a string".toList
  else
    let address := Py.strip address
    if address.length < 26 then
      throw ("Address too short (".toList ++ Py.str address.length ++
        " chars, expected 26-60)".toList)
    else if !matchesErgoAddress address then
      if !startsWithPrefix address then
        throw ("Invalid Ergo address prefix: expected '3' (mainnet) or '9' (testnet), got '".toList
          ++ address.take 1 ++ "'".toList)
      else
        throw ("Address contains invalid characters or has wrong length (".toList ++
          Py.str address.length ++ " chars, expected 26-60)".toList)
    else return address

def validateAmount (v : Text) : Except Text Text :=
  match Py.int 10 v with
  | none => throw "amount must be a valid integer string (nanoERG)".toList
  | some amount =>
      if amount ≤ 0 then throw "amount must be positive (nanoERG)".toList
      else if amount < 1_000_000 then
        throw "minimum bet is 0.001 ERG (1,000,000 nanoERG)".toList
      else if amount > 100_000_000_000 then
        throw "maximum bet is 100 ERG (100,000,000,000 nanoERG)".toList
      else return v

def validateChoice (v : Int) : Except Text Int :=
  if v = 0 ∨ v = 1 then return v
  else throw "choice must be 0 (Heads) or 1 (Tails)".toList

/-- `lower` is `str.lower`. -/
def validateCommitment (lower : Text → Text) (v : Text) : Except Text Text :=
  if v.isEmpty then throw "commitment is required".toList
  else
    let v := lower (Py.strip v)
    if v.length ≠ 64 then
      throw "commitment must be a 64-character hex string (blake2b256)".toList
    else
      match Py.int 16 v with
      | none => throw "commitment must be valid hex".toList
      | some _ => return v

def validateBetId (v : Text) : Except Text Text :=
  if v.isEmpty then throw "betId is required".toList else return Py.strip v

structure PlaceBetRequest where
  address : Text
  amount : Text
  choice : Int
  commitment : Text
  betId : Text

/-- The message of a field that was refused. -/
structure FieldError where
  field : Text
  message : Text

/-- The errors of one field, none if it was accepted. -/
def fieldErrors {α : Type} (field : String) : Except Text α → List FieldError
  | .ok _ => []
  | .error message => [⟨field.toList, message⟩]

/-- All fields are validated, and the errors of all of them are reported. -/
def PlaceBetRequest.validate (lower : Text → Text) (raw : PlaceBetRequest) :
    Except (List FieldError) PlaceBetRequest :=
  match validateErgoAddress raw.address, validateAmount raw.amount, validateChoice raw.choice,
    validateCommitment lower raw.commitment, validateBetId raw.betId with
  | .ok address, .ok amount, .ok choice, .ok commitment, .ok betId =>
      .ok { address, amount, choice, commitment, betId }
  | address, amount, choice, commitment, betId =>
      .error (fieldErrors "address" address ++ fieldErrors "amount" amount ++
        fieldErrors "choice" choice ++ fieldErrors "commitment" commitment ++
        fieldErrors "betId" betId)

/-- A body with the five fields at their types, or one that the framework refuses. -/
inductive Body
  | fields (raw : PlaceBetRequest)
  | illTyped (errors : List FieldError)

def Body.validate (lower : Text → Text) : Body → Except (List FieldError) PlaceBetRequest
  | fields raw => raw.validate lower
  | illTyped errors => .error errors

structure GameChoice where
  gameType : Text := "coinflip".toList
  side : Option Text := none
  rollTarget : Option Int := none
  rows : Option Int := none

structure GameOutcome where
  gameType : Text := "coinflip".toList
  result : Option Text := none
  rngValue : Option Int := none
  slot : Option Int := none
  multiplier : Option ℚ := none

structure BetRecord where
  betId : Text
  txId : Text
  boxId : Text
  playerAddress : Text
  gameType : Text
  choice : GameChoice
  betAmount : Text
  outcome : Text
  actualOutcome : Option GameOutcome
  payout : Text
  payoutMultiplier : ℚ
  timestamp : Text
  blockHeight : Nat
  resolvedAtHeight : Option Nat

structure PoolStats where
  liquidity : Text
  totalBets : Nat
  playerWins : Nat
  houseWins : Nat
  totalFees : Text

/-- `_bets` and `_pool_stats` -/
structure Store where
  bets : List BetRecord
  poolStats : PoolStats

def Store.initial : Store where
  bets := []
  poolStats :=
    { liquidity := "50000000000000".toList
      totalBets := 0
      playerWins := 0
      houseWins := 0
      totalFees := "0".toList }

structure PlaceBetResponse where
  success : Bool
  txId : Text
  betId : Text
  message : Text

/-- The dictionary that `place_bet` appends. -/
def PlaceBetRequest.bet (req : PlaceBetRequest) (now : Text) : BetRecord :=
  let side := if req.choice = 0 then "heads".toList else "tails".toList
  { betId := req.betId
    txId := []
    boxId := []
    playerAddress := req.address
    gameType := "coinflip".toList
    choice := { gameType := "coinflip".toList, side := some side }
    betAmount := req.amount
    outcome := "pending".toList
    actualOutcome := none
    payout := "0".toList
    payoutMultiplier := Doubles.div 97 100
    timestamp := now
    blockHeight := 0
    resolvedAtHeight := none }

/-- The new total; `none` if one of the two texts is not a number. -/
def addFee (totalFees amount : Text) : Option Text := do
  let amount ← Py.int 10 amount
  let fee := amount * 3 / 100
  let fees ← Py.int 10 totalFees
  return Py.str (fees + fee)

/-- `place_bet`; no response stands for a `ValueError`, which leaves the bet appended and
counted. -/
def placeBet (now : Text) (req : PlaceBetRequest) (store : Store) :
    Option PlaceBetResponse × Store :=
  let stats := { store.poolStats with totalBets := store.poolStats.totalBets + 1 }
  let store := { bets := store.bets ++ [req.bet now], poolStats := stats }
  match addFee stats.totalFees req.amount with
  | none => (none, store)
  | some totalFees =>
      (some
        { success := true
          txId := []
          betId := req.betId
          message := "Bet placed. Waiting for on-chain confirmation.".toList },
        { store with poolStats := { stats with totalFees } })

inductive Response
  | ok (response : PlaceBetResponse)
  | unprocessable (errors : List FieldError)
  | internalServerError

/-- One request to `/place-bet`, at the time `now`. -/
def handlePlaceBet (lower : Text → Text) (now : Text) (body : Body) (store : Store) :
    Response × Store :=
  match body.validate lower with
  | .error errors => (.unprocessable errors, store)
  | .ok req =>
      match placeBet now req store with
      | (some response, store) => (.ok response, store)
      | (none, store) => (.internalServerError, store)

def getHistory (store : Store) (address : Text) : List BetRecord :=
  store.bets.filter fun b => b.playerAddress == address

/-- The store after a sequence of requests, each with the time it arrives at. -/
def Store.run (lower : Text → Text) (requests : List (Text × Body)) (store : Store) : Store :=
  requests.foldl (fun store request => (handlePlaceBet lower request.1 request.2 store).2) store

/-- The bet that a request asks for, if it is accepted. -/
def placed (lower : Text → Text) (request : Text × Body) : Option BetRecord :=
  match request.2.validate lower with
  | .ok req => some (req.bet request.1)
  | .error _ => none

variable {lower : Text → Text}

/-- What validation has established about the request that reaches the handler. -/
theorem PlaceBetRequest.validate_eq_ok {raw req : PlaceBetRequest}
    (h : raw.validate lower = .ok req) :
    validateErgoAddress raw.address = .ok req.address ∧
      validateAmount raw.amount = .ok req.amount ∧ validateChoice raw.choice = .ok req.choice ∧
      validateCommitment lower raw.commitment = .ok req.commitment ∧
      validateBetId raw.betId = .ok req.betId := by
  unfold validate at h
  split at h
  · rename_i haddress hamount hchoice hcommitment hbetId
    cases h
    exact ⟨haddress, hamount, hchoice, hcommitment, hbetId⟩
  · cases h

theorem validateAmount_eq_ok_iff {v w : Text} :
    validateAmount v = .ok w ↔
      w = v ∧ ∃ n : Nat, Py.int 10 v = some (n : Int) ∧ 1_000_000 ≤ n ∧ n ≤ 100_000_000_000 := by
  unfold validateAmount
  constructor
  · intro h
    split at h
    · cases h
    · rename_i amount hread
      obtain ⟨n, hn⟩ : ∃ n : Nat, amount = n ∨ amount ≤ 0 := ⟨amount.toNat, by omega⟩
      split_ifs at h with h1 h2 h3
      cases h
      obtain rfl : amount = n := by omega
      exact ⟨rfl, n, hread, by omega, by omega⟩
  · rintro ⟨rfl, n, hread, hlow, hhigh⟩
    rw [hread]
    dsimp only
    rw [if_neg (by omega), if_neg (by omega), if_neg (by omega)]
    rfl

theorem Body.amount_of_validate {body : Body} {req : PlaceBetRequest}
    (h : body.validate lower = .ok req) :
    ∃ n : Nat, Py.int 10 req.amount = some (n : Int) ∧ 1_000_000 ≤ n ∧ n ≤ 100_000_000_000 := by
  cases body with
  | illTyped errors => cases h
  | fields raw =>
      obtain ⟨same, read⟩ := validateAmount_eq_ok_iff.mp (PlaceBetRequest.validate_eq_ok h).2.1
      rw [same]
      exact read

theorem handlePlaceBet_of_rejected {body : Body} {errors : List FieldError}
    (h : body.validate lower = .error errors) (now : Text) (store : Store) :
    handlePlaceBet lower now body store = (.unprocessable errors, store) := by
  rw [handlePlaceBet, h]

theorem addFee_of_numbers {totalFees amount : Text} {fees n : Nat}
    (htotal : Py.int 10 totalFees = some (fees : Int))
    (hamount : Py.int 10 amount = some (n : Int)) :
    addFee totalFees amount = some (Py.str (fees + 3 * n / 100 : Nat)) := by
  have fee : (n : Int) * 3 / 100 = ((3 * n / 100 : Nat) : Int) := by omega
  rw [addFee, hamount, htotal]
  simp only [Option.bind_eq_bind, Option.bind_some, fee]
  rfl

/-- The bets of the store after an accepted request, whatever its fee total is. -/
theorem placeBet_bets (now : Text) (req : PlaceBetRequest) (store : Store) :
    (placeBet now req store).2.bets = store.bets ++ [req.bet now] ∧
      (placeBet now req store).2.poolStats.totalBets = store.poolStats.totalBets + 1 := by
  unfold placeBet
  dsimp only
  split
  · exact ⟨rfl, rfl⟩
  · exact ⟨rfl, rfl⟩

theorem placeBet_totalFees {now : Text} {req : PlaceBetRequest} {store : Store} {fees n : Nat}
    (htotal : Py.int 10 store.poolStats.totalFees = some (fees : Int))
    (hamount : Py.int 10 req.amount = some (n : Int)) :
    (placeBet now req store).2.poolStats.totalFees = Py.str (fees + 3 * n / 100 : Nat) := by
  unfold placeBet
  dsimp only
  rw [addFee_of_numbers htotal hamount]

theorem handlePlaceBet_of_accepted {body : Body} {req : PlaceBetRequest}
    (h : body.validate lower = .ok req) (now : Text) (store : Store) :
    (handlePlaceBet lower now body store).2 = (placeBet now req store).2 := by
  rw [handlePlaceBet, h]
  dsimp only
  split
  · rename_i heq
    rw [heq]
  · rename_i heq
    rw [heq]

end DuckPools.Backend
