import DuckPools.Backend.LpBalance
import DuckPools.Language.Json
import DuckPools.Language.PercentEncoding

/-!
# The wire format of `backend/lp_routes.py`

The models of the requests and responses and the ten routes. A model is read field by field
and the errors of all fields are reported; what pydantic accepts as a value of a type is a
parameter. A response has the names of its model.
-/

namespace DuckPools.Backend.LpRoutes

open LpPool (LPBalanceResponse WithdrawRequestCreate)

section Validation

/-- The values that pydantic accepts for a type. -/
structure Pydantic where
  int : Json → Option Int
  str : Json → Option Text
  float : Json → Option ℚ

inductive Problem
  | missing
  | type
  | bound
  | value (message : Text)

/-- An entry of the answer 422. -/
structure FieldError where
  loc : List Text
  problem : Problem

abbrev Validated (α : Type) := Except (List FieldError) α

variable {α β γ : Type}

/-- The errors of both fields are reported. -/
def both (f : α → β → γ) : Validated α → Validated β → Validated γ
  | .ok a, .ok b => .ok (f a b)
  | .ok _, .error errors => .error errors
  | .error errors, .ok _ => .error errors
  | .error errors, .error more => .error (errors ++ more)

def field (source : Text) (read : Json → Except Problem α) (name : Text) (v : Json) :
    Validated α :=
  (read v).mapError fun problem => [{ loc := [source, name], problem }]

/-- A field with the default `...`. -/
def requiredField (source : Text) (fields : List (Text × Json)) (name : Text)
    (read : Json → Except Problem α) : Validated α :=
  match fields.lookup name with
  | none => throw [{ loc := [source, name], problem := .missing }]
  | some v => field source read name v

/-- A field with the default `None`. -/
def optionalField (source : Text) (fields : List (Text × Json)) (name : Text)
    (read : Json → Except Problem α) : Validated (Option α) :=
  match fields.lookup name with
  | none => return none
  | some v => (field source read name v).map some

variable (lib : Pydantic)

/-- `int = Field(..., gt=0)` -/
def positiveInt (v : Json) : Except Problem { n : Int // 0 < n } :=
  match lib.int v with
  | none => throw .type
  | some n => if h : 0 < n then return ⟨n, h⟩ else throw .bound

def text (v : Json) : Except Problem Text :=
  match lib.str v with
  | none => throw .type
  | some s => return s

/-- `str = Field(..., min_length=1)` -/
def nonempty (v : Json) : Except Problem Text := do
  let s ← text lib v
  if s.isEmpty then throw .bound else return s

/-- With `validate_address`. -/
def ergoAddress (v : Json) : Except Problem Text := do
  let s ← nonempty lib v
  (validateErgoAddress s).mapError .value

/-- `Optional[float] = Query(None, ge=0, le=1000)` -/
def rate (v : Json) : Except Problem ℚ :=
  match lib.float v with
  | none => throw .type
  | some x => if 0 ≤ x ∧ x ≤ 1000 then return x else throw .bound

end Validation

section Requests

structure DepositRequest where
  amount : Int
  address : Text
  amount_pos : 0 < amount

structure WithdrawExecuteRequest where
  box_id : Text

structure WithdrawCancelRequest where
  box_id : Text

variable (lib : Pydantic) (fields : List (Text × Json))

def bodyField {α : Type} (name : String) (read : Json → Except Problem α) : Validated α :=
  requiredField "body".toList fields name.toList read

def DepositRequest.validate : Validated DepositRequest :=
  both (fun (amount : { n : Int // 0 < n }) address =>
      { amount, address, amount_pos := amount.property })
    (bodyField fields "amount" (positiveInt lib)) (bodyField fields "address" (ergoAddress lib))

def WithdrawRequestCreate.validate : Validated WithdrawRequestCreate :=
  both (fun (lp_amount : { n : Int // 0 < n }) address =>
      { lp_amount, address, lp_amount_pos := lp_amount.property })
    (bodyField fields "lp_amount" (positiveInt lib)) (bodyField fields "address" (ergoAddress lib))

def WithdrawExecuteRequest.validate : Validated WithdrawExecuteRequest :=
  (bodyField fields "box_id" (nonempty lib)).map fun box_id => { box_id }

def WithdrawCancelRequest.validate : Validated WithdrawCancelRequest :=
  (bodyField fields "box_id" (nonempty lib)).map fun box_id => { box_id }

end Requests

section Responses

structure PoolStateResponse where
  bankroll : Text
  bankroll_erg : Text
  total_supply : Text
  total_value : Text
  total_value_erg : Text
  price_per_share : Text
  price_per_share_erg : Text
  house_edge_bps : Int
  cooldown_blocks : Int
  cooldown_hours : ℚ
  pending_bets : Int

/-- The dictionary of `get_lp_price`. -/
structure PriceResponse where
  price_per_share : Text
  price_per_share_erg : Text
  total_supply : Text
  total_value : Text
  total_value_erg : Text

structure EstimateResponse where
  shares : Text
  erg_amount : Text
  price_per_share : Text
  new_total_value : Text

structure APYResponse where
  apy_percent : ℚ
  house_edge_bps : Int
  avg_bet_size_erg : Text
  bets_per_block : ℚ
  estimated_daily_profit_erg : Text
  estimated_monthly_profit_erg : Text
  estimated_yearly_profit_erg : Text

structure TxResponse where
  tx_id : Option Text
  tx_json : List (Text × Json)
  message : Text

def PoolStateResponse.toJson (r : PoolStateResponse) : List (Text × Json) :=
  [("bankroll".toList, .string r.bankroll),
    ("bankroll_erg".toList, .string r.bankroll_erg),
    ("total_supply".toList, .string r.total_supply),
    ("total_value".toList, .string r.total_value),
    ("total_value_erg".toList, .string r.total_value_erg),
    ("price_per_share".toList, .string r.price_per_share),
    ("price_per_share_erg".toList, .string r.price_per_share_erg),
    ("house_edge_bps".toList, .number r.house_edge_bps),
    ("cooldown_blocks".toList, .number r.cooldown_blocks),
    ("cooldown_hours".toList, .number r.cooldown_hours),
    ("pending_bets".toList, .number r.pending_bets)]

def PriceResponse.toJson (r : PriceResponse) : List (Text × Json) :=
  [("price_per_share".toList, .string r.price_per_share),
    ("price_per_share_erg".toList, .string r.price_per_share_erg),
    ("total_supply".toList, .string r.total_supply),
    ("total_value".toList, .string r.total_value),
    ("total_value_erg".toList, .string r.total_value_erg)]

def EstimateResponse.toJson (r : EstimateResponse) : List (Text × Json) :=
  [("shares".toList, .string r.shares),
    ("erg_amount".toList, .string r.erg_amount),
    ("price_per_share".toList, .string r.price_per_share),
    ("new_total_value".toList, .string r.new_total_value)]

def APYResponse.toJson (r : APYResponse) : List (Text × Json) :=
  [("apy_percent".toList, .number r.apy_percent),
    ("house_edge_bps".toList, .number r.house_edge_bps),
    ("avg_bet_size_erg".toList, .string r.avg_bet_size_erg),
    ("bets_per_block".toList, .number r.bets_per_block),
    ("estimated_daily_profit_erg".toList, .string r.estimated_daily_profit_erg),
    ("estimated_monthly_profit_erg".toList, .string r.estimated_monthly_profit_erg),
    ("estimated_yearly_profit_erg".toList, .string r.estimated_yearly_profit_erg)]

def TxResponse.toJson (r : TxResponse) : List (Text × Json) :=
  [("tx_id".toList, (r.tx_id.map Json.string).getD .null),
    ("tx_json".toList, .object r.tx_json),
    ("message".toList, .string r.message)]

def LPBalanceResponse.toJson (r : LPBalanceResponse) : List (Text × Json) :=
  [("address".toList, .string r.address),
    ("lp_balance".toList, .string r.lp_balance),
    ("erg_value".toList, .string r.erg_value),
    ("share_percent".toList, .number r.share_percent)]

end Responses

section Routes

inductive Method
  | GET
  | POST
deriving DecidableEq

structure HttpRequest where
  method : Method
  /-- Path and query. -/
  target : Text
  body : Option Json

inductive Route
  | getPoolState
  | getLpPrice
  | getLpBalance (address : Text)
  | getPoolApy
  | estimateDeposit
  | estimateWithdraw
  | buildDepositTx
  | requestWithdrawal
  | executeWithdrawal
  | cancelWithdrawal
deriving DecidableEq

/-- A handler with its arguments. -/
inductive Handler
  | getPoolState
  | getLpPrice
  | getLpBalance (address : Text)
  | getPoolApy (avg_bet_size : Option Text) (bets_per_block : Option ℚ)
  | estimateDeposit (amount : Int)
  | estimateWithdraw (shares : Int)
  | buildDepositTx (body : DepositRequest)
  | requestWithdrawal (body : WithdrawRequestCreate)
  | executeWithdrawal (body : WithdrawExecuteRequest)
  | cancelWithdrawal (body : WithdrawCancelRequest)

abbrev Handler.Response : Handler → Type
  | .getPoolState => PoolStateResponse
  | .getLpPrice => PriceResponse
  | .getLpBalance _ => LPBalanceResponse
  | .getPoolApy _ _ => APYResponse
  | .estimateDeposit _ | .estimateWithdraw _ => EstimateResponse
  | .buildDepositTx _ | .requestWithdrawal _ | .executeWithdrawal _ | .cancelWithdrawal _ =>
      TxResponse

/-- The answer of a handler as a JSON object. -/
def Handler.toJson : (handler : Handler) → handler.Response → List (Text × Json)
  | .getPoolState, r => PoolStateResponse.toJson r
  | .getLpPrice, r => PriceResponse.toJson r
  | .getLpBalance _, r => LPBalanceResponse.toJson r
  | .getPoolApy _ _, r => APYResponse.toJson r
  | .estimateDeposit _, r | .estimateWithdraw _, r => EstimateResponse.toJson r
  | .buildDepositTx _, r | .requestWithdrawal _, r | .executeWithdrawal _, r
  | .cancelWithdrawal _, r => TxResponse.toJson r

inductive Refusal
  | notFound
  | methodNotAllowed
  | unprocessable (errors : List FieldError)

def routes : List (Text × Method × Route) :=
  [("/lp/pool".toList, .GET, .getPoolState),
    ("/lp/price".toList, .GET, .getLpPrice),
    ("/lp/apy".toList, .GET, .getPoolApy),
    ("/lp/estimate/deposit".toList, .GET, .estimateDeposit),
    ("/lp/estimate/withdraw".toList, .GET, .estimateWithdraw),
    ("/lp/deposit".toList, .POST, .buildDepositTx),
    ("/lp/request-withdraw".toList, .POST, .requestWithdrawal),
    ("/lp/execute-withdraw".toList, .POST, .executeWithdrawal),
    ("/lp/cancel-withdraw".toList, .POST, .cancelWithdrawal)]

def balancePath : Text := "/lp/balance/".toList

def matchRoute (path : Text) : Option (Method × Route) :=
  if balancePath.isPrefixOf path then
    some (.GET, .getLpBalance (path.drop balancePath.length))
  else routes.lookup path

variable (lib : Pydantic)

/-- The last value of a name in the query counts. -/
def queryFields (pairs : List (Text × Text)) : List (Text × Json) :=
  pairs.reverse.map fun pair => (pair.1, .string pair.2)

def bodyFields : Option Json → Validated (List (Text × Json))
  | none => throw [{ loc := ["body".toList], problem := .missing }]
  | some (.object fields) => return fields
  | some _ => throw [{ loc := ["body".toList], problem := .type }]

def arguments (query : List (Text × Json)) (body : Option Json) : Route → Validated Handler
  | .getPoolState => return .getPoolState
  | .getLpPrice => return .getLpPrice
  | .getLpBalance address => return .getLpBalance address
  | .getPoolApy =>
      both .getPoolApy (optionalField "query".toList query "avg_bet_size".toList (text lib))
        (optionalField "query".toList query "bets_per_block".toList (rate lib))
  | .estimateDeposit =>
      (requiredField "query".toList query "amount".toList (positiveInt lib)).map
        fun amount => .estimateDeposit amount
  | .estimateWithdraw =>
      (requiredField "query".toList query "shares".toList (positiveInt lib)).map
        fun shares => .estimateWithdraw shares
  | .buildDepositTx => do return .buildDepositTx (← DepositRequest.validate lib (← bodyFields body))
  | .requestWithdrawal => do
      return .requestWithdrawal (← WithdrawRequestCreate.validate lib (← bodyFields body))
  | .executeWithdrawal => do
      return .executeWithdrawal (← WithdrawExecuteRequest.validate lib (← bodyFields body))
  | .cancelWithdrawal => do
      return .cancelWithdrawal (← WithdrawCancelRequest.validate lib (← bodyFields body))

/-- The handler that a request reaches. -/
def dispatch (request : HttpRequest) : Except Refusal Handler :=
  let path := Percent.unquote (request.target.takeWhile (· ≠ '?'))
  let query := Percent.parseQsl ((request.target.dropWhile (· ≠ '?')).drop 1)
  match path.bind matchRoute, query with
  | some (method, route), some pairs =>
      if request.method = method then
        (arguments lib (queryFields pairs) request.body route).mapError .unprocessable
      else throw .methodNotAllowed
  | _, _ => throw .notFound

end Routes

section Dispatch

variable {lib : Pydantic} {path query : Text} {method : Method} {route : Route}
variable {pairs : List (Text × Text)} {body : Option Json}

theorem dispatch_query (plain : '?' ∉ path)
    (matched : (Percent.unquote path).bind matchRoute = some (method, route))
    (parsed : Percent.parseQsl query = some pairs) :
    dispatch lib { method, target := path ++ '?' :: query, body } =
      (arguments lib (queryFields pairs) body route).mapError .unprocessable := by
  obtain ⟨before, after⟩ := Percent.split_at plain query
  rw [dispatch, before, after, matched, List.drop_one, List.tail_cons, parsed]
  exact if_pos rfl

theorem dispatch_path (plain : '?' ∉ path)
    (matched : (Percent.unquote path).bind matchRoute = some (method, route)) :
    dispatch lib { method, target := path, body } =
      (arguments lib [] body route).mapError .unprocessable := by
  have stops := Percent.decide_ne_of_notMem plain
  rw [dispatch, List.takeWhile_eq_self_iff.mpr stops, List.dropWhile_eq_nil_iff.mpr stops, matched]
  exact if_pos rfl

end Dispatch

section Fields

variable {lib : Pydantic} {v : Json}

theorem positiveInt_eq_ok {n : Int} (read : lib.int v = some n) (pos : 0 < n) :
    positiveInt lib v = .ok ⟨n, pos⟩ := by
  rw [positiveInt, read]
  exact dif_pos pos

theorem nonempty_eq_ok {s : Text} (read : lib.str v = some s) (hne : s ≠ []) :
    nonempty lib v = .ok s := by
  rw [nonempty, text, read]
  exact if_neg (by simpa using hne)

theorem ne_nil_of_valid {address : Text} (valid : validateErgoAddress address = .ok address) :
    address ≠ [] := by
  rintro rfl
  cases valid

theorem ergoAddress_eq_ok {address : Text} (read : lib.str v = some address)
    (valid : validateErgoAddress address = .ok address) : ergoAddress lib v = .ok address := by
  rw [ergoAddress, nonempty_eq_ok read (ne_nil_of_valid valid)]
  exact congrArg (Except.mapError Problem.value) valid

theorem rate_eq {x : ℚ} (read : lib.float v = some x) :
    rate lib v = if 0 ≤ x ∧ x ≤ 1000 then .ok x else .error .bound := by
  rw [rate, read]
  rfl

end Fields

section Names

def PoolStateResponse.names : List Text :=
  ["bankroll", "bankroll_erg", "total_supply", "total_value", "total_value_erg",
    "price_per_share", "price_per_share_erg", "house_edge_bps", "cooldown_blocks",
    "cooldown_hours", "pending_bets"].map String.toList

def PriceResponse.names : List Text :=
  ["price_per_share", "price_per_share_erg", "total_supply", "total_value",
    "total_value_erg"].map String.toList

def LPBalanceResponse.names : List Text :=
  ["address", "lp_balance", "erg_value", "share_percent"].map String.toList

def APYResponse.names : List Text :=
  ["apy_percent", "house_edge_bps", "avg_bet_size_erg", "bets_per_block",
    "estimated_daily_profit_erg", "estimated_monthly_profit_erg",
    "estimated_yearly_profit_erg"].map String.toList

def EstimateResponse.names : List Text :=
  ["shares", "erg_amount", "price_per_share", "new_total_value"].map String.toList

def TxResponse.names : List Text := ["tx_id", "tx_json", "message"].map String.toList

/-- The names of a response do not depend on its values. -/
def Handler.names : Handler → List Text
  | .getPoolState => PoolStateResponse.names
  | .getLpPrice => PriceResponse.names
  | .getLpBalance _ => LPBalanceResponse.names
  | .getPoolApy _ _ => APYResponse.names
  | .estimateDeposit _ | .estimateWithdraw _ => EstimateResponse.names
  | .buildDepositTx _ | .requestWithdrawal _ | .executeWithdrawal _ | .cancelWithdrawal _ =>
      TxResponse.names

theorem names_toJson (handler : Handler) (response : handler.Response) :
    (handler.toJson response).map Prod.fst = handler.names := by
  cases handler <;> rfl

theorem lower_of_all {names : List Text}
    (h : (names.all fun name => name.all fun c => !c.isUpper) = true) :
    ∀ name ∈ names, ∀ c ∈ name, c.isUpper = false := by
  intro name hname c hc
  have lower := List.all_eq_true.mp (List.all_eq_true.mp h name hname) c hc
  simpa using lower

theorem names_lower (handler : Handler) :
    ∀ name ∈ handler.names, ∀ c ∈ name, c.isUpper = false := by
  apply lower_of_all
  cases handler <;> rfl

end Names

end DuckPools.Backend.LpRoutes
