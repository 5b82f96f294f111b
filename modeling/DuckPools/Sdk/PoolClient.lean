import DuckPools.Backend.LpRoutes
import DuckPools.Language.Numerals

/-!
# The client of the pool: `sdk/src/pool/PoolClient.ts`

`HttpPoolClient` sends and expects the names of `types.ts`, in camel case; the routes of the
backend use snake case without aliases. Names of one word agree, the others do not.
-/

namespace DuckPools.Sdk.PoolClient

open Backend (validateErgoAddress)
open Backend.LpRoutes

section Interfaces

def PoolStateResponse : List Text :=
  ["bankroll", "bankrollErg", "totalSupply", "totalValue", "totalValueErg", "pricePerShare",
    "pricePerShareErg", "houseEdgeBps", "cooldownBlocks", "cooldownHours",
    "pendingBets"].map String.toList

/-- The return type of `getPrice`. -/
def PriceResponse : List Text := ["pricePerShare", "pricePerShareErg"].map String.toList

def APYResponse : List Text :=
  ["apyPercent", "houseEdgeBps", "avgBetSizeErg", "betsPerBlock", "estimatedDailyProfitErg",
    "estimatedMonthlyProfitErg", "estimatedYearlyProfitErg"].map String.toList

def EstimateResponse : List Text :=
  ["shares", "ergAmount", "pricePerShare", "newTotalValue"].map String.toList

def LPBalanceResponse : List Text :=
  ["address", "lpBalance", "ergValue", "sharePercent"].map String.toList

def TxResponse : List Text := ["txId", "txJson", "message"].map String.toList

end Interfaces

/-- The methods of `HttpPoolClient`; numbers are exact. -/
inductive Call
  | getPoolState
  | getPrice
  | getBalance (address : Text)
  | getAPY (avgBetSize : Option Text) (betsPerBlock : Option ℚ)
  | estimateDeposit (amountNanoErg : ℚ)
  | estimateWithdraw (shares : ℚ)
  | buildDepositTx (amountNanoErg : ℚ) (address : Text)
  | requestWithdraw (lpAmount : ℚ) (address : Text)
  | executeWithdraw (boxId : Text)
  | cancelWithdraw (boxId : Text)

/-- The fields of the type that a method returns. -/
def Call.returns : Call → List Text
  | .getPoolState => PoolStateResponse
  | .getPrice => PriceResponse
  | .getBalance _ => LPBalanceResponse
  | .getAPY _ _ => APYResponse
  | .estimateDeposit _ | .estimateWithdraw _ => EstimateResponse
  | .buildDepositTx _ _ | .requestWithdraw _ _ | .executeWithdraw _ | .cancelWithdraw _ =>
      TxResponse

section Requests

-- `String(x)`
variable (numberToString : ℚ → Text)

/-- What follows the base URL. -/
def request (path : Text) (method : Method := .GET) (body : Option Json := none) : HttpRequest :=
  { method, target := "/lp".toList ++ path, body }

def apyParams (avgBetSize : Option Text) (betsPerBlock : Option ℚ) : List (Text × Text) :=
  (avgBetSize.map fun s => ("avg_bet_size".toList, s)).toList ++
    (betsPerBlock.map fun x => ("bets_per_block".toList, numberToString x)).toList

def send : Call → HttpRequest
  | .getPoolState => request "/pool".toList
  | .getPrice => request "/price".toList
  | .getBalance address => request ("/balance/".toList ++ Percent.encodeURIComponent address)
  | .getAPY avgBetSize betsPerBlock =>
      let params := Percent.formPairs (apyParams numberToString avgBetSize betsPerBlock)
      let query := if params.isEmpty then [] else '?' :: params
      request ("/apy".toList ++ query)
  | .estimateDeposit amountNanoErg =>
      request ("/estimate/deposit?amount=".toList ++ numberToString amountNanoErg)
  | .estimateWithdraw shares =>
      request ("/estimate/withdraw?shares=".toList ++ numberToString shares)
  | .buildDepositTx amountNanoErg address =>
      request "/deposit".toList .POST (some (.object
        [("amount".toList, .number amountNanoErg), ("address".toList, .string address)]))
  | .requestWithdraw lpAmount address =>
      request "/request-withdraw".toList .POST (some (.object
        [("lpAmount".toList, .number lpAmount), ("address".toList, .string address)]))
  | .executeWithdraw boxId =>
      request "/execute-withdraw".toList .POST (some (.object [("boxId".toList, .string boxId)]))
  | .cancelWithdraw boxId =>
      request "/cancel-withdraw".toList .POST (some (.object [("boxId".toList, .string boxId)]))

end Requests

section Meaning

/-- The handler and the arguments that a call is for. -/
inductive Means : Call → Handler → Prop
  | getPoolState : Means .getPoolState .getPoolState
  | getPrice : Means .getPrice .getLpPrice
  | getBalance (address : Text) : Means (.getBalance address) (.getLpBalance address)
  | getAPY (avgBetSize : Option Text) (betsPerBlock : Option ℚ) :
      Means (.getAPY avgBetSize betsPerBlock) (.getPoolApy avgBetSize betsPerBlock)
  | estimateDeposit (amount : Int) : Means (.estimateDeposit amount) (.estimateDeposit amount)
  | estimateWithdraw (shares : Int) : Means (.estimateWithdraw shares) (.estimateWithdraw shares)
  | buildDepositTx (body : DepositRequest) :
      Means (.buildDepositTx body.amount body.address) (.buildDepositTx body)
  | requestWithdraw (body : Backend.LpPool.WithdrawRequestCreate) :
      Means (.requestWithdraw body.lp_amount body.address) (.requestWithdrawal body)
  | executeWithdraw (body : WithdrawExecuteRequest) :
      Means (.executeWithdraw body.box_id) (.executeWithdrawal body)
  | cancelWithdraw (body : WithdrawCancelRequest) :
      Means (.cancelWithdraw body.box_id) (.cancelWithdrawal body)

def IsAmount (x : ℚ) : Prop := ∃ n : Nat, 0 < n ∧ n < 2 ^ 53 ∧ x = n

/-- Safe amounts, valid addresses and box ids. -/
def Call.Valid : Call → Prop
  | .getPoolState | .getPrice | .getAPY _ _ => True
  | .getBalance address => validateErgoAddress address = .ok address
  | .estimateDeposit n | .estimateWithdraw n => IsAmount n
  | .buildDepositTx n address | .requestWithdraw n address =>
      IsAmount n ∧ validateErgoAddress address = .ok address
  | .executeWithdraw boxId | .cancelWithdraw boxId => boxId ≠ []

def Call.rate : Call → Option ℚ
  | .getAPY _ betsPerBlock => betsPerBlock
  | _ => none

/-- Not one of the three methods whose bodies have names of two words. -/
def Call.namesAgree : Call → Bool
  | .requestWithdraw _ _ | .executeWithdraw _ | .cancelWithdraw _ => false
  | _ => true

/-- `pricePerShare` is `price_per_share`. -/
def snakeCase (name : Text) : Text :=
  name.flatMap fun c => if c.isUpper then ['_', c.toLower] else [c]

/-- The reader of `name` sees what the backend wrote for it. -/
def Carries (answer : List (Text × Json)) (name : Text) : Prop :=
  ∃ v, answer.lookup (snakeCase name) = some v ∧ answer.lookup name = some v

/-- The documented behaviour of numbers as text and of the values that pydantic reads. -/
structure Documented (lib : Pydantic) (numberToString : ℚ → Text) : Prop where
  int_number : ∀ n : Int, lib.int (.number n) = some n
  int_digits : ∀ n : Nat, lib.int (.string (Nat.toDigits 10 n)) = some (n : Int)
  str_string : ∀ s, lib.str (.string s) = some s
  digits : ∀ n : Nat, n < 10 ^ 21 → numberToString n = Nat.toDigits 10 n

end Meaning

section Responses

variable {answer : List (Text × Json)} {name : Text}

theorem snakeCase_eq_self (lower : ∀ c ∈ name, c.isUpper = false) : snakeCase name = name := by
  rw [snakeCase]
  induction name with
  | nil => rfl
  | cons c name ih =>
      have hc := lower c List.mem_cons_self
      rw [List.flatMap_cons, hc, ih fun d hd => lower d (List.mem_cons_of_mem c hd)]
      rfl

theorem mem_of_lookup {v : Json} (h : answer.lookup name = some v) :
    name ∈ answer.map Prod.fst := by
  by_contra missing
  have absent : answer.lookup name = none := by
    apply List.lookup_eq_none_iff.mpr
    intro entry hentry
    apply bne_iff_ne.mpr
    rintro rfl
    exact missing (List.mem_map_of_mem hentry)
  rw [absent] at h
  cases h

theorem exists_lookup (h : name ∈ answer.map Prod.fst) : ∃ v, answer.lookup name = some v := by
  apply Option.ne_none_iff_exists'.mp
  intro absent
  obtain ⟨entry, hentry, rfl⟩ := List.mem_map.mp h
  exact bne_iff_ne.mp (List.lookup_eq_none_iff.mp absent entry hentry) rfl

/-- Among lower-case names exactly the names of one word are found. -/
theorem carries_iff (lower : ∀ n ∈ answer.map Prod.fst, ∀ c ∈ n, c.isUpper = false)
    (served : snakeCase name ∈ answer.map Prod.fst) :
    Carries answer name ↔ ∀ c ∈ name, c.isUpper = false := by
  constructor
  · rintro ⟨v, -, found⟩
    exact lower name (mem_of_lookup found)
  · intro oneWord
    rw [snakeCase_eq_self oneWord] at served
    obtain ⟨v, found⟩ := exists_lookup served
    refine ⟨v, ?_, found⟩
    rw [snakeCase_eq_self oneWord, found]

/-- Every field of an interface has its counterpart in the model. -/
theorem snakeCase_mem_names {call : Call} {handler : Handler} (means : Means call handler) :
    ∀ field ∈ call.returns, snakeCase field ∈ handler.names := by
  have balance : ∀ field ∈ LPBalanceResponse,
      snakeCase field ∈ Backend.LpRoutes.LPBalanceResponse.names := by decide +kernel
  have apy : ∀ field ∈ APYResponse,
      snakeCase field ∈ Backend.LpRoutes.APYResponse.names := by decide +kernel
  have estimate : ∀ field ∈ EstimateResponse,
      snakeCase field ∈ Backend.LpRoutes.EstimateResponse.names := by decide +kernel
  have tx : ∀ field ∈ TxResponse,
      snakeCase field ∈ Backend.LpRoutes.TxResponse.names := by decide +kernel
  cases means with
  | getPoolState => decide +kernel
  | getPrice => decide +kernel
  | getBalance => exact balance
  | getAPY => exact apy
  | estimateDeposit => exact estimate
  | estimateWithdraw => exact estimate
  | buildDepositTx => exact tx
  | requestWithdraw => exact tx
  | executeWithdraw => exact tx
  | cancelWithdraw => exact tx

end Responses

section Accepted

variable {lib : Pydantic} {numberToString : ℚ → Text}

/-- A path without a query. -/
theorem dispatch_request {path : Text} {method : Method} {body : Option Json} {route : Route}
    (plain : '?' ∉ path ∧ '%' ∉ path)
    (matched : matchRoute ("/lp".toList ++ path) = some (method, route)) :
    dispatch lib (request path method body) =
      (arguments lib [] body route).mapError .unprocessable := by
  apply dispatch_path
  · simp [plain.1]
  · rw [Percent.unquote_plain (by simp [plain.2])]
    exact matched

theorem isFormSafe_of_isDigit {c : Char} (h : c.isDigit) :
    Percent.isFormSafe c = true ∧ c ≠ ' ' := by
  refine ⟨?_, Py.ne_of_isDigit h rfl⟩
  rw [Percent.isFormSafe, Char.isAlphanum, h, Bool.or_true, Bool.true_or]

theorem formPairs_digits (name : Text) (n : Nat) :
    Percent.formPairs [(name, Nat.toDigits 10 n)] =
      Percent.formEncode name ++ '=' :: Nat.toDigits 10 n := by
  have digits : ∀ c ∈ Nat.toDigits 10 n, Percent.isFormSafe c = true ∧ c ≠ ' ' := by
    intro c hc
    exact isFormSafe_of_isDigit (Numerals.isDigit_of_mem_toDigits c hc)
  rw [Percent.formPairs, List.map_singleton, List.intercalate_singleton, Percent.formPair,
    Percent.formEncode_eq_self digits]

theorem dispatch_getBalance (address : Text) :
    dispatch lib (send numberToString (.getBalance address)) = .ok (.getLpBalance address) := by
  have question : '?' ∉ balancePath ++ Percent.encodeURIComponent address := by
    intro h
    cases List.mem_append.mp h with
    | inl fixed => exact absurd fixed (by decide)
    | inr encoded => exact Percent.notMem_encode rfl (by decide) rfl address encoded
  have decoded : Percent.unquote (balancePath ++ Percent.encodeURIComponent address) =
      some (balancePath ++ address) :=
    Percent.unquote_append_encode (by decide) rfl address
  have matched : matchRoute (balancePath ++ address) = some (.GET, .getLpBalance address) := by
    rw [matchRoute, if_pos (List.isPrefixOf_iff_prefix.mpr (List.prefix_append _ _)),
      List.drop_left]
  exact dispatch_path question (by rw [decoded]; exact matched)

/-- A path with one number in its query. -/
theorem dispatch_digits {path name : Text} {route : Route} (plain : '?' ∉ path ∧ '%' ∉ path)
    (matched : matchRoute ("/lp".toList ++ path) = some (.GET, route))
    (encoded : Percent.formEncode name = name) (n : Nat) :
    dispatch lib (request (path ++ '?' :: (name ++ '=' :: Nat.toDigits 10 n))) =
      (arguments lib [(name, .string (Nat.toDigits 10 n))] none route).mapError
        .unprocessable := by
  have query : Percent.parseQsl (name ++ '=' :: Nat.toDigits 10 n) =
      some [(name, Nat.toDigits 10 n)] := by
    have pairs := Percent.parseQsl_formPairs [(name, Nat.toDigits 10 n)]
    rwa [formPairs_digits, encoded] at pairs
  rw [request, ← List.append_assoc]
  apply dispatch_query _ _ query
  · simp [plain.1]
  · rw [Percent.unquote_plain (by simp [plain.2])]
    exact matched

theorem requiredField_eq {α : Type} {source name : Text} {fields : List (Text × Json)}
    {read : Json → Except Problem α} {v : Json} {a : α} (found : fields.lookup name = some v)
    (reads : read v = .ok a) : requiredField source fields name read = .ok a := by
  rw [requiredField, found]
  show field source read name v = .ok a
  rw [field, reads]
  rfl

theorem numberToString_amount (doc : Documented lib numberToString) {n : Nat}
    (small : n < 2 ^ 53) : numberToString n = Nat.toDigits 10 n :=
  doc.digits n (small.trans (by norm_num))

theorem requiredField_digits (doc : Documented lib numberToString) {n : Nat} (pos : 0 < n)
    (source name : Text) :
    requiredField source [(name, .string (Nat.toDigits 10 n))] name (positiveInt lib) =
      .ok ⟨n, Int.natCast_pos.mpr pos⟩ :=
  requiredField_eq List.lookup_cons_self (positiveInt_eq_ok (doc.int_digits n) _)

theorem dispatch_estimateDeposit (doc : Documented lib numberToString) {n : Nat} (pos : 0 < n)
    (small : n < 2 ^ 53) :
    dispatch lib (send numberToString (.estimateDeposit n)) = .ok (.estimateDeposit n) := by
  have target : "/estimate/deposit?amount=".toList =
      "/estimate/deposit".toList ++ '?' :: ("amount".toList ++ ['=']) := by decide +kernel
  have matched : matchRoute ("/lp".toList ++ "/estimate/deposit".toList) =
      some (.GET, .estimateDeposit) := rfl
  rw [send, numberToString_amount doc small, target, List.append_assoc, List.cons_append,
    List.append_assoc, List.singleton_append, dispatch_digits (by decide) matched rfl, arguments,
    requiredField_digits doc pos]
  rfl

theorem dispatch_estimateWithdraw (doc : Documented lib numberToString) {n : Nat} (pos : 0 < n)
    (small : n < 2 ^ 53) :
    dispatch lib (send numberToString (.estimateWithdraw n)) = .ok (.estimateWithdraw n) := by
  have target : "/estimate/withdraw?shares=".toList =
      "/estimate/withdraw".toList ++ '?' :: ("shares".toList ++ ['=']) := by decide +kernel
  have matched : matchRoute ("/lp".toList ++ "/estimate/withdraw".toList) =
      some (.GET, .estimateWithdraw) := rfl
  rw [send, numberToString_amount doc small, target, List.append_assoc, List.cons_append,
    List.append_assoc, List.singleton_append, dispatch_digits (by decide) matched rfl, arguments,
    requiredField_digits doc pos]
  rfl

theorem dispatch_buildDepositTx (doc : Documented lib numberToString) {n : Nat} (pos : 0 < n)
    {address : Text} (valid : validateErgoAddress address = .ok address) :
    dispatch lib (send numberToString (.buildDepositTx n address)) =
      .ok (.buildDepositTx
        { amount := n, address, amount_pos := Int.natCast_pos.mpr pos }) := by
  have amount : bodyField [("amount".toList, .number n), ("address".toList, .string address)]
      "amount" (positiveInt lib) = .ok ⟨n, Int.natCast_pos.mpr pos⟩ :=
    requiredField_eq List.lookup_cons_self (positiveInt_eq_ok (doc.int_number n) _)
  have holder : bodyField [("amount".toList, .number n), ("address".toList, .string address)]
      "address" (ergoAddress lib) = .ok address :=
    requiredField_eq rfl (ergoAddress_eq_ok (doc.str_string address) valid)
  have matched : matchRoute ("/lp".toList ++ "/deposit".toList) = some (.POST, .buildDepositTx) :=
    rfl
  rw [send, dispatch_request (by decide) matched, arguments, bodyFields]
  show Except.mapError _ ((DepositRequest.validate lib _).map _) = _
  rw [DepositRequest.validate, amount, holder]
  rfl

/-- The body has `lpAmount`. -/
theorem dispatch_requestWithdraw (doc : Documented lib numberToString) (x : ℚ)
    {address : Text} (valid : validateErgoAddress address = .ok address) :
    dispatch lib (send numberToString (.requestWithdraw x address)) =
      .error (.unprocessable
        [{ loc := ["body".toList, "lp_amount".toList], problem := .missing }]) := by
  have holder : bodyField [("lpAmount".toList, .number x), ("address".toList, .string address)]
      "address" (ergoAddress lib) = .ok address :=
    requiredField_eq rfl (ergoAddress_eq_ok (doc.str_string address) valid)
  have matched : matchRoute ("/lp".toList ++ "/request-withdraw".toList) =
      some (.POST, .requestWithdrawal) := rfl
  rw [send, dispatch_request (by decide) matched, arguments, bodyFields]
  show Except.mapError _ ((WithdrawRequestCreate.validate lib _).map _) = _
  rw [WithdrawRequestCreate.validate, holder]
  rfl

/-- The body has `boxId`. -/
theorem dispatch_executeWithdraw (boxId : Text) :
    dispatch lib (send numberToString (.executeWithdraw boxId)) =
      .error (.unprocessable
        [{ loc := ["body".toList, "box_id".toList], problem := .missing }]) := by
  have matched : matchRoute ("/lp".toList ++ "/execute-withdraw".toList) =
      some (.POST, .executeWithdrawal) := rfl
  rw [send, dispatch_request (by decide) matched]
  rfl

theorem dispatch_cancelWithdraw (boxId : Text) :
    dispatch lib (send numberToString (.cancelWithdraw boxId)) =
      .error (.unprocessable
        [{ loc := ["body".toList, "box_id".toList], problem := .missing }]) := by
  have matched : matchRoute ("/lp".toList ++ "/cancel-withdraw".toList) =
      some (.POST, .cancelWithdrawal) := rfl
  rw [send, dispatch_request (by decide) matched]
  rfl

theorem dispatch_apy (params : List (Text × Text)) :
    dispatch lib (request ("/apy".toList ++ if (Percent.formPairs params).isEmpty then []
      else '?' :: Percent.formPairs params)) =
      (arguments lib (queryFields params) none .getPoolApy).mapError .unprocessable := by
  have matched : matchRoute ("/lp".toList ++ "/apy".toList) = some (.GET, .getPoolApy) := rfl
  have parsed := Percent.parseQsl_formPairs params
  split
  · next empty =>
      rw [List.isEmpty_iff.mp empty] at parsed
      obtain rfl : [] = params := Option.some.inj parsed
      exact dispatch_request (by decide) matched
  · rw [request, ← List.append_assoc]
    apply dispatch_query (by decide) _ parsed
    rw [Percent.unquote_plain (by decide)]
    exact matched

theorem lookup_apyParams (avgBetSize : Option Text) (betsPerBlock : Option ℚ) :
    (queryFields (apyParams numberToString avgBetSize betsPerBlock)).lookup
        "avg_bet_size".toList = avgBetSize.map .string ∧
      (queryFields (apyParams numberToString avgBetSize betsPerBlock)).lookup
        "bets_per_block".toList = betsPerBlock.map fun x => .string (numberToString x) := by
  cases avgBetSize <;> cases betsPerBlock <;> exact ⟨rfl, rfl⟩

/-- The rate is checked, the bet size is any text. -/
theorem dispatch_getAPY (doc : Documented lib numberToString) (avgBetSize : Option Text)
    (betsPerBlock : Option ℚ)
    (readsBack : ∀ x ∈ betsPerBlock, lib.float (.string (numberToString x)) = some x) :
    dispatch lib (send numberToString (.getAPY avgBetSize betsPerBlock)) =
      if ∀ x ∈ betsPerBlock, 0 ≤ x ∧ x ≤ 1000 then .ok (.getPoolApy avgBetSize betsPerBlock)
      else .error (.unprocessable
        [{ loc := ["query".toList, "bets_per_block".toList], problem := .bound }]) := by
  obtain ⟨size, bets⟩ := @lookup_apyParams numberToString avgBetSize betsPerBlock
  have sizeRead : optionalField "query".toList
      (queryFields (apyParams numberToString avgBetSize betsPerBlock)) "avg_bet_size".toList
      (text lib) = .ok avgBetSize := by
    rw [optionalField, size]
    cases avgBetSize with
    | none => rfl
    | some s =>
        show (field _ (text lib) _ (.string s)).map some = _
        rw [field, text, doc.str_string]
        rfl
  rw [send, dispatch_apy, arguments, sizeRead, optionalField, bets]
  cases betsPerBlock with
  | none => rfl
  | some x =>
      show Except.mapError _ (both _ _ ((field _ (rate lib) _
        (.string (numberToString x))).map some)) = _
      rw [field, rate_eq (readsBack x rfl)]
      simp only [Option.mem_def, Option.some.injEq, forall_eq']
      split <;> rfl

theorem reaches_iff_of_reached {call : Call} (handler : Handler) (noRate : call.rate = none)
    (agree : call.namesAgree = true)
    (reached : dispatch lib (send numberToString call) = .ok handler)
    (means : Means call handler) :
    (∃ handler, dispatch lib (send numberToString call) = .ok handler ∧ Means call handler) ↔
      call.namesAgree ∧ ∀ x ∈ call.rate, 0 ≤ x ∧ x ≤ 1000 := by
  rw [noRate]
  exact iff_of_true ⟨handler, reached, means⟩ ⟨agree, fun x hx => absurd hx (by simp)⟩

theorem reaches_iff_of_refused {call : Call} (refusal : Refusal)
    (differ : call.namesAgree = false)
    (refused : dispatch lib (send numberToString call) = .error refusal) :
    (∃ handler, dispatch lib (send numberToString call) = .ok handler ∧ Means call handler) ↔
      call.namesAgree ∧ ∀ x ∈ call.rate, 0 ≤ x ∧ x ≤ 1000 := by
  rw [differ, refused]
  apply iff_of_false
  · rintro ⟨handler, reached, -⟩
    cases reached
  · rintro ⟨agree, -⟩
    cases agree

/-- Exactly the requests of the withdrawals and the rates out of range are refused. -/
theorem reaches_iff (doc : Documented lib numberToString) {call : Call} (valid : call.Valid)
    (readsBack : ∀ x ∈ call.rate, lib.float (.string (numberToString x)) = some x) :
    (∃ handler, dispatch lib (send numberToString call) = .ok handler ∧ Means call handler) ↔
      call.namesAgree ∧ ∀ x ∈ call.rate, 0 ≤ x ∧ x ≤ 1000 := by
  cases call with
  | getPoolState =>
      have reached := @dispatch_request lib "/pool".toList .GET none .getPoolState (by decide) rfl
      exact reaches_iff_of_reached _ rfl rfl reached .getPoolState
  | getPrice =>
      have reached := @dispatch_request lib "/price".toList .GET none .getLpPrice (by decide) rfl
      exact reaches_iff_of_reached _ rfl rfl reached .getPrice
  | getBalance address =>
      exact reaches_iff_of_reached _ rfl rfl (dispatch_getBalance address) (.getBalance address)
  | getAPY avgBetSize betsPerBlock =>
      rw [dispatch_getAPY doc avgBetSize betsPerBlock readsBack]
      split
      · next inRange =>
          exact iff_of_true ⟨_, rfl, .getAPY avgBetSize betsPerBlock⟩ ⟨rfl, inRange⟩
      · next outOfRange =>
          apply iff_of_false
          · rintro ⟨handler, reached, -⟩
            cases reached
          · rintro ⟨-, inRange⟩
            exact outOfRange inRange
  | estimateDeposit x =>
      obtain ⟨n, pos, small, rfl⟩ := valid
      exact reaches_iff_of_reached _ rfl rfl (dispatch_estimateDeposit doc pos small)
        (.estimateDeposit n)
  | estimateWithdraw x =>
      obtain ⟨n, pos, small, rfl⟩ := valid
      exact reaches_iff_of_reached _ rfl rfl (dispatch_estimateWithdraw doc pos small)
        (.estimateWithdraw n)
  | buildDepositTx x address =>
      obtain ⟨⟨n, pos, -, rfl⟩, valid⟩ := valid
      exact reaches_iff_of_reached _ rfl rfl (dispatch_buildDepositTx doc pos valid)
        (.buildDepositTx { amount := n, address, amount_pos := Int.natCast_pos.mpr pos })
  | requestWithdraw x address =>
      exact reaches_iff_of_refused _ rfl (dispatch_requestWithdraw doc x valid.2)
  | executeWithdraw boxId => exact reaches_iff_of_refused _ rfl (dispatch_executeWithdraw boxId)
  | cancelWithdraw boxId => exact reaches_iff_of_refused _ rfl (dispatch_cancelWithdraw boxId)

end Accepted

/-- A call reaches its handler with its values exactly if its body has the names of the
backend and its rate is one of the backend's; a field of the answer is seen exactly if its
name is one word. -/
theorem pool_client_speaks_iff {lib : Pydantic} {numberToString : ℚ → Text}
    (doc : Documented lib numberToString) {call : Call} (valid : call.Valid)
    (readsBack : ∀ x ∈ call.rate, lib.float (.string (numberToString x)) = some x) :
    ((∃ handler, dispatch lib (send numberToString call) = .ok handler ∧ Means call handler) ↔
      call.namesAgree ∧ ∀ x ∈ call.rate, 0 ≤ x ∧ x ≤ 1000) ∧
    ∀ handler, Means call handler → ∀ response : handler.Response, ∀ name ∈ call.returns,
      (Carries (handler.toJson response) name ↔ ∀ c ∈ name, c.isUpper = false) := by
  refine ⟨reaches_iff doc valid readsBack, ?_⟩
  intro handler means response name declared
  apply carries_iff
  · rw [names_toJson]
    exact names_lower handler
  · rw [names_toJson]
    exact snakeCase_mem_names means name declared

section Samples

/-- pydantic on the values of the examples. -/
def sampleLibrary : Pydantic where
  int
    | .number x => if x.den = 1 then some x.num else none
    | .string s => Py.int 10 s
    | .bool b => some (if b then 1 else 0)
    | _ => none
  str
    | .string s => some s
    | _ => none
  float
    | .number x => some x
    | .string s => Numerals.value s
    | _ => none

/-- Whole numbers and tenths. -/
def sampleNumberToString (x : ℚ) : Text :=
  if x.den = 1 then Nat.toDigits 10 x.num.toNat else Numerals.fixedPoint 1 (x * 10).num.toNat

theorem sample_documented : Documented sampleLibrary sampleNumberToString where
  int_number _ := rfl
  int_digits n := Py.int_str n
  str_string _ := rfl
  digits _ _ := rfl

theorem sample_half :
    sampleLibrary.float (.string (sampleNumberToString (1 / 2))) = some (1 / 2) := by
  have text : sampleNumberToString (1 / 2) = Numerals.fixedPoint 1 5 := by decide +kernel
  have value := (@Numerals.fixedPoint_isCanonical 1 5).value
  rw [text]
  exact value.trans (by norm_num)

end Samples

theorem pool_client_speaks_iff_half :
    ((∃ handler, dispatch sampleLibrary
        (send sampleNumberToString (.getAPY (some "2.5".toList) (some (1 / 2)))) = .ok handler ∧
        Means (.getAPY (some "2.5".toList) (some (1 / 2))) handler) ↔
      (Call.getAPY (some "2.5".toList) (some (1 / 2))).namesAgree ∧
        ∀ x ∈ (Call.getAPY (some "2.5".toList) (some (1 / 2))).rate, 0 ≤ x ∧ x ≤ 1000) ∧
    ∀ handler, Means (.getAPY (some "2.5".toList) (some (1 / 2))) handler →
      ∀ response : handler.Response,
      ∀ name ∈ (Call.getAPY (some "2.5".toList) (some (1 / 2))).returns,
      (Carries (handler.toJson response) name ↔ ∀ c ∈ name, c.isUpper = false) :=
  pool_client_speaks_iff sample_documented trivial (by
    rintro x ⟨⟩
    exact sample_half)

/-- The backend misses `box_id` in the request to cancel a withdrawal. -/
theorem box_id_missing :
    ¬ ∀ call : Call, call.Valid →
      ∃ handler, dispatch sampleLibrary (send sampleNumberToString call) = .ok handler ∧
        Means call handler := by
  intro h
  obtain ⟨handler, reached, -⟩ := h (.cancelWithdraw "00".toList) (List.cons_ne_nil _ _)
  rw [dispatch_cancelWithdraw] at reached
  cases reached

end DuckPools.Sdk.PoolClient
