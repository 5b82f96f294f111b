import DuckPools.Backend.WsTokens
import DuckPools.Language.Exceptions

/-!
# What `_verify_token` accepts

The body of the function may raise in five places, on a text that is not base64, bytes that
are not JSON and JSON that is no dictionary or has no time in `exp`. All of it is inside
one `try`, so the function returns on every text. What it returns is the payload of the
first part, if the second part is its signature and the time has not passed.
-/

namespace DuckPools.Backend

/-- The exceptions of the `try` block. -/
inductive Raised
  | notBase64
  | notJson
  | noDictionary
  | noTime

def orRaise {α : Type} (e : Raised) : Option α → Except Raised α
  | some a => .ok a
  | none => .error e

/-- The `try` block of `_verify_token`. -/
def verifyBody (rt : Runtime) (now : ℚ) (token : Text) : Except Raised (Option Json) :=
  match token.splitOn '.' with
  | [payloadPart, sigPart] => do
      let payloadBytes ← orRaise .notBase64 (Base64.urlsafeDecode (addPadding payloadPart))
      let expectedSig ← orRaise .notBase64 (Base64.urlsafeDecode (addPadding sigPart))
      let actualSig := rt.hmac (Js.bufferFromUtf8 rt.WS_TOKEN_SECRET) payloadBytes
      if expectedSig ≠ actualSig then return none
      else
        let payload ← orRaise .notJson (rt.loadsBytes payloadBytes)
        let exp ← orRaise .noDictionary (payload.get "exp".toList (.number 0))
        let expired ← orRaise .noTime (exp.lessThan now)
        if expired then return none else return some payload
  | _ => return none

/-- `_verify_token`, with the exceptions that it lets out. -/
def verifyTokenOrRaise (rt : Runtime) (now : ℚ) (token : Text) : Except Raised (Option Json) :=
  if rt.WS_TOKEN_SECRET.isEmpty then return none
  else tryCatch (verifyBody rt now token) fun _ => return none

/-- `exp` is not before `now`, and zero if there is none. -/
def NotExpired (payload : Json) (now : ℚ) : Prop :=
  ∃ exp, payload.get "exp".toList (.number 0) = some exp ∧ exp.lessThan now = some false

/-- The two parts of the token are a payload and its signature. -/
def Signed (rt : Runtime) (token : Text) (payload : Json) : Prop :=
  ∃ first second payloadBytes sig,
    token.splitOn '.' = [first, second] ∧
    Base64.urlsafeDecode (addPadding first) = some payloadBytes ∧
    Base64.urlsafeDecode (addPadding second) = some sig ∧
    rt.hmac (Js.bufferFromUtf8 rt.WS_TOKEN_SECRET) payloadBytes = sig ∧
    rt.loadsBytes payloadBytes = some payload

variable {rt : Runtime} {now : ℚ} {token : Text} {payload : Json}

/-- The handler turns every exception into `None`. -/
theorem verifyTokenOrRaise_eq (rt : Runtime) (now : ℚ) (token : Text) :
    verifyTokenOrRaise rt now token = .ok (verifyToken rt now token) := by
  have caught : ∀ {α : Type} {e : Raised} {x : Option α}
      {f : α → Except Raised (Option Json)} {g : α → Option Json},
      (∀ a, tryCatch (f a) (fun _ => return none) = .ok (g a)) →
        tryCatch (orRaise e x >>= f) (fun _ => return none) = .ok (x.bind g) := by
    intro α e x f g h
    cases x with
    | none => rfl
    | some a => exact h a
  rw [verifyTokenOrRaise, verifyToken]
  split
  · rfl
  · rw [verifyBody]
    generalize token.splitOn '.' = parts
    cases parts with
    | nil => rfl
    | cons first rest =>
      cases rest with
      | nil => rfl
      | cons second rest =>
        cases rest with
        | cons third rest => rfl
        | nil =>
          apply caught
          intro payloadBytes
          apply caught
          intro expectedSig
          dsimp only
          split
          · rfl
          · apply caught
            intro payload
            apply caught
            intro exp
            apply caught
            intro expired
            cases expired <;> rfl

theorem checkExpiry_eq_some_iff :
    checkExpiry now payload = some payload ↔ NotExpired payload now := by
  simp only [checkExpiry, Option.bind_eq_bind, Option.bind_eq_some_iff, NotExpired]
  constructor
  · rintro ⟨exp, get, expired, less, fresh⟩
    cases expired with
    | true => cases fresh
    | false => exact ⟨exp, get, less⟩
  · rintro ⟨exp, get, less⟩
    exact ⟨exp, get, false, less, rfl⟩

theorem verifyToken_eq_some_iff :
    verifyToken rt now token = some payload ↔
      rt.WS_TOKEN_SECRET ≠ [] ∧ Signed rt token payload ∧ NotExpired payload now := by
  rw [verifyToken]
  by_cases secret : rt.WS_TOKEN_SECRET = []
  · rw [if_pos (by simp [secret])]
    exact iff_of_false (by simp) fun h => h.1 secret
  · rw [if_neg (by simp [secret])]
    constructor
    · intro accepted
      split at accepted
      · rename_i first second parts
        simp only [Option.bind_eq_bind, Option.bind_eq_some_iff] at accepted
        obtain ⟨payloadBytes, hfirst, sig, hsecond, accepted⟩ := accepted
        split_ifs at accepted with forged
        obtain ⟨found, loaded, fresh⟩ := Option.bind_eq_some_iff.mp accepted
        obtain rfl := checkExpiry_eq_some fresh
        refine ⟨secret, ?_, checkExpiry_eq_some_iff.mp fresh⟩
        exact ⟨first, second, payloadBytes, sig, parts, hfirst, hsecond,
          (not_not.mp forged).symm, loaded⟩
      · cases accepted
    · rintro ⟨_, ⟨first, second, payloadBytes, sig, parts, hfirst, hsecond, signature, loaded⟩,
        fresh⟩
      rw [parts]
      simp only [hfirst, hsecond, signature, loaded, Option.bind_eq_bind, Option.bind_some,
        ne_eq, not_true_eq_false, if_false]
      exact checkExpiry_eq_some_iff.mpr fresh

/-- An issued token is worth its payload until it expires. -/
theorem verifyToken_of_exp {exp : Int} (secret : rt.WS_TOKEN_SECRET ≠ [])
    (time : payload.item "exp".toList = some (.number exp))
    (loads : rt.loadsBytes (Js.bufferFromUtf8 (rt.dumps payload)) = some payload) :
    verifyToken rt now (signToken rt payload) = if now ≤ exp then some payload else none := by
  have get : payload.get "exp".toList (.number 0) = some (.number exp) := by
    cases payload with
    | object fields =>
        have found : fields.lookup "exp".toList = some (.number exp) := time
        rw [Json.get, found, Option.getD_some]
    | _ => cases time
  have less : (Json.number exp).lessThan now = some (decide ((exp : ℚ) < now)) := rfl
  rw [verifyToken_signToken, if_neg (by simp [secret]), loads, Option.bind_some, checkExpiry, get,
    Option.bind_eq_bind, Option.bind_some, less, Option.bind_eq_bind, Option.bind_some]
  by_cases fresh : now ≤ exp
  · rw [if_pos fresh, decide_eq_false (not_lt.mpr fresh)]
    rfl
  · rw [if_neg fresh, decide_eq_true (not_le.mp fresh)]
    rfl

/-- Tokens come back until they expire, nothing else is accepted than a signed payload that
has not expired, and no text makes the function raise. -/
theorem token_checks (secret : rt.WS_TOKEN_SECRET ≠ []) :
    (∀ (p : Json) (exp : Int) (t : ℚ), p.item "exp".toList = some (.number exp) →
      rt.loadsBytes (Js.bufferFromUtf8 (rt.dumps p)) = some p →
        verifyTokenOrRaise rt t (signToken rt p) = .ok (if t ≤ exp then some p else none)) ∧
    (∀ (token : Text) (t : ℚ) (payload : Json),
      verifyTokenOrRaise rt t token = .ok (some payload) →
        Signed rt token payload ∧ NotExpired payload t) ∧
    ∀ (token : Text) (t : ℚ), ∃ result, verifyTokenOrRaise rt t token = .ok result := by
  refine ⟨?_, ?_, ?_⟩
  · intro p exp t time loads
    rw [verifyTokenOrRaise_eq, verifyToken_of_exp secret time loads]
  · intro token t payload accepted
    rw [verifyTokenOrRaise_eq] at accepted
    exact (verifyToken_eq_some_iff.mp (Except.ok.inj accepted)).2
  · intro token t
    exact ⟨_, verifyTokenOrRaise_eq rt t token⟩

/-- The payload that `sampleRuntime` has the signature of. -/
def samplePayload : Json :=
  tokenPayload "9hwhewpekestppvkpyjrqkzrxsdbncpbpuycbudxpphyshwpaca".toList 1711584000 1711587600

/-- Its token, a second before it expires and a second after. -/
theorem token_checks_example :
    verifyTokenOrRaise sampleRuntime 1711587599 (signToken sampleRuntime samplePayload) =
        .ok (some samplePayload) ∧
      verifyTokenOrRaise sampleRuntime 1711587601 (signToken sampleRuntime samplePayload) =
        .ok none := by
  have secret : sampleRuntime.WS_TOKEN_SECRET ≠ [] := by decide
  have issued := (token_checks secret).1 samplePayload 1711587600
  have loads := sampleRuntime_lawful.loads_dumps
    "9hwhewpekestppvkpyjrqkzrxsdbncpbpuycbudxpphyshwpaca".toList 1711584000 1711587600
  constructor
  · rw [issued 1711587599 rfl loads, if_pos (by norm_num)]
  · rw [issued 1711587601 rfl loads, if_neg (by norm_num)]

end DuckPools.Backend
