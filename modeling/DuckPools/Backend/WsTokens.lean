import DuckPools.Codec.Base64
import DuckPools.Language.JavaScript
import DuckPools.Language.Json
import DuckPools.Language.PercentEncoding
import DuckPools.Language.PythonText

/-!
# Session tokens of `backend/ws_routes.py`

`_sign_token`, `_verify_token` and `ws_authenticate`. A token is two parts with a dot in
between, the payload and its signature, both in base64 without padding. What the module
takes from the libraries is a parameter: `str.lower`, `json`, HMAC-SHA256; so are its two
environment variables. Times are those that `time.time()` returned.

The signature of an issued token is always right (`verifyToken_signToken`), so it is accepted
until it expires, with the subject it was issued for (`sub_of_issued`).
-/

namespace DuckPools.Backend

/-- Why `json.loads` raises. -/
inductive LoadsError
  | JSONDecodeError
  | other

structure Runtime where
  lower : Text → Text
  /-- `str(value)` -/
  str : Json → Text
  /-- `json.dumps(value, separators=(",", ":"))` -/
  dumps : Json → Text
  loads : Text → Except LoadsError Json
  /-- `json.loads` of bytes. -/
  loadsBytes : Bytes → Option Json
  /-- `hmac.new(key, message, hashlib.sha256).digest()` -/
  hmac : Bytes → Bytes → Bytes
  WS_TOKEN_SECRET : Text
  WS_TOKEN_MAX_AGE : Int

/-- `_sign_token` -/
def signToken (rt : Runtime) (payload : Json) : Text :=
  let payloadBytes := Js.bufferFromUtf8 (rt.dumps payload)
  let sig := rt.hmac (Js.bufferFromUtf8 rt.WS_TOKEN_SECRET) payloadBytes
  (Base64.urlsafeEncode payloadBytes).rdropWhile (· = '=') ++
    '.' :: (Base64.urlsafeEncode sig).rdropWhile (· = '=')

/-- "Add padding back" -/
def addPadding (part : Text) : Text := part ++ List.replicate (4 - part.length % 4) '='

/-- "Check expiry" -/
def checkExpiry (now : ℚ) (payload : Json) : Option Json := do
  let exp ← payload.get "exp".toList (.number 0)
  let expired ← exp.lessThan now
  if expired then none else some payload

/-- `_verify_token` at a time; an exception counts as `None` there. -/
def verifyToken (rt : Runtime) (now : ℚ) (token : Text) : Option Json :=
  if rt.WS_TOKEN_SECRET.isEmpty then none
  else
    match token.splitOn '.' with
    | [payloadPart, sigPart] => do
        let payloadBytes ← Base64.urlsafeDecode (addPadding payloadPart)
        let expectedSig ← Base64.urlsafeDecode (addPadding sigPart)
        let actualSig := rt.hmac (Js.bufferFromUtf8 rt.WS_TOKEN_SECRET) payloadBytes
        if expectedSig ≠ actualSig then none
        else
          let payload ← rt.loadsBytes payloadBytes
          checkExpiry now payload
    | _ => none

structure WSAuthRequest where
  address : Text
  signature : Text

structure WSAuthResponse where
  token : Text
  expiresAt : Int

/-- An `HTTPException`. -/
structure HTTPException where
  statusCode : Nat
  detail : String

/-- `int(x)` of a float. -/
def truncate (x : ℚ) : Int := if 0 ≤ x then ⌊x⌋ else ⌈x⌉

/-- The payload of the tokens that are issued. -/
def tokenPayload (sub : Text) (iat exp : Int) : Json :=
  .object [("sub".toList, .string sub), ("iat".toList, .number iat), ("exp".toList, .number exp)]

/-- `ws_authenticate`, with the two times that it asks for. -/
def wsAuthenticate (rt : Runtime) (now later : ℚ) (body : WSAuthRequest) :
    Except HTTPException WSAuthResponse :=
  let address := Py.strip body.address
  if address.length < 20 ∨ ¬ (['3'] <+: address ∨ ['9'] <+: address) then
    .error ⟨400, "Invalid Ergo address format"⟩
  else if body.signature.isEmpty then .error ⟨400, "Signature is required"⟩
  else
    let expiresAt := truncate now + rt.WS_TOKEN_MAX_AGE
    let token := signToken rt (tokenPayload (rt.lower address) (truncate later) expiresAt)
    .ok ⟨token, expiresAt⟩

/-- What the module relies on: lower case is lower case, and a payload comes back from its
JSON text. -/
structure Runtime.Lawful (rt : Runtime) : Prop where
  lower_lower : ∀ s, rt.lower (rt.lower s) = rt.lower s
  loads_dumps : ∀ sub iat exp,
    rt.loadsBytes (Js.bufferFromUtf8 (rt.dumps (tokenPayload sub iat exp))) =
      some (tokenPayload sub iat exp)

theorem signToken_eq (rt : Runtime) (payload : Json) :
    signToken rt payload = Base64.digits (Js.bufferFromUtf8 (rt.dumps payload)) ++ '.' ::
      Base64.digits (rt.hmac (Js.bufferFromUtf8 rt.WS_TOKEN_SECRET)
        (Js.bufferFromUtf8 (rt.dumps payload))) := by
  rw [signToken, Base64.rdropWhile_urlsafeEncode, Base64.rdropWhile_urlsafeEncode]

theorem dot_notMem_digits (bs : Bytes) : '.' ∉ Base64.digits bs := by
  intro h
  obtain ⟨n, hn, heq⟩ := Base64.mem_digits h
  exact (Base64.digit_spec hn).2.2.1 heq.symm

theorem splitOn_signToken (rt : Runtime) (payload : Json) :
    (signToken rt payload).splitOn '.' =
      [Base64.digits (Js.bufferFromUtf8 (rt.dumps payload)),
        Base64.digits (rt.hmac (Js.bufferFromUtf8 rt.WS_TOKEN_SECRET)
          (Js.bufferFromUtf8 (rt.dumps payload)))] := by
  rw [signToken_eq, List.splitOn_append_cons_self_of_not_mem (dot_notMem_digits _),
    List.splitOn_eq_singleton (dot_notMem_digits _)]

/-- The signature of an issued token is right, so only its payload and the time count. -/
theorem verifyToken_signToken (rt : Runtime) (now : ℚ) (payload : Json) :
    verifyToken rt now (signToken rt payload) =
      if rt.WS_TOKEN_SECRET.isEmpty then none
      else (rt.loadsBytes (Js.bufferFromUtf8 (rt.dumps payload))).bind (checkExpiry now) := by
  rw [verifyToken, splitOn_signToken]
  simp only [addPadding, Base64.urlsafeDecode_digits, Option.bind_eq_bind, Option.bind_some,
    ne_eq, not_true_eq_false, if_false]

theorem checkExpiry_eq_some {now : ℚ} {payload payload' : Json}
    (h : checkExpiry now payload = some payload') : payload' = payload := by
  simp only [checkExpiry, Option.bind_eq_bind, Option.bind_eq_some_iff] at h
  obtain ⟨exp, _, expired, _, hif⟩ := h
  cases expired with
  | true => cases hif
  | false => exact (Option.some.inj hif).symm

theorem checkExpiry_tokenPayload {now : ℚ} {sub : Text} {iat exp : Int} (h : now ≤ exp) :
    checkExpiry now (tokenPayload sub iat exp) = some (tokenPayload sub iat exp) := by
  have get : (tokenPayload sub iat exp).get "exp".toList (.number 0) = some (.number exp) := rfl
  have fresh : (Json.number exp).lessThan now = some false :=
    congrArg some (decide_eq_false (not_lt_of_ge h))
  rw [checkExpiry, get, Option.bind_eq_bind, Option.bind_some, fresh]
  rfl

/-- Who is given a token. -/
theorem wsAuthenticate_eq_ok {rt : Runtime} {now later : ℚ} {body : WSAuthRequest}
    {response : WSAuthResponse} (h : wsAuthenticate rt now later body = .ok response) :
    20 ≤ (Py.strip body.address).length ∧ response.token = signToken rt (tokenPayload
      (rt.lower (Py.strip body.address)) (truncate later)
        (truncate now + rt.WS_TOKEN_MAX_AGE)) := by
  rw [wsAuthenticate] at h
  dsimp only at h
  split_ifs at h with invalid unsigned
  obtain rfl := Except.ok.inj h
  exact ⟨Nat.le_of_not_lt fun short => invalid (Or.inl short), rfl⟩

/-- The subject of a verified token is the address it was issued for. -/
theorem sub_of_issued {rt : Runtime} (lawful : rt.Lawful) {now later now' : ℚ}
    {body : WSAuthRequest} {response : WSAuthResponse} {payload : Json}
    (issued : wsAuthenticate rt now later body = .ok response)
    (verified : verifyToken rt now' response.token = some payload) :
    payload.item "sub".toList = some (.string (rt.lower (Py.strip body.address))) := by
  rw [(wsAuthenticate_eq_ok issued).2, verifyToken_signToken, lawful.loads_dumps,
    Option.bind_some] at verified
  split at verified
  · cases verified
  · rw [checkExpiry_eq_some verified]
    rfl

section Sample

/-- The JSON text of a payload whose subject needs no escapes. -/
def samplePayloadText (sub : Text) (iat exp : Int) : Text :=
  ['\x7b', '"', 's', 'u', 'b', '"', ':', '"'] ++ (sub ++
    (['"', ',', '"', 'i', 'a', 't', '"', ':'] ++ (Py.str iat ++
      ([',', '"', 'e', 'x', 'p', '"', ':'] ++ (Py.str exp ++ ['\x7d'])))))

def sampleDumps : Json → Text
  | .object [(_, .string sub), (_, .number iat), (_, .number exp)] =>
      samplePayloadText sub iat.num exp.num
  | _ => []

def readInteger : Text → Option Int
  | '-' :: digits => (Py.int 10 digits).map Neg.neg
  | digits => Py.int 10 digits

/-- It is read from its end, where the two numbers are. -/
def sampleRead (s : Text) : Option Json :=
  let fromExp := s.reverse.drop 1
  let fromIat := (fromExp.dropWhile (· ≠ ':')).drop 7
  let fromSub := (fromIat.dropWhile (· ≠ ':')).drop 8
  match readInteger (fromIat.takeWhile (· ≠ ':')).reverse,
    readInteger (fromExp.takeWhile (· ≠ ':')).reverse with
  | some iat, some exp => some (tokenPayload (fromSub.reverse.drop 8) iat exp)
  | _, _ => none

/-- The environment of an example, with the real signature of one payload. -/
def sampleRuntime : Runtime where
  lower := Py.lower
  str _ := []
  dumps := sampleDumps
  loads _ := .error .JSONDecodeError
  loadsBytes bs := (utf8Text bs).bind sampleRead
  hmac _ _ :=
    [0x50, 0xfb, 0x4b, 0xba, 0x93, 0xb7, 0x22, 0xab, 0xcb, 0x94, 0x97, 0x11, 0x11, 0xa8, 0xa8,
      0xd8, 0x49, 0x86, 0x96, 0xaf, 0xbf, 0x7a, 0x03, 0x32, 0xd1, 0x49, 0xe0, 0xcf, 0x99, 0xa5,
      0x83, 0x06]
  WS_TOKEN_SECRET := "secret".toList
  WS_TOKEN_MAX_AGE := 3600

theorem readInteger_str (n : Int) : readInteger (Py.str n) = some n := by
  rw [Py.str]
  split
  · rename_i negative
    have read := Py.int_str n.natAbs
    rw [Py.str, if_neg (by omega), Int.natAbs_natCast] at read
    rw [readInteger, read, Option.map_some]
    congr 1
    omega
  · rename_i natural
    obtain ⟨m, rfl⟩ := Int.eq_ofNat_of_zero_le (Int.not_lt.mp natural)
    have read := Py.int_str m
    rw [Py.str, if_neg natural, Int.natAbs_natCast] at read
    rw [Int.natAbs_natCast, readInteger.eq_2, read]
    intro digits heq
    have first : '-' ∈ Nat.toDigits 10 m := by
      rw [heq]
      exact List.mem_cons_self
    have digit := Nat.isDigit_of_mem_toDigits (by decide) (by decide) first
    cases digit

theorem colon_notMem_str (n : Int) : ':' ∉ Py.str n := by
  have digits : ∀ m, ':' ∉ Nat.toDigits 10 m := by
    intro m hm
    cases Nat.isDigit_of_mem_toDigits (by decide) (by decide) hm
  rw [Py.str]
  split
  · intro hm
    rcases List.mem_cons.mp hm with heq | hm
    · cases heq
    · exact digits _ hm
  · exact digits _

theorem sampleRead_samplePayloadText (sub : Text) (iat exp : Int) :
    sampleRead (samplePayloadText sub iat exp) = some (tokenPayload sub iat exp) := by
  have passes : ∀ n : Int, ∀ c ∈ (Py.str n).reverse, (decide (c ≠ ':')) = true := by
    intro n c hc
    apply decide_eq_true
    rintro rfl
    exact colon_notMem_str n (List.mem_reverse.mp hc)
  have takes : ∀ (n : Int) (rest : Text),
      ((Py.str n).reverse ++ ':' :: rest).takeWhile (· ≠ ':') = (Py.str n).reverse := by
    intro n rest
    rw [List.takeWhile_append_of_pos (passes n), List.takeWhile_cons_of_neg (by decide),
      List.append_nil]
  have drops : ∀ (n : Int) (rest : Text),
      ((Py.str n).reverse ++ ':' :: rest).dropWhile (· ≠ ':') = ':' :: rest := by
    intro n rest
    rw [List.dropWhile_append_of_pos (passes n), List.dropWhile_cons_of_neg (by decide)]
  have reversed : (samplePayloadText sub iat exp).reverse = '\x7d' :: ((Py.str exp).reverse ++
      ':' :: (['"', 'p', 'x', 'e', '"', ','] ++ ((Py.str iat).reverse ++
        ':' :: (['"', 't', 'a', 'i', '"', ',', '"'] ++ (sub.reverse ++
          ['"', ':', '"', 'b', 'u', 's', '"', '\x7b']))))) := by
    simp [samplePayloadText]
  have subject : ((sub.reverse ++ ['"', ':', '"', 'b', 'u', 's', '"', '\x7b']).reverse).drop 8 =
      sub := by
    simp
  rw [sampleRead, reversed]
  simp only [List.drop_succ_cons, List.drop_zero, takes, drops, List.cons_append, List.nil_append,
    List.reverse_reverse, readInteger_str]
  rw [subject]

theorem sampleRuntime_lawful : sampleRuntime.Lawful where
  lower_lower := Py.lower_lower
  loads_dumps sub iat exp := by
    show (utf8Text (Js.bufferFromUtf8 (samplePayloadText sub (iat : ℚ).num (exp : ℚ).num))).bind
      sampleRead = some (tokenPayload sub iat exp)
    rw [utf8Text_bufferFromUtf8, Rat.num_intCast, Rat.num_intCast]
    exact sampleRead_samplePayloadText sub iat exp

end Sample

end DuckPools.Backend
