import DuckPools.Language.ExpiringTable
import DuckPools.Language.Json
import DuckPools.Wallet.Session

/-!
# The stored text of the wallet sessions

`wallet/useWalletSessionPersistence.ts` over everything that the key of `localStorage` may hold.
The text is what `JSON.parse` makes of it. Every function catches the exceptions of a text that
is no JSON or no list, and none of them writes then, so such a text stays and no session is
saved. On a list the functions are those of a table whose entries expire; without the numbers
that JSON cannot hold they are those of `Storage` (`shown_restoreSession`).

`null` and `undefined` are both `none`. A call takes no time.
-/

namespace DuckPools.Wallet

open ExpiringTable

/-- A session as it is stored. -/
structure StoredSession extends PersistedWalletSession where
  isConnected : Bool
  timestamp : Int

namespace StoredSession

/-- `JSON.parse(JSON.stringify(x))`: a number that is not finite becomes `null`. -/
def jsonNumber (x : Option Js.Number) : Option Js.Number := x.filter (·.isFinite)

def json (session : StoredSession) : StoredSession :=
  { session with
    balance := jsonNumber session.balance
    tokens := session.tokens.map fun tokens =>
      tokens.map fun asset => { asset with decimals := jsonNumber asset.decimals } }

/-- The numbers of the session are finite. -/
structure IsJson (session : StoredSession) : Prop where
  balance : ∀ x ∈ session.balance, x.isFinite = true
  decimals : ∀ tokens ∈ session.tokens, ∀ asset ∈ tokens, ∀ x ∈ asset.decimals, x.isFinite = true

end StoredSession

namespace StoredSession

theorem jsonNumber_eq_self_iff (x : Option Js.Number) :
    jsonNumber x = x ↔ ∀ y ∈ x, y.isFinite = true := by
  cases x with
  | none => simp [jsonNumber]
  | some y => simp [jsonNumber, Option.filter_some]

theorem isFinite_of_mem_jsonNumber {x : Option Js.Number} {y : Js.Number}
    (h : y ∈ jsonNumber x) : y.isFinite = true := (Option.filter_eq_some_iff.mp h).2

theorem isJson_json (session : StoredSession) : session.json.IsJson := by
  constructor
  · intro x hx
    exact isFinite_of_mem_jsonNumber hx
  · intro tokens htokens asset hasset x hx
    obtain ⟨written, -, rfl⟩ := Option.map_eq_some_iff.mp htokens
    obtain ⟨original, -, rfl⟩ := List.mem_map.mp hasset
    exact isFinite_of_mem_jsonNumber hx

theorem json_eq_self {session : StoredSession} (h : session.IsJson) : session.json = session := by
  have balance := (jsonNumber_eq_self_iff session.balance).mpr h.balance
  have tokens : (session.tokens.map fun tokens => tokens.map fun asset =>
      { asset with decimals := jsonNumber asset.decimals }) = session.tokens := by
    cases stored : session.tokens with
    | none => rfl
    | some tokens =>
        have same : ∀ asset ∈ tokens,
            { asset with decimals := jsonNumber asset.decimals } = id asset := by
          intro asset mem
          have decimals := (jsonNumber_eq_self_iff asset.decimals).mpr
            (h.decimals tokens stored asset mem)
          rw [decimals]
          rfl
        rw [Option.map_some, List.map_congr_left same, List.map_id]
  rw [json, balance, tokens]

end StoredSession

/-- What the key holds; no item and the empty text are both `absent`. -/
inductive Content
  | absent
  | sessions (list : List StoredSession)
  /-- `JSON.parse` throws. -/
  | corrupt (text : Text)
  /-- JSON without the methods of a list. -/
  | noList (value : Json) (h : ∀ items, value ≠ .array items)

namespace Content

variable (now : Int)

/-- `safeLocalStorageSet(..., JSON.stringify(list))` -/
def write (list : List StoredSession) : Content := sessions (list.map StoredSession.json)

def isSessionExpired (session : StoredSession) : Bool :=
  Storage.isSessionExpired now session.toPersistedWalletSession

def cleanupExpiredSessions : Content → Content
  | sessions list => write (list.filter fun session => !isSessionExpired now session)
  | content => content

def getSessionForWallet (content : Content) (walletKey : Text) : Option StoredSession × Content :=
  match content with
  | sessions list =>
      match list.find? (·.walletKey = walletKey) with
      | none => (none, content)
      | some session =>
          if isSessionExpired now session then (none, cleanupExpiredSessions now content)
          else (some session, content)
  | _ => (none, content)

def saveSessionForWallet (session : StoredSession) : Content → Content
  | absent => write [session]
  | sessions list => write (list.filter (·.walletKey ≠ session.walletKey) ++ [session])
  | content => content

def removeSessionForWallet (walletKey : Text) : Content → Content
  | sessions list => write (list.filter (·.walletKey ≠ walletKey))
  | content => content

/-- The session that `saveSession` builds. -/
def newSession (walletKey : Text) (state : WalletState) (tokens : Option (List Asset)) :
    StoredSession :=
  { isConnected := state.isConnected
    walletAddress := state.walletAddress
    balance := state.balance
    network := state.network
    tokens
    walletKey
    timestamp := now
    expiresAt := now + SESSION_DURATION_MS }

def saveSession (content : Content) (walletKey : Text) (state : WalletState)
    (tokens : Option (List Asset)) : Content :=
  if !state.isConnected then content
  else saveSessionForWallet (newSession now walletKey state tokens) content

def restoreSession (content : Content) (walletKey : Text) : Option StoredSession × Content :=
  match getSessionForWallet now content walletKey with
  | (none, content) => (none, content)
  | (some session, content) =>
      if isSessionExpired now session then (none, removeSessionForWallet walletKey content)
      else (some session, content)

def clearSession (content : Content) (walletKey : Text) : Content :=
  removeSessionForWallet walletKey content

def hasSession (content : Content) (walletKey : Text) : Bool × Content :=
  match getSessionForWallet now content walletKey with
  | (none, content) => (false, content)
  | (some session, content) => (!isSessionExpired now session, content)

end Content

section Runs

/-- What the page does with the store. -/
inductive SessionOp
  | mount
  | saveSession (walletKey : Text) (state : WalletState) (tokens : Option (List Asset))
  | restoreSession (walletKey : Text)
  | clearSession (walletKey : Text)
  | hasSession (walletKey : Text)

namespace SessionOp

def walletKey : SessionOp → Option Text
  | mount => none
  | saveSession walletKey _ _ => some walletKey
  | restoreSession walletKey | clearSession walletKey | hasSession walletKey => some walletKey

def run (now : Int) (content : Content) : SessionOp → Content
  | mount => content.cleanupExpiredSessions now
  | saveSession walletKey state tokens => content.saveSession now walletKey state tokens
  | restoreSession walletKey => (content.restoreSession now walletKey).2
  | clearSession walletKey => content.clearSession walletKey
  | hasSession walletKey => (content.hasSession now walletKey).2

/-- Calls that are allowed, one after another, while time passes. -/
inductive Run (allowed : SessionOp → Prop) : Int → Content → Int → Content → Prop
  | refl (now : Int) (content : Content) : Run allowed now content now content
  | wait {start now later : Int} {before content : Content}
      (run : Run allowed start before now content) (le : now ≤ later) :
      Run allowed start before later content
  | step {start now : Int} {before content : Content} (op : SessionOp)
      (run : Run allowed start before now content) (ok : allowed op) :
      Run allowed start before now (op.run now content)

end SessionOp

/-- What the store promises to the next calls. -/
structure Sound (now : Int) (content : Content) : Prop where
  /-- Until 24 hours have passed a saved session is restored as it was saved. -/
  restores : ∀ walletKey state tokens, state.isConnected = true →
    (Content.newSession now walletKey state tokens).IsJson → ∀ later after,
    SessionOp.Run (·.walletKey ≠ some walletKey) now
      (content.saveSession now walletKey state tokens) later after →
    (after.restoreSession later walletKey).1 =
      if later ≤ now + SESSION_DURATION_MS then
        some (Content.newSession now walletKey state tokens)
      else none
  clears : ∀ walletKey later after,
    SessionOp.Run (·.walletKey ≠ some walletKey) now (content.clearSession walletKey) later after →
    (after.restoreSession later walletKey).1 = none
  /-- Calls for one wallet are not seen by the others. -/
  isolated : ∀ (op : SessionOp) walletKey, op.walletKey ≠ some walletKey →
    ∀ later, now ≤ later →
    ((op.run now content).restoreSession later walletKey).1 =
      (content.restoreSession later walletKey).1
  unique : ∀ list, content = .sessions list → (list.map (·.walletKey)).Nodup

/-- Whatever the page does from here. -/
def Lawful (start : Int) (content : Content) : Prop :=
  ∀ now after, SessionOp.Run (fun _ => True) start content now after → Sound now after

/-- No item, or a list of sessions without a second one for a wallet. A number that is too
large for JSON to write it may stand in an expired session only. -/
def Content.Good (start : Int) : Content → Prop
  | absent => True
  | sessions list => (list.map (·.walletKey)).Nodup ∧
      ∀ session ∈ list, start ≤ session.expiresAt → session.IsJson
  | _ => False

end Runs

section Table

variable {now : Int} {k : Text} {list : List StoredSession} {content : Content}

abbrev StoredSession.key (session : StoredSession) : Text := session.walletKey

abbrev StoredSession.expiry (session : StoredSession) : Int := session.expiresAt

/-- What a reader sees of a list. -/
abbrev view (now : Int) (k : Text) (list : List StoredSession) : Option StoredSession :=
  lookup StoredSession.key StoredSession.expiry now k list

theorem alive_eq (now : Int) :
    alive StoredSession.expiry now =
      fun session => !Content.isSessionExpired now session := by
  funext session
  rw [alive, Content.isSessionExpired, Storage.isSessionExpired, ← decide_not]
  exact decide_eq_decide.mpr not_lt.symm

namespace Content

/-- The table of a content; without one every function gives up. -/
def table : Content → Option (List StoredSession)
  | absent => some []
  | sessions list => some list
  | _ => none

/-- Only an absent item and a list have a table. -/
theorem table_cases (h : content.table = some list) :
    content = absent ∧ list = [] ∨ content = sessions list := by
  cases content with
  | absent =>
      cases h
      exact .inl ⟨rfl, rfl⟩
  | sessions =>
      cases h
      exact .inr rfl
  | corrupt => cases h
  | noList => cases h

theorem good_iff (start : Int) (content : Content) :
    content.Good start ↔ ∃ list, content.table = some list ∧
      (list.map (·.walletKey)).Nodup ∧
      ∀ session ∈ list, start ≤ session.expiresAt → session.IsJson := by
  cases content with
  | absent =>
      refine iff_of_true trivial ⟨[], rfl, List.nodup_nil, ?_⟩
      intro session mem
      cases mem
  | sessions list =>
      constructor
      · intro good
        exact ⟨list, rfl, good⟩
      · rintro ⟨_, ⟨⟩, good⟩
        exact good
  | corrupt =>
      apply iff_of_false id
      rintro ⟨_, ⟨⟩, _⟩
  | noList =>
      apply iff_of_false id
      rintro ⟨_, ⟨⟩, _⟩

/-- A session that is given out is the visible one and changes nothing; otherwise expired
sessions may be taken out. -/
theorem getSessionForWallet_cases (now : Int) (k : Text) (list : List StoredSession) :
    (∃ session, view now k list = some session ∧ isSessionExpired now session = false ∧
        getSessionForWallet now (sessions list) k = (some session, sessions list)) ∨
      view now k list = none ∧ ∃ after, getSessionForWallet now (sessions list) k = (none, after) ∧
        (after = sessions list ∨ after = cleanupExpiredSessions now (sessions list)) := by
  rw [getSessionForWallet, view, lookup, alive_eq]
  cases list.find? (·.walletKey = k) with
  | none => exact .inr ⟨rfl, _, rfl, .inl rfl⟩
  | some session =>
      rw [Option.filter_some]
      cases expired : isSessionExpired now session with
      | false => exact .inl ⟨session, rfl, expired, by simp [expired]⟩
      | true => exact .inr ⟨rfl, _, by simp [expired], .inr rfl⟩

theorem restoreSession_of_table (h : content.table = some list) (now : Int) (k : Text) :
    (content.restoreSession now k).1 = view now k list := by
  obtain ⟨rfl, rfl⟩ | rfl := table_cases h
  · rfl
  · rw [restoreSession]
    obtain ⟨session, seen, alive, got⟩ | ⟨hidden, after, got, -⟩ :=
      getSessionForWallet_cases now k list
    · rw [got, seen]
      simp [alive]
    · rw [got, hidden]

theorem restoreSession_of_no_table (h : content.table = none) (now : Int) (k : Text) :
    (content.restoreSession now k).1 = none := by
  cases content with
  | absent => cases h
  | sessions => cases h
  | corrupt => rfl
  | noList => rfl

end Content

theorem table_saveSession (h : content.table = some list) {state : WalletState}
    (connected : state.isConnected = true) (k : Text) (tokens : Option (List Asset)) :
    (content.saveSession now k state tokens).table =
      some ((put StoredSession.key (Content.newSession now k state tokens)
        list).map StoredSession.json) := by
  rw [Content.saveSession, connected]
  obtain ⟨rfl, rfl⟩ | rfl := Content.table_cases h
  · rfl
  · rfl

theorem table_clearSession (h : content.table = some list) (k : Text) :
    (content.clearSession k).table =
      some ((remove StoredSession.key k list).map StoredSession.json) := by
  obtain ⟨rfl, rfl⟩ | rfl := Content.table_cases h
  · rfl
  · rfl

/-- Expired sessions are taken out of a list; without an item there is nothing to do. -/
theorem table_cleanupExpiredSessions (h : content.table = some list) (now : Int) :
    ∃ after, (content.cleanupExpiredSessions now).table = some after ∧
      (after = list ∨ after = (prune StoredSession.expiry now list).map StoredSession.json) := by
  obtain ⟨rfl, rfl⟩ | rfl := Content.table_cases h
  · exact ⟨[], rfl, .inl rfl⟩
  · refine ⟨_, rfl, .inr ?_⟩
    rw [prune, alive_eq]

theorem table_getSessionForWallet (h : content.table = some list) (now : Int) (k : Text) :
    ∃ after, (content.getSessionForWallet now k).2.table = some after ∧
      (after = list ∨ after = (prune StoredSession.expiry now list).map StoredSession.json) := by
  obtain ⟨rfl, rfl⟩ | rfl := Content.table_cases h
  · exact ⟨[], rfl, .inl rfl⟩
  · obtain ⟨session, -, -, got⟩ | ⟨-, after, got, rfl | rfl⟩ :=
      Content.getSessionForWallet_cases now k list
    · rw [got]
      exact ⟨list, rfl, .inl rfl⟩
    · rw [got]
      exact ⟨list, rfl, .inl rfl⟩
    · rw [got]
      exact table_cleanupExpiredSessions h now

/-- A session that was given out has not expired, so it is not removed after all. -/
theorem restoreSession_snd (content : Content) (now : Int) (k : Text) :
    (content.restoreSession now k).2 = (content.getSessionForWallet now k).2 := by
  cases content with
  | sessions list =>
      rw [Content.restoreSession]
      obtain ⟨session, -, alive, got⟩ | ⟨-, after, got, -⟩ :=
        Content.getSessionForWallet_cases now k list
      · rw [got]
        simp [alive]
      · rw [got]
  | _ => rfl

theorem hasSession_snd (content : Content) (now : Int) (k : Text) :
    (content.hasSession now k).2 = (content.getSessionForWallet now k).2 := by
  rw [Content.hasSession]
  split <;> next got => rw [got]

namespace SessionOp

/-- What a call does to the table: nothing, or one of three rewritings. -/
theorem table_run (h : content.table = some list) (op : SessionOp) :
    ∃ after, (op.run now content).table = some after ∧
      (after = list ∨
        after = (prune StoredSession.expiry now list).map StoredSession.json ∨
        (∃ k, op.walletKey = some k ∧
          after = (remove StoredSession.key k list).map StoredSession.json) ∨
        ∃ session, op.walletKey = some session.walletKey ∧
          after = (put StoredSession.key session list).map StoredSession.json) := by
  have reads : ∀ {result : Content} {p q : List StoredSession → Prop},
      (∃ after, result.table = some after ∧ (after = list ∨
        after = (prune StoredSession.expiry now list).map StoredSession.json)) →
      ∃ after, result.table = some after ∧ (after = list ∨
        after = (prune StoredSession.expiry now list).map StoredSession.json ∨
          p after ∨ q after) := by
    rintro result p q ⟨after, stored, same | pruned⟩
    · exact ⟨after, stored, .inl same⟩
    · exact ⟨after, stored, .inr (.inl pruned)⟩
  cases op with
  | mount => exact reads (table_cleanupExpiredSessions h now)
  | saveSession k state tokens =>
      cases connected : state.isConnected with
      | false =>
          rw [run, Content.saveSession, connected]
          exact ⟨list, h, .inl rfl⟩
      | true =>
          exact ⟨_, table_saveSession h connected k tokens,
            .inr (.inr (.inr ⟨Content.newSession now k state tokens, rfl, rfl⟩))⟩
  | restoreSession k =>
      rw [run, restoreSession_snd]
      exact reads (table_getSessionForWallet h now k)
  | clearSession k => exact ⟨_, table_clearSession h k, .inr (.inr (.inl ⟨k, rfl, rfl⟩))⟩
  | hasSession k =>
      rw [run, hasSession_snd]
      exact reads (table_getSessionForWallet h now k)

end SessionOp

theorem view_map_json (list : List StoredSession) :
    view now k (list.map StoredSession.json) = (view now k list).map StoredSession.json :=
  lookup_map (fun _ => rfl) fun _ => rfl

/-- Nothing is lost where JSON can hold what is seen. -/
theorem map_json_view (json : ∀ session ∈ list, now ≤ session.expiresAt → session.IsJson) :
    (view now k list).map StoredSession.json = view now k list := by
  cases seen : view now k list with
  | none => rfl
  | some session =>
      obtain ⟨mem, living⟩ := mem_of_lookup seen
      rw [Option.map_some, StoredSession.json_eq_self (json session mem living)]

theorem Content.Good.mono {later : Int} (good : content.Good now) (le : now ≤ later) :
    content.Good later := by
  obtain ⟨list, table, distinct, json⟩ := (good_iff now content).mp good
  refine (good_iff later content).mpr ⟨list, table, distinct, ?_⟩
  intro session mem living
  exact json session mem (le.trans living)

theorem keys_map_json (list : List StoredSession) :
    (list.map StoredSession.json).map (·.walletKey) = list.map (·.walletKey) :=
  List.map_map

namespace SessionOp

theorem good_run (good : content.Good now) (op : SessionOp) : (op.run now content).Good now := by
  obtain ⟨list, table, distinct, json⟩ := (Content.good_iff now content).mp good
  obtain ⟨after, tableAfter, cases⟩ := @table_run now list content table op
  apply (Content.good_iff now _).mpr
  have written : ∀ kept : List StoredSession, (kept.map (·.walletKey)).Nodup →
      after = kept.map StoredSession.json →
      ∃ list, (op.run now content).table = some list ∧ (list.map (·.walletKey)).Nodup ∧
        ∀ session ∈ list, now ≤ session.expiresAt → session.IsJson := by
    rintro kept distinct rfl
    refine ⟨_, tableAfter, by rwa [keys_map_json], ?_⟩
    intro session mem _
    obtain ⟨original, -, rfl⟩ := List.mem_map.mp mem
    exact original.isJson_json
  obtain rfl | same | ⟨k, -, same⟩ | ⟨session, -, same⟩ := cases
  · exact ⟨_, tableAfter, distinct, json⟩
  · exact written _ (nodup_filter distinct _) same
  · exact written _ (nodup_filter distinct _) same
  · exact written _ (nodup_put distinct session) same

/-- A call for another wallet is not seen. -/
theorem restoreSession_run (good : content.Good now) (op : SessionOp)
    (other : op.walletKey ≠ some k) {later : Int} (le : now ≤ later) :
    ((op.run now content).restoreSession later k).1 = (content.restoreSession later k).1 := by
  obtain ⟨list, table, distinct, json⟩ := (Content.good_iff now content).mp good
  obtain ⟨after, tableAfter, cases⟩ := @table_run now list content table op
  have same : (view later k list).map StoredSession.json = view later k list := by
    apply map_json_view
    intro session mem living
    exact json session mem (le.trans living)
  rw [Content.restoreSession_of_table tableAfter, Content.restoreSession_of_table table]
  obtain rfl | rfl | ⟨k', key, rfl⟩ | ⟨session, key, rfl⟩ := cases
  · rfl
  · rw [view_map_json, view, lookup_prune distinct le, same]
  · have ne : k ≠ k' := by
      rintro rfl
      exact other key
    rw [view_map_json, view, lookup_remove_of_ne ne, same]
  · have ne : session.key ≠ k := by
      intro eq
      exact other (key.trans (congrArg some eq))
    rw [view_map_json, view, lookup_put_of_ne ne, same]

theorem Run.good {allowed : SessionOp → Prop} {start : Int} {before : Content}
    (run : Run allowed start before now content) (good : before.Good start) :
    content.Good now ∧ start ≤ now := by
  induction run with
  | refl => exact ⟨good, le_rfl⟩
  | wait run le ih => exact ⟨(ih good).1.mono le, (ih good).2.trans le⟩
  | step op run ok ih => exact ⟨good_run (ih good).1 op, (ih good).2⟩

/-- A reader of a wallet sees no calls for the others. -/
theorem Run.restoreSession_eq {start : Int} {before : Content}
    (run : Run (·.walletKey ≠ some k) start before now content) (good : before.Good start)
    {later : Int} (le : now ≤ later) :
    (content.restoreSession later k).1 = (before.restoreSession later k).1 := by
  induction run with
  | refl => rfl
  | wait run step ih => exact ih good (step.trans le)
  | step op run other ih =>
      rw [restoreSession_run (run.good good).1 op other le]
      exact ih good le

end SessionOp

theorem saveSession_of_no_table (h : content.table = none) (now : Int) (k : Text)
    (state : WalletState) (tokens : Option (List Asset)) :
    content.saveSession now k state tokens = content := by
  rw [Content.saveSession]
  split
  · rfl
  · cases content with
    | absent => cases h
    | sessions => cases h
    | corrupt => rfl
    | noList => rfl

/-- A saved session in the form that JSON gives it. -/
theorem restoreSession_saveSession (h : content.table = some list) {state : WalletState}
    (connected : state.isConnected = true) (tokens : Option (List Asset)) (later : Int) :
    ((content.saveSession now k state tokens).restoreSession later k).1 =
      if later ≤ now + SESSION_DURATION_MS then
        some (Content.newSession now k state tokens).json
      else none := by
  have put := @lookup_put_self StoredSession Text Int _ _ StoredSession.key StoredSession.expiry
    later (Content.newSession now k state tokens) list
  rw [Content.restoreSession_of_table (table_saveSession h connected k tokens), view_map_json]
  refine (congrArg _ put).trans ?_
  show (if later ≤ now + SESSION_DURATION_MS then _ else _ : Option StoredSession).map _ = _
  split <;> rfl

theorem restoreSession_clearSession (h : content.table = some list) (later : Int) :
    ((content.clearSession k).restoreSession later k).1 = none := by
  rw [Content.restoreSession_of_table (table_clearSession h k), view_map_json, view,
    lookup_remove_self]
  rfl

/-- The next calls find what they are promised. -/
theorem sound_of_good (good : content.Good now) : Sound now content := by
  obtain ⟨list, table, distinct, -⟩ := (Content.good_iff now content).mp good
  constructor
  · intro k state tokens connected json later after run
    have saved : (content.saveSession now k state tokens).Good now :=
      SessionOp.good_run good (.saveSession k state tokens)
    rw [run.restoreSession_eq saved le_rfl, restoreSession_saveSession table connected,
      StoredSession.json_eq_self json]
  · intro k later after run
    have cleared : (content.clearSession k).Good now := SessionOp.good_run good (.clearSession k)
    rw [run.restoreSession_eq cleared le_rfl, restoreSession_clearSession table]
  · intro op k other later le
    exact op.restoreSession_run good other le
  · rintro list rfl
    cases table
    exact distinct

/-- Without a table nothing is saved. -/
theorem exists_table_of_restored {state : WalletState} {tokens : Option (List Asset)}
    {session : StoredSession}
    (restored : ((content.saveSession now k state tokens).restoreSession now k).1 = some session) :
    ∃ list, content.table = some list := by
  apply Option.ne_none_iff_exists'.mp
  intro stored
  rw [saveSession_of_no_table stored, Content.restoreSession_of_no_table stored] at restored
  cases restored

/-- A save for another wallet writes all sessions once more. -/
theorem isJson_of_isolated (stored : content.table = some list)
    (distinct : (list.map (·.walletKey)).Nodup) {session : StoredSession} (mem : session ∈ list)
    (living : now ≤ session.expiresAt) {state : WalletState} (connected : state.isConnected = true)
    {k : Text} (other : k ≠ session.walletKey)
    (isolated : ((content.saveSession now k state none).restoreSession now session.walletKey).1 =
      (content.restoreSession now session.walletKey).1) : session.IsJson := by
  have seen : view now session.walletKey list = some session := lookup_of_mem distinct mem living
  have ne : (Content.newSession now k state none).key ≠ session.walletKey := other
  have unseen : view now session.walletKey
      (put StoredSession.key (Content.newSession now k state none) list) = some session :=
    (lookup_put_of_ne ne).trans seen
  rw [Content.restoreSession_of_table (table_saveSession stored connected k none), view_map_json,
    unseen, Content.restoreSession_of_table stored, seen] at isolated
  have written : session.json = session := Option.some.inj isolated
  rw [← written]
  exact session.isJson_json

/-- A save and a restore, and a save for another wallet, find out about the content. -/
theorem good_of_sound (sound : Sound now content) : content.Good now := by
  let state : WalletState := { isConnected := true }
  have fresh : ∀ k, (Content.newSession now k state none).IsJson := by
    intro k
    constructor
    · intro x hx
      cases hx
    · intro tokens htokens
      cases htokens
  have restored := sound.restores [] state none rfl (fresh []) now _ (.refl _ _)
  rw [if_pos (Int.le_add_of_nonneg_right (by decide))] at restored
  obtain ⟨list, stored⟩ := exists_table_of_restored restored
  have distinct : (list.map (·.walletKey)).Nodup := by
    obtain ⟨-, rfl⟩ | here := Content.table_cases stored
    · exact List.nodup_nil
    · exact sound.unique list here
  refine (Content.good_iff now content).mpr ⟨list, stored, distinct, ?_⟩
  intro session mem living
  have other : 'x' :: session.walletKey ≠ session.walletKey := List.cons_ne_self _ _
  apply isJson_of_isolated stored distinct mem living (@rfl _ state.isConnected) other
  exact sound.isolated (.saveSession ('x' :: session.walletKey) state none) session.walletKey
    (fun same => other (Option.some.inj same)) now le_rfl

theorem good_of_lawful {start : Int} (lawful : Lawful start content) : content.Good start :=
  good_of_sound (lawful start content (.refl start content))

/-- The store of `Storage`: a text that is no list is storage that is not available. -/
def Content.toStorage : Content → Storage
  | absent => { available := true, sessions := [] }
  | sessions list =>
      { available := true, sessions := list.map (·.toPersistedWalletSession) }
  | _ => { available := false, sessions := [] }

/-- Every session of the content survives JSON. -/
def Content.IsJson (content : Content) : Prop :=
  ∀ list, content = sessions list → ∀ session ∈ list, session.IsJson

namespace Content

theorem toStorage_write {kept : List StoredSession} (json : ∀ session ∈ kept, session.IsJson) :
    (write kept).toStorage =
      { available := true, sessions := kept.map (·.toPersistedWalletSession) } := by
  have same : ∀ session ∈ kept, session.json = id session := fun session mem =>
    StoredSession.json_eq_self (json session mem)
  rw [write, List.map_congr_left same, List.map_id]
  rfl

/-- Sessions that stay in the list stay in the store. -/
theorem toStorage_filter (json : ∀ session ∈ list, session.IsJson)
    (p : PersistedWalletSession → Bool) :
    (write (list.filter fun session => p session.toPersistedWalletSession)).toStorage =
      (sessions list).toStorage.set ((sessions list).toStorage.get.filter p) := by
  rw [toStorage_write fun session mem => json session (List.mem_filter.mp mem).1]
  exact congrArg (Storage.mk true) List.filter_map.symm

theorem toStorage_cleanupExpiredSessions (json : content.IsJson) :
    (content.cleanupExpiredSessions now).toStorage =
      content.toStorage.cleanupExpiredSessions now := by
  cases content with
  | sessions list =>
      exact toStorage_filter (json list rfl) fun session => !Storage.isSessionExpired now session
  | absent => rfl
  | corrupt => rfl
  | noList => rfl

theorem toStorage_removeSessionForWallet (json : content.IsJson) (k : Text) :
    (content.removeSessionForWallet k).toStorage =
      content.toStorage.removeSessionForWallet k := by
  cases content with
  | sessions list => exact toStorage_filter (json list rfl) (·.walletKey ≠ k)
  | absent => rfl
  | corrupt => rfl
  | noList => rfl

theorem toStorage_saveSession (json : content.IsJson) {state : WalletState}
    {tokens : Option (List Asset)} (saved : (newSession now k state tokens).IsJson) :
    (content.saveSession now k state tokens).toStorage =
      content.toStorage.saveSession now k state tokens := by
  rw [saveSession, Storage.saveSession]
  split
  · rfl
  cases content with
  | sessions list =>
      have kept : ∀ session ∈ list.filter (·.walletKey ≠ k) ++ [newSession now k state tokens],
          session.IsJson := by
        intro session mem
        cases List.mem_append.mp mem with
        | inl old => exact json list rfl session (List.mem_filter.mp old).1
        | inr new => exact List.mem_singleton.mp new ▸ saved
      have others : (list.map (·.toPersistedWalletSession)).filter (·.walletKey ≠ k) =
          (list.filter (·.walletKey ≠ k)).map (·.toPersistedWalletSession) := List.filter_map
      refine (toStorage_write kept).trans ?_
      rw [List.map_append, ← others]
      rfl
  | absent =>
      refine toStorage_write ?_
      intro session mem
      exact List.mem_singleton.mp mem ▸ saved
  | corrupt => rfl
  | noList => rfl

/-- What a caller is given, without the fields that only the text has. -/
def shown (result : Option StoredSession × Content) : Option PersistedWalletSession × Storage :=
  (result.1.map (·.toPersistedWalletSession), result.2.toStorage)

theorem shown_getSessionForWallet (json : content.IsJson) (k : Text) :
    shown (content.getSessionForWallet now k) = content.toStorage.getSessionForWallet now k := by
  cases content with
  | sessions list =>
      have found : (sessions list).toStorage.get.find? (·.walletKey = k) =
          (list.find? (·.walletKey = k)).map (·.toPersistedWalletSession) := List.find?_map
      rw [getSessionForWallet, Storage.getSessionForWallet, found]
      cases list.find? (·.walletKey = k) with
      | none => rfl
      | some session =>
          show shown (if Storage.isSessionExpired now session.toPersistedWalletSession then _
            else _) = if Storage.isSessionExpired now session.toPersistedWalletSession then _ else _
          split
          · exact congrArg (Prod.mk none) (toStorage_cleanupExpiredSessions json)
          · rfl
  | absent => rfl
  | corrupt => rfl
  | noList => rfl

/-- The list of `Storage` is what the text holds. -/
theorem shown_restoreSession (json : content.IsJson) (k : Text) :
    shown (content.restoreSession now k) = content.toStorage.restoreSession now k := by
  rw [Storage.restoreSession, ← shown_getSessionForWallet json, restoreSession]
  cases content with
  | sessions list =>
      obtain ⟨session, -, alive, got⟩ | ⟨-, after, got, -⟩ := getSessionForWallet_cases now k list
      · have living : Storage.isSessionExpired now session.toPersistedWalletSession = false := alive
        simp [got, alive, living, shown]
      · rw [got]
        rfl
  | absent => rfl
  | corrupt => rfl
  | noList => rfl

end Content

end Table

/-- The store keeps its promises exactly over an absent item and over a list without a second
session for a wallet; what JSON cannot hold is not restored as it was saved. -/
theorem sessions_lawful_iff (start : Int) (content : Content) :
    (Lawful start content ↔ content.Good start) ∧
    ∀ walletKey state tokens, state.isConnected = true →
      ¬ (Content.newSession start walletKey state tokens).IsJson →
      ((content.saveSession start walletKey state tokens).restoreSession start walletKey).1 ≠
        some (Content.newSession start walletKey state tokens) := by
  refine ⟨⟨good_of_lawful, ?_⟩, ?_⟩
  · intro good now after run
    exact sound_of_good (run.good good).1
  · intro walletKey state tokens connected unwritable restored
    obtain ⟨list, stored⟩ := exists_table_of_restored restored
    rw [restoreSession_saveSession stored connected] at restored
    split at restored
    · apply unwritable
      rw [← Option.some.inj restored]
      exact StoredSession.isJson_json _
    · cases restored

/-- A text that is no JSON stays, and nothing is saved. -/
theorem corrupt_content_not_lawful : ¬ ∀ start content, Lawful start content := by
  intro h
  exact good_of_lawful (h 0 (.corrupt "x".toList))

end DuckPools.Wallet
