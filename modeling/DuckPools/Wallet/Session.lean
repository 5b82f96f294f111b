import DuckPools.Language.NumberText

/-!
# Wallets and their sessions

`utils/network.ts`, `wallet/adapters.ts`, the helpers of `wallet/useErgoWallet.ts` and
`wallet/useWalletSessionPersistence.ts`.

Contexts and addresses carry the key of the wallet that gave them. No function of the
source looks at it.
-/

namespace DuckPools.Wallet

section Network

inductive Network
  | testnet
  | mainnet
  deriving DecidableEq

def Network.opposite : Network → Network
  | testnet => mainnet
  | mainnet => testnet

structure Config where
  VITE_NETWORK : Option Network

def getExpectedNetworkType (cfg : Config) : Network := cfg.VITE_NETWORK.getD .testnet

/-- The prefix has two characters, so it is never equal to the `3` that is among those of
the mainnet. -/
def getNetworkFromAddress (address : Text) : Option Network :=
  if address.length < 2 then none
  else
    let start := address.take 2
    if start = ['3', 'W'] ∨ start = ['2', '-'] then some .testnet
    else if start = ['3'] ∨ start = ['9', 'h'] ∨ start = ['9', 'i'] ∨ start = ['9', 'j'] ∨
        start = ['9', 'k'] ∨ start = ['9', 'a'] ∨ start = ['9', 'b'] ∨ start = ['9', 'c'] ∨
        start = ['9', 'd'] ∨ start = ['9', 'e'] ∨ start = ['9', 'f'] ∨ start = ['9', 'g'] then
      some .mainnet
    else none

/-- `walletNetwork && walletNetwork !== expected` -/
def networkMismatch (cfg : Config) (address : Text) : Option Network :=
  (getNetworkFromAddress address).filter (· ≠ getExpectedNetworkType cfg)

theorem networkMismatch_eq_none (cfg : Config) (address : Text) :
    networkMismatch cfg address = none ↔
      getNetworkFromAddress address ≠ some (getExpectedNetworkType cfg).opposite := by
  unfold networkMismatch
  cases getNetworkFromAddress address with
  | none => simp
  | some network =>
    cases network <;> cases getExpectedNetworkType cfg <;> simp [Network.opposite]

end Network

section Wallets

structure WalletInfo where
  key : Text
  name : Text

def KNOWN_WALLETS : List WalletInfo :=
  [⟨"nautilus".toList, "Nautilus".toList⟩, ⟨"safew".toList, "SAFEW".toList⟩,
    ⟨"minotaur".toList, "Minotaur".toList⟩]

def getWalletInfo (key : Text) : Option WalletInfo := KNOWN_WALLETS.find? (·.key = key)

def walletDisplayName (walletKey : Text) : Text :=
  ((getWalletInfo walletKey).map (·.name)).getD walletKey

/-- An `EIP12ContextAPI`. -/
structure Context where
  wallet : Text

structure Address where
  wallet : Text
  text : Text

/-- Anything a wallet may reject with; `text` is `String(err)`. -/
structure Thrown where
  message : Option Text
  code : Option Int
  text : Text

/-- `err?.message || otherwise` -/
def Thrown.messageOr (e : Thrown) (otherwise : Text) : Text :=
  (e.message.filter (· ≠ [])).getD otherwise

end Wallets

section Tokens

structure Asset where
  tokenId : Text
  amount : Text
  name : Option Text := none
  decimals : Option Js.Number := none
  type : Option Text := none

structure ErgoBox where
  assets : Option (List Asset)

/-- It is never `NaN`. -/
def parseNanoErg (raw : Text) : Js.Number :=
  let n := Js.stringToNumber raw
  if n.isFinite then n else .decimal 9007199254740991 0

/-- `BigInt(s)` -/
def bigInt (s : Text) : Except Thrown Int :=
  match Js.parseBigInt s with
  | some n => .ok n
  | none =>
      let message := "Cannot convert ".toList ++ s ++ " to a BigInt".toList
      .error ⟨some message, none, "SyntaxError: ".toList ++ message⟩

def addAsset : List Asset → Asset → Except Thrown (List Asset)
  | [], asset => return [asset]
  | existing :: rest, asset => do
      if existing.tokenId = asset.tokenId then
        let total := (← bigInt existing.amount) + (← bigInt asset.amount)
        return { existing with amount := Js.bigIntToString total } :: rest
      else return existing :: (← addAsset rest asset)

def extractTokens (utxos : List ErgoBox) : Except Thrown (List Asset) :=
  (utxos.flatMap fun box => box.assets.getD []).foldlM addAsset []

end Tokens

section Errors

inductive WalletErrorCode
  | wallet_not_found
  | wallet_not_responsive
  | timeout_error
  | user_rejected
  | network_mismatch
  | wallet_error

structure WalletError where
  code : WalletErrorCode
  message : Text
  suggestions : List Text

def Network.name : Network → Text
  | testnet => "testnet".toList
  | mainnet => "mainnet".toList

def noWalletSelected : WalletError :=
  ⟨.wallet_not_found, "No wallet selected".toList, ["Select a wallet first".toList]⟩

variable (walletKey : Text)

def notInstalled : WalletError :=
  ⟨.wallet_not_found,
    walletDisplayName walletKey ++ " wallet not installed or not enabled".toList,
    ["Install ".toList ++ walletDisplayName walletKey ++ " from the Chrome Web Store".toList,
      "Enable the extension in chrome://extensions".toList,
      "Refresh this page after enabling".toList]⟩

def preflightTimeout : WalletError :=
  ⟨.wallet_not_responsive,
    walletDisplayName walletKey ++
      " wallet is not responding — it may be locked or needs restart".toList,
    ["Click the ".toList ++ walletDisplayName walletKey ++
        " extension icon and unlock it".toList,
      "Try disabling/re-enabling in chrome://extensions".toList,
      "If issues persist, reinstall ".toList ++ walletDisplayName walletKey]⟩

def preflightError (e : Thrown) : WalletError :=
  ⟨.wallet_not_responsive,
    walletDisplayName walletKey ++ " error: ".toList ++ e.messageOr e.text,
    ["Unlock ".toList ++ walletDisplayName walletKey ++ " and try again".toList]⟩

def networkMismatchError (cfg : Config) (network : Network) : WalletError :=
  let expected := (getExpectedNetworkType cfg).name
  ⟨.network_mismatch,
    "Wallet is on ".toList ++ network.name ++ ", dApp expects ".toList ++ expected,
    ["Switch ".toList ++ walletDisplayName walletKey ++ " to ".toList ++ expected]⟩

def connectTimeout : WalletError :=
  ⟨.timeout_error,
    "Connection timed out — ".toList ++ walletDisplayName walletKey ++
      " did not respond within 30 seconds".toList,
    ["Click the ".toList ++ walletDisplayName walletKey ++
        " extension icon in your browser toolbar".toList,
      "Allow popups for localhost:3000 in your browser settings".toList,
      "Make sure ".toList ++ walletDisplayName walletKey ++ " is unlocked".toList,
      "Try refreshing the page and connecting again".toList]⟩

def userRejected : WalletError :=
  ⟨.user_rejected, "Connection was declined or popup was closed".toList,
    ["Click \"Connect\" in the ".toList ++ walletDisplayName walletKey ++ " popup".toList,
      "Make sure ".toList ++ walletDisplayName walletKey ++ " is unlocked".toList]⟩

def connectError (e : Thrown) : WalletError :=
  ⟨.wallet_error, e.messageOr "Failed to connect wallet".toList,
    ["Unlock ".toList ++ walletDisplayName walletKey ++ " and try again".toList]⟩

end Errors

structure WalletState where
  isConnected : Bool := false
  isConnecting : Bool := false
  isLocked : Bool := false
  walletAddress : Option Address := none
  balance : Option Js.Number := none
  network : Option Network := none
  tokens : Option (List Asset) := none
  error : Option WalletError := none

section Sessions

structure PersistedWalletSession where
  walletAddress : Option Address
  balance : Option Js.Number
  network : Option Network
  tokens : Option (List Asset)
  walletKey : Text
  expiresAt : Int

def SESSION_DURATION_MS : Int := 24 * 60 * 60 * 1000

/-- The sessions in `localStorage`. If it is unavailable, nothing is read or written. -/
structure Storage where
  available : Bool
  sessions : List PersistedWalletSession

namespace Storage

/-- `safeLocalStorageGet`; no item is the same as no session. -/
def get (storage : Storage) : List PersistedWalletSession :=
  if storage.available then storage.sessions else []

/-- `safeLocalStorageSet` -/
def set (storage : Storage) (sessions : List PersistedWalletSession) : Storage :=
  if storage.available then { storage with sessions } else storage

theorem get_set_subset (storage : Storage) (sessions : List PersistedWalletSession) :
    (storage.set sessions).get ⊆ sessions := by
  intro session h
  unfold get set at h
  cases hs : storage.available with
  | false => simp [hs] at h
  | true => simpa [hs] using h

variable (now : Int)

def isSessionExpired (session : PersistedWalletSession) : Bool := session.expiresAt < now

def cleanupExpiredSessions (storage : Storage) : Storage :=
  storage.set (storage.get.filter fun session => !isSessionExpired now session)

def getSessionForWallet (storage : Storage) (walletKey : Text) :
    Option PersistedWalletSession × Storage :=
  match storage.get.find? (·.walletKey = walletKey) with
  | none => (none, storage)
  | some session =>
      if isSessionExpired now session then (none, cleanupExpiredSessions now storage)
      else (some session, storage)

def saveSessionForWallet (storage : Storage) (session : PersistedWalletSession) : Storage :=
  storage.set (storage.get.filter (·.walletKey ≠ session.walletKey) ++ [session])

def removeSessionForWallet (storage : Storage) (walletKey : Text) : Storage :=
  storage.set (storage.get.filter (·.walletKey ≠ walletKey))

def saveSession (storage : Storage) (walletKey : Text) (state : WalletState)
    (tokens : Option (List Asset)) : Storage :=
  if !state.isConnected then storage
  else
    storage.saveSessionForWallet
      { walletAddress := state.walletAddress
        balance := state.balance
        network := state.network
        tokens
        walletKey
        expiresAt := now + SESSION_DURATION_MS }

def restoreSession (storage : Storage) (walletKey : Text) :
    Option PersistedWalletSession × Storage :=
  match storage.getSessionForWallet now walletKey with
  | (none, storage) => (none, storage)
  | (some session, storage) =>
      if isSessionExpired now session then (none, storage.removeSessionForWallet walletKey)
      else (some session, storage)

def hasSession (storage : Storage) (walletKey : Text) : Bool × Storage :=
  match storage.getSessionForWallet now walletKey with
  | (none, storage) => (false, storage)
  | (some session, storage) => (!isSessionExpired now session, storage)

/-- `hasSession(walletKey) ? restoreSession(walletKey) : null` -/
def persistedSession (storage : Storage) (walletKey : Text) :
    Option PersistedWalletSession × Storage :=
  let (present, storage) := storage.hasSession now walletKey
  if present then storage.restoreSession now walletKey else (none, storage)

variable {now} {storage after : Storage} {walletKey : Text}
  {found : Option PersistedWalletSession}

theorem cleanupExpiredSessions_subset (now : Int) (storage : Storage) :
    (storage.cleanupExpiredSessions now).get ⊆ storage.get := fun _ h =>
  (List.mem_filter.mp (get_set_subset _ _ h)).1

theorem removeSessionForWallet_subset (storage : Storage) (walletKey : Text) :
    (storage.removeSessionForWallet walletKey).get ⊆ storage.get := fun _ h =>
  (List.mem_filter.mp (get_set_subset _ _ h)).1

/-- A session after a save was there before, or is the one that was saved. -/
theorem mem_saveSession {state : WalletState} {tokens : Option (List Asset)}
    {session : PersistedWalletSession}
    (h : session ∈ (storage.saveSession now walletKey state tokens).get) :
    session ∈ storage.get ∨
      session.walletKey = walletKey ∧ session.walletAddress = state.walletAddress := by
  unfold saveSession at h
  split at h
  · exact .inl h
  · rcases List.mem_append.mp (get_set_subset _ _ h) with h | h
    · exact .inl (List.mem_filter.mp h).1
    · obtain rfl := List.mem_singleton.mp h
      exact .inr ⟨rfl, rfl⟩

/-- Reading adds no session, and gives one of those stored for the wallet that is asked
for. -/
def Reads (storage : Storage) (walletKey : Text) (found : Option PersistedWalletSession)
    (after : Storage) : Prop :=
  after.get ⊆ storage.get ∧
    ∀ session, found = some session → session ∈ storage.get ∧ session.walletKey = walletKey

theorem Reads.nothing (h : after.get ⊆ storage.get) : Reads storage walletKey none after :=
  ⟨h, fun _ hnone => by simp at hnone⟩

theorem getSessionForWallet_reads
    (h : storage.getSessionForWallet now walletKey = (found, after)) :
    Reads storage walletKey found after := by
  unfold getSessionForWallet at h
  split at h
  next =>
    cases h
    exact .nothing (List.Subset.refl _)
  next session hfound =>
    split at h
    · cases h
      exact .nothing (cleanupExpiredSessions_subset now storage)
    · cases h
      refine ⟨List.Subset.refl _, fun _ hsome => ?_⟩
      cases hsome
      exact ⟨List.mem_of_find?_eq_some hfound, by simpa using List.find?_some hfound⟩

theorem restoreSession_reads (h : storage.restoreSession now walletKey = (found, after)) :
    Reads storage walletKey found after := by
  unfold restoreSession at h
  split at h
  next hget =>
    cases h
    exact getSessionForWallet_reads hget
  next session read hget =>
    have reads := getSessionForWallet_reads hget
    split at h
    · cases h
      exact .nothing (List.Subset.trans (removeSessionForWallet_subset _ _) reads.1)
    · cases h
      exact reads

theorem hasSession_subset (now : Int) (storage : Storage) (walletKey : Text) :
    (storage.hasSession now walletKey).2.get ⊆ storage.get := by
  unfold hasSession
  split <;> next hget => exact (getSessionForWallet_reads hget).1

theorem persistedSession_reads
    (h : storage.persistedSession now walletKey = (found, after)) :
    Reads storage walletKey found after := by
  have present := hasSession_subset now storage walletKey
  unfold persistedSession at h
  dsimp only at h
  split at h
  · have reads := restoreSession_reads h
    refine ⟨List.Subset.trans reads.1 present, fun session hsome => ?_⟩
    obtain ⟨hmem, hkey⟩ := reads.2 session hsome
    exact ⟨present hmem, hkey⟩
  · cases h
    exact .nothing present

end Storage

end Sessions

end DuckPools.Wallet
