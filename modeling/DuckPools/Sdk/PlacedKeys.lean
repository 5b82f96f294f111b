import DuckPools.Codec.Base58
import DuckPools.Sdk.BetManager

/-!
# The keys of a placed bet

The address of a key is the Base58 text of one byte for the network and the kind of
address, the 33 bytes of the key, and four of checksum. `placeBet` writes such texts into
the registers of the keys, where they are read as hexadecimal digits. Of the 52 characters
that the text has at most, no more than 26 bytes can come, so no request carries the keys.

What keeps the SDK from locking bets this way is the empty input it builds with: it only
submits a bet that a negative fee pays for.
-/

namespace DuckPools.Sdk

open ErgoScript (Reg)
open BetManager Exceptions TransactionBuilder

/-- The key that an address pays to. -/
def publicKey (address : Text) : Option Bytes :=
  match Base58.decode address with
  | some (kind :: content) =>
      if kind.toNat % 16 = 1 ∧ content.length = 37 then some (content.take 33) else none
  | _ => none

/-- The bytes in a register of the first box that a request asks for. -/
def requestBytes (request : WalletRequest) (r : Reg) : Option Bytes :=
  request.requests.head?.bind fun output =>
    (output.registers.bind (·.lookup r)).bind fun register =>
      (deserializeCollByte register.value).toOption

/-- The registers of the house and of the player hold their keys. -/
structure CarriesKeys (manager : BetManager) (request : WalletRequest) : Prop where
  house : ∃ key, publicKey manager.houseAddress = some key ∧ requestBytes request .R4 = some key
  player : ∃ key, publicKey manager.pendingBetAddress = some key ∧
    requestBytes request .R5 = some key

/-- A call submits a bet with both keys, or throws and submits nothing. -/
def PlacesSpendable (H : Blake2b) (manager : BetManager) (node : NodeClient) (runtime : Runtime)
    (options : PlaceBetOptions) : Prop :=
  (∃ request, (placeBet H manager node runtime options).submitted = [request] ∧
      CarriesKeys manager request) ∨
    ((placeBet H manager node runtime options).submitted = [] ∧
      ∃ e, (placeBet H manager node runtime options).result = .error e)

/-- The options are accepted, the node has a height, and the fee makes up for the amount:
exactly, or with a change address. -/
structure FeePaysForBet (manager : BetManager) (node : NodeClient) (options : PlaceBetOptions) :
    Prop where
  amount : 0 < options.amount
  choice : options.choice = 0 ∨ options.choice = 1
  height : ∃ currentHeight, node.getCurrentHeight = .ok currentHeight
  paid : options.amount + manager.txBuilder.fee ≤ 0
  change : options.amount + manager.txBuilder.fee < 0 → manager.txBuilder.change ≠ none

section Keys

theorem decode_of_publicKey {address : Text} {key : Bytes} (h : publicKey address = some key) :
    key.length = 33 ∧ ∃ kind content, Base58.decode address = some (kind :: content) ∧
      kind ≠ 0 ∧ content.length = 37 := by
  rw [publicKey] at h
  split at h
  · next kind content hdecode =>
      split at h
      · next haddress =>
          obtain ⟨hkind, hlen⟩ := haddress
          obtain rfl := Option.some.inj h
          refine ⟨by rw [List.length_take, hlen]; rfl, kind, content, hdecode, ?_, hlen⟩
          rintro rfl
          exact absurd hkind (by decide)
      · exact absurd h nofun
  · exact absurd h nofun

/-- The address of a key has at most 52 characters. -/
theorem length_address_le {address : Text} {kind : Byte} {content : Bytes}
    (hdecode : Base58.decode address = some (kind :: content)) (hkind : kind ≠ 0)
    (hlen : content.length = 37) : address.length ≤ 52 := by
  cases address with
  | nil => exact Nat.zero_le _
  | cons c s =>
      have hlt := Base58.pow_length_lt_of_decode hdecode (by simpa using hkind)
      rw [List.length_cons, hlen] at hlt
      by_contra hlong
      have hpow : 58 ^ 52 ≤ 58 ^ s.length := by
        apply Nat.pow_le_pow_right (by decide)
        simp only [List.length_cons] at hlong
        omega
      exact absurd (Nat.lt_of_le_of_lt hpow hlt) (by decide)

/-- The address of a key is too short to be read as the 33 bytes of one. -/
theorem bufferFromHex_address_ne {address : Text} {key : Bytes}
    (h : publicKey address = some key) : Js.bufferFromHex address ≠ key := by
  obtain ⟨h33, kind, content, hdecode, hkind, hlen⟩ := decode_of_publicKey h
  have haddress := length_address_le hdecode hkind hlen
  have hhalf := Js.length_bufferFromHex_le address
  rintro rfl
  omega

end Keys

section Requests

variable {builder : TransactionBuilder} {params : PlaceBetParams}
  {built : ErgoTransaction × TransactionBuilder}

/-- What is built for a bet can be sent, with what its key of the house spells in `R4`. -/
theorem exists_request (h : builder.buildPlaceBetTransaction params = .ok built) :
    ∃ request, toWalletFormat built.1 = .ok request ∧
      requestBytes request .R4 = some (Js.bufferFromHex params.housePubKey) := by
  obtain ⟨_, ⟨change, houtputs, hplain⟩, _⟩ := build_spec h
  have hchange : ∀ output ∈ change, ∃ wallet, walletOutput output = .ok wallet := by
    intro output houtput
    rw [walletOutput, hplain output houtput]
    exact ⟨_, rfl⟩
  obtain ⟨rest, hrest⟩ := exists_mapM_eq_ok hchange
  obtain ⟨first, hfirst, hR4⟩ : ∃ wallet, walletOutput (betOutput params) = .ok wallet ∧
      wallet.registers.bind (·.lookup .R4) =
        some { value := serializeCollByte params.housePubKey, type := "Coll[Byte]" } :=
    ⟨_, rfl, rfl⟩
  have hmapped : built.1.outputs.mapM walletOutput = .ok (first :: rest) := by
    rw [houtputs, List.singleton_append, List.mapM_cons, hfirst, hrest]
    rfl
  rw [toWalletFormat, hmapped]
  refine ⟨_, rfl, ?_⟩
  simp only [requestBytes, List.head?_cons, Option.bind_some, hR4, deserializeCollByte_serialize]
  rfl

theorem buildPlaceBetTransaction_isOk_iff (builder : TransactionBuilder)
    (hinput : params.inputBoxValue = 0) :
    (∃ built, builder.buildPlaceBetTransaction params = .ok built) ↔
      params.amount + builder.fee ≤ 0 ∧
        (params.amount + builder.fee < 0 → builder.change ≠ none) := by
  rw [buildPlaceBetTransaction, build_isOk_iff]
  simp only [List.map_cons, List.map_nil, List.sum_singleton, hinput, ne_eq, List.cons_ne_self,
    not_false_eq_true, true_and, betOutput]

end Requests

section PlaceBet

variable {H : Blake2b} {manager : BetManager} {node : NodeClient} {runtime : Runtime}
  {options : PlaceBetOptions}

/-- A bet is submitted exactly if its fee pays for it, and then without the key of the
house; otherwise the call throws. -/
theorem placeBet_cases :
    (FeePaysForBet manager node options ∧
        ∃ request, (placeBet H manager node runtime options).submitted = [request] ∧
          requestBytes request .R4 = some (Js.bufferFromHex manager.houseAddress)) ∨
      (¬ FeePaysForBet manager node options ∧
        (placeBet H manager node runtime options).submitted = [] ∧
        ∃ e, (placeBet H manager node runtime options).result = .error e) := by
  cases hprepared : prepareBet H manager node runtime options with
  | error e =>
      right
      have hrejected : ¬ FeePaysForBet manager node options := by
        intro h
        obtain ⟨currentHeight, hheight⟩ := h.height
        have haccepted : prepareBet H manager node runtime options =
            .ok (preparedBet H manager runtime options currentHeight) :=
          prepareBet_eq_ok_iff.mpr ⟨h.amount, h.choice, currentHeight, hheight, rfl⟩
        rw [hprepared] at haccepted
        exact absurd haccepted nofun
      rw [placeBet, hprepared]
      exact ⟨hrejected, rfl, e, rfl⟩
  | ok bet =>
      obtain ⟨hamount, hchoice, currentHeight, hheight, hbet⟩ := prepareBet_eq_ok_iff.mp hprepared
      have hinput : bet.params.inputBoxValue = 0 := by rw [hbet]; rfl
      have hpaid : (∃ built, manager.txBuilder.buildPlaceBetTransaction bet.params = .ok built) ↔
          FeePaysForBet manager node options := by
        rw [buildPlaceBetTransaction_isOk_iff manager.txBuilder hinput, hbet]
        exact ⟨fun h => ⟨hamount, hchoice, ⟨currentHeight, hheight⟩, h.1, h.2⟩,
          fun h => ⟨h.paid, h.change⟩⟩
      rw [placeBet, hprepared]
      cases hbuilt : manager.txBuilder.buildPlaceBetTransaction bet.params with
      | error e =>
          right
          refine ⟨fun hfee => ?_, ?_⟩
          · obtain ⟨built, hok⟩ := hpaid.mpr hfee
            rw [hbuilt] at hok
            exact absurd hok nofun
          · simp only [hbuilt]
            exact ⟨rfl, e, rfl⟩
      | ok built =>
          left
          obtain ⟨request, hrequest, hR4⟩ := exists_request hbuilt
          refine ⟨hpaid.mp ⟨built, hbuilt⟩, request, ?_, by rw [hR4, hbet]; rfl⟩
          simp only [hbuilt]
          exact submitted_submit hrequest built.2 _

theorem not_carriesKeys {request : WalletRequest}
    (hR4 : requestBytes request .R4 = some (Js.bufferFromHex manager.houseAddress)) :
    ¬ CarriesKeys manager request := by
  intro hcarries
  obtain ⟨key, hkey, hbytes⟩ := hcarries.house
  rw [hR4, Option.some.injEq] at hbytes
  exact bufferFromHex_address_ne hkey hbytes

theorem not_placesSpendable (hfee : FeePaysForBet manager node options) :
    ¬ PlacesSpendable H manager node runtime options := by
  obtain ⟨_, request, hsubmitted, hR4⟩ | ⟨hnot, _⟩ :=
    @placeBet_cases H manager node runtime options
  · rintro (⟨request', hsubmitted', hcarries⟩ | ⟨hnothing, _⟩)
    · rw [hsubmitted, List.singleton_inj] at hsubmitted'
      rw [hsubmitted'] at hR4
      exact not_carriesKeys hR4 hcarries
    · rw [hsubmitted] at hnothing
      exact absurd hnothing nofun
  · exact absurd hfee hnot

/-- A call is safe exactly if no fee pays for the bet, as no fee that is not negative does. -/
theorem placesSpendable_iff :
    PlacesSpendable H manager node runtime options ↔ ¬ FeePaysForBet manager node options := by
  constructor
  · intro hspendable hfee
    exact not_placesSpendable hfee hspendable
  · intro hnot
    obtain ⟨hfee, _⟩ | ⟨_, hnothing⟩ := @placeBet_cases H manager node runtime options
    · exact absurd hfee hnot
    · exact Or.inr hnothing

end PlaceBet

section Examples

/-- The default address of the house, and an address for bets. -/
def ergoManager (fee : Int) : BetManager :=
  create
    { txBuilder := some (exampleBuilder fee)
      pendingBetAddress := "3WybUXMjv722ebGYh69bQGQMsb7yb3LJ1EWqPp22UDH2RFNKgcRi".toList
      houseAddress := "3WyrB3D5AMpyEc88UJ7FpdsBMXAZKwzQzkKeDbAQVfXytDPgxF26".toList }

theorem publicKey_ergoManager (fee : Int) :
    (∃ key, publicKey (ergoManager fee).houseAddress = some key) ∧
      ∃ key, publicKey (ergoManager fee).pendingBetAddress = some key :=
  ⟨⟨_, rfl⟩, ⟨_, rfl⟩⟩

theorem address_is_no_key :
    ¬ ∀ (H : Blake2b) (manager : BetManager) (node : NodeClient) (runtime : Runtime)
        (options : PlaceBetOptions),
        (∃ key, publicKey manager.houseAddress = some key) →
        (∃ key, publicKey manager.pendingBetAddress = some key) →
        PlacesSpendable H manager node runtime options := by
  intro h
  let node := exampleClient (exampleBox 1000000000 []) (.object none none)
  let options : PlaceBetOptions := ⟨1000000000, 0, none, none⟩
  have hfee : FeePaysForBet (ergoManager (-1000000000)) node options :=
    ⟨by decide, Or.inl rfl, ⟨100, rfl⟩, by decide, by decide⟩
  exact not_placesSpendable hfee (h exampleHash (ergoManager (-1000000000)) node exampleRuntime
    options (publicKey_ergoManager _).1 (publicKey_ergoManager _).2)

end Examples

end DuckPools.Sdk
