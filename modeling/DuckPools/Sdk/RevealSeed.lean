import DuckPools.Frontend.Reveal
import DuckPools.Sdk.BetManager

/-!
# The seed of the SDK's reveals

The contract and the frontend take the id of the block before the reveal. The SDK asks for
the block at the creation height of the box, and reads `headerId` or `id` from the answer.
A node answers with the ids at that height, an array, which has neither; so the SDK never
learns a block hash, and a reveal throws before there is an outcome to compare.
-/

namespace DuckPools.Sdk

open CoinflipV2 ErgoScript
open BetManager Exceptions

variable {Point : Type} {E : Curve Point}

/-- A box of the ledger, as a node answers it. -/
def nodeBox (b : BetBox E) (creationHeight : Nat) : PendingBetBox where
  value := (b.box.value : Nat)
  creationHeight
  additionalRegisters r :=
    (b.box.hexRegisters E r).map fun text => { value := text, serializedValue := text }

/-- The frontend and the SDK reveal one bet on one chain, in the block at `height`, after
`parentId`. -/
structure SharedReveal (H : Blake2b) (F : Frontend.Fleet) (cfg : Frontend.Config)
    (frontendNode : Frontend.Node) (params : Frontend.RevealParams) (node : NodeClient)
    (options : RevealBetOptions) (headerIds : Nat → List Text) (b : BetBox E)
    (creationHeight : Nat) (height : Int32) (parentId : Bytes) : Prop where
  frontend : Frontend.RevealSituation H F cfg frontendNode params b height parentId
  frontendChain : ∀ h : Nat, frontendNode.blocksAt h = .ok ⟨200, headerIds h⟩
  chain : ∀ h, node.getBlockHeaderByHeight h = .ok (.array (headerIds h))
  box : node.getBoxById options.boxId = .ok (nodeBox b creationHeight)
  secret : options.secret = Hex.encode b.bet.playerSecret
  choice : options.choice = b.bet.playerChoice.toInt
  included : (creationHeight : Int) ≤ height.toInt

/-- The SDK learns an outcome, and it is that of the contract and of the frontend. -/
def RevealsWithSeed (H : Blake2b) (F : Frontend.Fleet) (cfg : Frontend.Config)
    (frontendNode : Frontend.Node) (params : Frontend.RevealParams) (node : NodeClient)
    (runtime : Runtime) (options : RevealBetOptions) (b : BetBox E) (parentId : Bytes) : Prop :=
  ∃ outcome, revealOutcome H node runtime options = .ok outcome ∧
    (outcome.result = .win ↔ b.bet.playerWins H parentId = true) ∧
    ∀ reveal, Frontend.buildRevealTx H F cfg frontendNode params = .ok reveal →
      (outcome.result = .win ↔ reveal.playerWins = true)

section Chain

variable {node : NodeClient} {headerIds : Nat → List Text}

/-- An array of header ids holds no block hash for the SDK. -/
theorem getBlockHash_ne_ok
    (hchain : ∀ h, node.getBlockHeaderByHeight h = .ok (.array (headerIds h))) (height : Nat)
    (hash : Text) : getBlockHash node height ≠ .ok hash := by
  have hnone : blockHash (.array (headerIds height)) = none := rfl
  simp only [getBlockHash, hchain, hnone]
  exact throw_ne_ok _ _

/-- No reveal has an outcome, whatever the box, the secret and the choice. -/
theorem revealOutcome_ne_ok {H : Blake2b} {runtime : Runtime} {options : RevealBetOptions}
    (hchain : ∀ h, node.getBlockHeaderByHeight h = .ok (.array (headerIds h)))
    (outcome : BetManager.Outcome) : revealOutcome H node runtime options ≠ .ok outcome := by
  intro houtcome
  obtain ⟨betBox, _, hrest⟩ := bind_eq_ok_iff.mp houtcome
  obtain ⟨hash, hhash, _⟩ := bind_eq_ok_iff.mp hrest
  exact getBlockHash_ne_ok hchain betBox.creationHeight hash hhash

end Chain

variable {H : Blake2b} {F : Frontend.Fleet} {cfg : Frontend.Config} {frontendNode : Frontend.Node}
  {params : Frontend.RevealParams} {node : NodeClient} {runtime : Runtime}
  {options : RevealBetOptions} {headerIds : Nat → List Text} {b : BetBox E} {creationHeight : Nat}
  {height : Int32} {parentId : Bytes}

/-- The SDK never reveals with the seed of the contract. -/
theorem not_revealsWithSeed
    (s : SharedReveal H F cfg frontendNode params node options headerIds b creationHeight height
      parentId) :
    ¬ RevealsWithSeed H F cfg frontendNode params node runtime options b parentId := by
  rintro ⟨outcome, houtcome, _⟩
  exact revealOutcome_ne_ok s.chain outcome houtcome

/-- A bet on heads under an all-zero hash, revealed five blocks after its box. -/
theorem exampleShared (parentId : Bytes) :
    SharedReveal (Frontend.constantHash 0) (Frontend.exampleFleet (Frontend.constantHash 0))
      Frontend.exampleConfig
      (Frontend.exampleNode (Frontend.exampleBet 0 0) parentId)
      (Frontend.exampleParams (Frontend.constantHash 0) (Frontend.exampleBet 0 0))
      (exampleClient (nodeBox (Frontend.exampleBet 0 0) 95) (.array [Hex.encode parentId]))
      ⟨[], Hex.encode [1, 2, 3, 4, 5, 6, 7, 8], 0⟩ (fun _ => [Hex.encode parentId])
      (Frontend.exampleBet 0 0) 95 100 parentId where
  frontend := Frontend.exampleSituation (.inl rfl) (Frontend.computedHash_constantHash 0 0) parentId
  frontendChain _ := rfl
  chain _ := rfl
  box := rfl
  secret := rfl
  choice := rfl
  included := by decide

theorem not_revealsWithSeed_heads :
    ¬ RevealsWithSeed (Frontend.constantHash 0) (Frontend.exampleFleet (Frontend.constantHash 0))
      Frontend.exampleConfig
      (Frontend.exampleNode (Frontend.exampleBet 0 0) (List.replicate 32 0))
      (Frontend.exampleParams (Frontend.constantHash 0) (Frontend.exampleBet 0 0))
      (exampleClient (nodeBox (Frontend.exampleBet 0 0) 95)
        (.array [Hex.encode (List.replicate 32 0)])) exampleRuntime
      ⟨[], Hex.encode [1, 2, 3, 4, 5, 6, 7, 8], 0⟩ (Frontend.exampleBet 0 0)
      (List.replicate 32 0) :=
  not_revealsWithSeed (exampleShared (List.replicate 32 0))

theorem reveal_misses_seed :
    ¬ ∀ (H : Blake2b) (F : Frontend.Fleet) (cfg : Frontend.Config) (frontendNode : Frontend.Node)
        (params : Frontend.RevealParams) (node : NodeClient) (runtime : Runtime)
        (options : RevealBetOptions) (headerIds : Nat → List Text) (b : BetBox twoKeys)
        (creationHeight : Nat) (height : Int32) (parentId : Bytes),
        SharedReveal H F cfg frontendNode params node options headerIds b creationHeight height
          parentId →
        RevealsWithSeed H F cfg frontendNode params node runtime options b parentId := by
  intro h
  have s := exampleShared (List.replicate 32 0)
  obtain ⟨outcome, houtcome, _⟩ := h _ _ _ _ _ _ exampleRuntime _ _ _ _ _ _ s
  exact revealOutcome_ne_ok s.chain outcome houtcome

end DuckPools.Sdk
