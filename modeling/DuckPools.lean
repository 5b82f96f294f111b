import DuckPools.Backend.AcceptedRegisters
import DuckPools.Backend.Apy
import DuckPools.Backend.CanonicalRequests
import DuckPools.Backend.ConnectionStats
import DuckPools.Backend.GlobalBroadcast
import DuckPools.Backend.OracleFailover
import DuckPools.Backend.OracleHealth
import DuckPools.Backend.PendingStats
import DuckPools.Backend.SubscribeCalls
import DuckPools.Backend.TokenChecks
import DuckPools.Backend.WsIsolation
import DuckPools.Coinflip.BetSettlements
import DuckPools.Coinflip.Outcome
import DuckPools.Coinflip.Payout
import DuckPools.Frontend.PendingBets
import DuckPools.Frontend.PlacedBets
import DuckPools.Frontend.Selection
import DuckPools.Games.Commitments
import DuckPools.Games.Plinko
import DuckPools.Games.PlinkoSecret
import DuckPools.Pool.BuiltRequests
import DuckPools.Pool.Cooldown
import DuckPools.Pool.Estimates
import DuckPools.Pool.PoolRuns
import DuckPools.Registers.Agreement
import DuckPools.Registers.Ambiguity
import DuckPools.Registers.Framing
import DuckPools.Registers.IntegerCodecs
import DuckPools.Registers.SelfDelimiting
import DuckPools.Registers.TypeCodes
import DuckPools.Sdk.Binding
import DuckPools.Sdk.BuilderRuns
import DuckPools.Sdk.Flows
import DuckPools.Sdk.PlacedKeys
import DuckPools.Sdk.PoolClient
import DuckPools.Sdk.PoolState
import DuckPools.Sdk.RevealSeed
import DuckPools.Sdk.StoredSecret
import DuckPools.Sdk.TokenAmounts
import DuckPools.Wallet.Networks
import DuckPools.Wallet.Popups
import DuckPools.Wallet.SessionStore
import DuckPools.Wallet.Switching
