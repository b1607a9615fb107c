import Dice.Library.CallStack
import Dice.Library.Logged
import Dice.Library.SlotTable
import Dice.Library.HashChain
import Dice.Library.Ledger
import Dice.Library.Pool
import Dice.Library.U64
import Dice.Library.Intervals
import Dice.Library.HighWater
import Dice.Library.Hex
import Dice.Library.Codec
import Dice.Library.KeyedTable
import Dice.Library.FairShare
import Dice.Library.Shuffle
import Dice.Library.Climb
import Dice.Library.Simulation
import Dice.Contract.Types
import Dice.Contract.Storage
import Dice.Contract.Functions
import Dice.Contract.Machine
import Dice.Contract.Effects
import Dice.Contract.Requests
import Dice.Contract.Runs
import Dice.Contract.Symbolic
import Dice.Contract.Chains
import Dice.Contract.Freshness
import Dice.Contract.Rotations
import Dice.Contract.Accounting
import Dice.Contract.Refunds
import Dice.Contract.Lives
import Dice.Contract.Callbacks
import Dice.Contract.Settlement
import Dice.Contract.Reveals
import Dice.Contract.Dates
import Dice.Contract.Outcomes
import Dice.Contract.Pointers
import Dice.Contract.Retries
import Dice.Contract.Spares
import Dice.Contract.Transactions
import Dice.Contract.Commuting
import Dice.Service.HashChains
import Dice.Service.ChainState
import Dice.Service.Registration
import Dice.Service.Setup
import Dice.Service.Watchers
import Dice.Service.Keeper
import Dice.Service.Batches
import Dice.Service.Tasks
import Dice.Service.Confirmations
import Dice.Service.Chain
import Dice.Service.Events
import Dice.Service.Disclosure
import Dice.Service.Nonces
import Dice.Service.Upkeep
import Dice.Service.History
import Dice.Service.Fees
import Dice.Service.Escalation
import Dice.Service.Submissions
import Dice.Consumer.CoinFlip
import Dice.Consumer.Halves
import Dice.Sdk.HashChains
import Dice.Sdk.Prng
import Dice.Consumer.Bankroll
import Dice.Consumer.Joint
import Dice.Consumer.Games
import Dice.Consumer.Play
import Dice.Library.DropQueue
import Dice.Service.Recording
import Dice.Library.Listing
import Dice.Service.Explorer
import Dice.Library.OrderStatistics
import Dice.Service.GasOracle
import Dice.Library.ToleranceBand
import Dice.Service.FeeUpdates
import Dice.Service.FeeModel
import Dice.Service.Receipts
import Dice.Contract.Progress
import Dice.Service.UpkeepLoop
import Dice.Service.Attribution
import Dice.Service.Serving
import Dice.Contract.Failures
import Dice.Service.Replicas
import Dice.Contract.Published
import Dice.Sdk.Client
import Dice.Service.Generate
