import V4vappDash.Lib.Interleaving
import V4vappDash.Lib.Machine
import V4vappDash.Lib.TtlCache
import V4vappDash.Lib.Ledger
import V4vappDash.Lib.Batch
import V4vappDash.Lib.Dict
import V4vappDash.Lib.Collection
import V4vappDash.Lib.Grid
import V4vappDash.Lib.Decimal
import V4vappDash.Lib.Numeral
import V4vappDash.Lib.Binary64
import V4vappDash.Config
import V4vappDash.Amounts
import V4vappDash.Quotes
import V4vappDash.Limits.HiveConfig
import V4vappDash.Limits.HiveStatus
import V4vappDash.Quotes.Service
import V4vappDash.Models.Invoice
import V4vappDash.Keys
import V4vappDash.Wallet.DeriveXpub
import V4vappDash.Db.WalletState
import V4vappDash.Dashd.Bootstrap
import V4vappDash.Dashd.Rpc
import V4vappDash.Lifespan
import V4vappDash.Api.Errors
import V4vappDash.Api.Deps
import V4vappDash.Limits.Check
import V4vappDash.Api.Create
import V4vappDash.Limits.Answer
import V4vappDash.Limits.Expiry
import V4vappDash.Limits.Published
import V4vappDash.Api.Moves
import V4vappDash.Api.Cancel
import V4vappDash.Api.Read
import V4vappDash.Watcher.Settlement
import V4vappDash.Watcher.Verdict
import V4vappDash.Watcher.Merge
import V4vappDash.Watcher.Loop
import V4vappDash.Watcher.Persist
import V4vappDash.Watcher.Steps
import V4vappDash.Watcher.Tick
import V4vappDash.Watcher.Cursor
import V4vappDash.Watcher.Moves
import V4vappDash.Watcher.Rotation
import V4vappDash.Api.Health
import V4vappDash.System.Visibility
import V4vappDash.System.Service
import V4vappDash.System.KeyLock
import V4vappDash.System.WatchRange
import V4vappDash.System.Idempotence
import V4vappDash.System.Race
import V4vappDash.System.Isolation
import V4vappDash.System.Evidence
import V4vappDash.System.Coherence
import V4vappDash.System.Bridge
import V4vappDash.System.Runs
import V4vappDash.System.History
import V4vappDash.System.Observed
import V4vappDash.System.Outpoints
import V4vappDash.System.Locks
import V4vappDash.System.Payment
import V4vappDash.System.RateLimit
import V4vappDash.System.Networks
import V4vappDash.System.Deployment
import V4vappDash.System.Caches
import V4vappDash.System.Prices
import V4vappDash.System.Limits
import V4vappDash.System.Progress
import V4vappDash.System.Overlap
import V4vappDash.System.LatePayments
import V4vappDash.System.Closing
import V4vappDash.System.Outages
import V4vappDash.System.Durability
import V4vappDash.System.Reboot
import V4vappDash.System.OfflineKey
import V4vappDash.System.Access
import V4vappDash.System.Indexes
import V4vappDash.System.Solvency
import V4vappDash.System.Conflicts
import V4vappDash.System.Gaps
import V4vappDash.System.Pagination
