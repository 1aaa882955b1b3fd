import SingleFlight.Text.LowerCase
import SingleFlight.Text.Blank
import SingleFlight.Key.Order
import SingleFlight.Error
import SingleFlight.Stored
import SingleFlight.Duration
import SingleFlight.Dictionary
import SingleFlight.Assoc
import SingleFlight.Metric
import SingleFlight.Registry
import SingleFlight.Poll
import SingleFlight.Session
import SingleFlight.Proofs.Flight
import SingleFlight.Proofs.Phase
import SingleFlight.Proofs.Freshness
import SingleFlight.Proofs.Detached
import SingleFlight.Proofs.Retention
import SingleFlight.Decimal.Shortest
import SingleFlight.Decimal.Reading
import SingleFlight.Settings.Json
import SingleFlight.Settings.Toml
import SingleFlight.Settings.Load
import SingleFlight.Startup
import SingleFlight.Text.Pattern
import SingleFlight.Text.Pattern.Reading
import SingleFlight.Proofs.Arising
import SingleFlight.Proofs.Provenance
import SingleFlight.Proofs.Waiters
import SingleFlight.Proofs.Calls
import SingleFlight.Proofs.Unread
import SingleFlight.Proofs.LockTimeout
import SingleFlight.Proofs.Retry
import SingleFlight.Proofs.Pending
import SingleFlight.Proofs.Ledger
import SingleFlight.Proofs.Depth
import SingleFlight.Proofs.Rest
import SingleFlight.Proofs.Timers
import SingleFlight.Proofs.Counters
import SingleFlight.Proofs.Balance
import SingleFlight.Proofs.Cancellation
import SingleFlight.Proofs.Selection
import SingleFlight.Proofs.Apart
import SingleFlight.Proofs.Startup
import SingleFlight.Proofs.Direct
import SingleFlight.Proofs.Panics
import SingleFlight.Proofs.Guise
import SingleFlight.Proofs.EntryPoints
import SingleFlight.Proofs.Metering
import SingleFlight.Proofs.Types
import SingleFlight.Proofs.Woven
import SingleFlight.Proofs.CallKey
import SingleFlight.Proofs.KeyOrder
import SingleFlight.Proofs.Printed
import SingleFlight.Proofs.Checking
import SingleFlight.Proofs.Causes
import SingleFlight.Proofs.Chains
import SingleFlight.Proofs.Registration
import SingleFlight.Proofs.Unlisted
import SingleFlight.Proofs.Precedence
import SingleFlight.Proofs.Invalidation
