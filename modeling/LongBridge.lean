import LongBridge.Account.Attribution
import LongBridge.Account.State
import LongBridge.Cycle.BuyBlocks
import LongBridge.Cycle.Buying
import LongBridge.Cycle.Dealings
import LongBridge.Cycle.Divisions
import LongBridge.Cycle.Funding
import LongBridge.Cycle.LimitPrices
import LongBridge.Cycle.Observations
import LongBridge.Cycle.Opening
import LongBridge.Cycle.Orders
import LongBridge.Cycle.Phases
import LongBridge.Cycle.Placement
import LongBridge.Cycle.Proceeds
import LongBridge.Cycle.Purchases
import LongBridge.Cycle.Quiet
import LongBridge.Cycle.Rebalance
import LongBridge.Cycle.Records
import LongBridge.Cycle.Refreshing
import LongBridge.Cycle.Sales
import LongBridge.Cycle.SellParts
import LongBridge.Cycle.Selling
import LongBridge.Cycle.Sizing
import LongBridge.Cycle.Spending
import LongBridge.Cycle.Submission
import LongBridge.Cycle.Submissions
import LongBridge.Cycle.SweepBuyback
import LongBridge.Cycle.SweepFlag
import LongBridge.Cycle.Walk
import LongBridge.CycleHealth.IncidentHistory
import LongBridge.CycleHealth.Incidents
import LongBridge.CycleHealth.Reapplied
import LongBridge.CycleHealth.Refreshing
import LongBridge.CycleHealth.Reordered
import LongBridge.CycleHealth.Replay
import LongBridge.Deploy.PaperSwitches
import LongBridge.Deploy.Siblings
import LongBridge.Deploy.SyncPlan
import LongBridge.Effects.Alone
import LongBridge.Effects.Conforming
import LongBridge.Effects.Environment
import LongBridge.Effects.Fallible
import LongBridge.Effects.Histories
import LongBridge.Effects.Interleaving
import LongBridge.Effects.Invariant
import LongBridge.Effects.Script
import LongBridge.Effects.Search
import LongBridge.Effects.Serve
import LongBridge.Effects.Tree
import LongBridge.Effects.Versions
import LongBridge.Guard.Collection
import LongBridge.Guard.Dedupe
import LongBridge.Guard.Failures
import LongBridge.Guard.Suppression
import LongBridge.Heartbeat.Acceptance
import LongBridge.Heartbeat.Evidence
import LongBridge.Heartbeat.Newest
import LongBridge.Heartbeat.Scan
import LongBridge.Heartbeat.Verdict
import LongBridge.History.Accepted
import LongBridge.History.Capture
import LongBridge.History.Financing
import LongBridge.History.Inventory
import LongBridge.History.Kept
import LongBridge.History.Projected
import LongBridge.History.Readback
import LongBridge.History.Recorded
import LongBridge.History.Records
import LongBridge.Mapping.Carried
import LongBridge.Mapping.CashBlind
import LongBridge.Mapping.Executable
import LongBridge.Mapping.Frozen
import LongBridge.Mapping.FrozenPlan
import LongBridge.Mapping.Plan
import LongBridge.Mapping.Records
import LongBridge.Mapping.Stored
import LongBridge.Mapping.Survival
import LongBridge.Mapping.VendoredKit
import LongBridge.Mapping.VendoredLaws
import LongBridge.Notifications.Absorbed
import LongBridge.Notifications.AnyOrder
import LongBridge.Notifications.Archived
import LongBridge.Notifications.Candidates
import LongBridge.Notifications.Delivery
import LongBridge.Notifications.FailedRuns
import LongBridge.Notifications.InTurn
import LongBridge.Notifications.Incidents
import LongBridge.Notifications.KeptEvents
import LongBridge.Notifications.OneSlot
import LongBridge.Notifications.Persistence
import LongBridge.Notifications.Persisting
import LongBridge.Notifications.Promises
import LongBridge.Notifications.Recorded
import LongBridge.Notifications.Summed
import LongBridge.Observation.Alerting
import LongBridge.Observation.Bucket
import LongBridge.Observation.Canonical
import LongBridge.Observation.Claiming
import LongBridge.Observation.Collecting
import LongBridge.Observation.Consistent
import LongBridge.Observation.Doings
import LongBridge.Observation.Facts
import LongBridge.Observation.Fetches
import LongBridge.Observation.Normalised
import LongBridge.Observation.Notices
import LongBridge.Observation.PriorReports
import LongBridge.Observation.PriorSearch
import LongBridge.Observation.Promised
import LongBridge.Observation.Reached
import LongBridge.Observation.Requests
import LongBridge.Observation.Snapshots
import LongBridge.Observation.Stored
import LongBridge.Observation.System
import LongBridge.Observation.Watching
import LongBridge.Paper.Proposals
import LongBridge.Paper.Reconciled
import LongBridge.Paper.Targets
import LongBridge.Probe.Containment
import LongBridge.Probe.Scheduler
import LongBridge.Projection.Anomalies
import LongBridge.Projection.Copies
import LongBridge.Projection.OrderFree
import LongBridge.Projection.Records
import LongBridge.Projection.Repeats
import LongBridge.Projection.Schedules
import LongBridge.Projection.Verdicts
import LongBridge.Publishing.Accounted
import LongBridge.Publishing.Addresses
import LongBridge.Publishing.Listings
import LongBridge.Publishing.Publish
import LongBridge.Publishing.Reads
import LongBridge.Python.Conversions
import LongBridge.Python.Dates
import LongBridge.Python.DecimalReadback
import LongBridge.Python.DecimalText
import LongBridge.Python.Decimals
import LongBridge.Python.Entries
import LongBridge.Python.Equality
import LongBridge.Python.Json
import LongBridge.Python.JsonTexts
import LongBridge.Python.Numbers
import LongBridge.Python.Rows
import LongBridge.Python.Sorting
import LongBridge.Python.Symbols
import LongBridge.Python.Text
import LongBridge.Python.TextOrder
import LongBridge.Python.Times
import LongBridge.Python.Urls
import LongBridge.Python.Values
import LongBridge.Python.Zones
import LongBridge.Reconciliation.Amounts
import LongBridge.Reconciliation.Canonical
import LongBridge.Reconciliation.Merged
import LongBridge.Reconciliation.Observe
import LongBridge.Reconciliation.OrderFree
import LongBridge.Reconciliation.Readings
import LongBridge.Reconciliation.Records
import LongBridge.Reporting.Agreement
import LongBridge.Reporting.Backfill
import LongBridge.Reporting.Collected
import LongBridge.Reporting.Collector
import LongBridge.Reporting.CollectorReads
import LongBridge.Reporting.CollectorRows
import LongBridge.Reporting.Coverage
import LongBridge.Reporting.Evidence
import LongBridge.Reporting.Exits
import LongBridge.Reporting.Monitors
import LongBridge.Reporting.Persisted
import LongBridge.Reporting.PrefixCover
import LongBridge.Reporting.PrefixRanges
import LongBridge.Reporting.Slots
import LongBridge.Reporting.Summary
import LongBridge.Reporting.Windows
import LongBridge.Risk.Capabilities
import LongBridge.Risk.FailClosed
import LongBridge.Risk.NewRiskGate
import LongBridge.Risk.OrderAdapter
import LongBridge.Schedule.Binding
import LongBridge.Schedule.Cron
import LongBridge.Schedule.DayWindow
import LongBridge.Schedule.Expectations
import LongBridge.Schedule.ExpectedSlots
import LongBridge.Schedule.QuietWindow
import LongBridge.Secrets.Exchanges
import LongBridge.Secrets.Expiry
import LongBridge.Secrets.Refresh
import LongBridge.Stop.Guarantee
import LongBridge.Stop.Plans
import LongBridge.Stop.Runs
import LongBridge.Stop.Service
import LongBridge.Strategy.CommandLife
import LongBridge.Strategy.CommandStore
import LongBridge.Strategy.Commands
import LongBridge.Strategy.Records
