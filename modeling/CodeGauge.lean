import CodeGauge.Affected
import CodeGauge.Command.Run
import CodeGauge.Command.ToolCall
import CodeGauge.Command.Tools
import CodeGauge.Engine.Backfill
import CodeGauge.Engine.Updating
import CodeGauge.Lock.Table
import CodeGauge.Main
import CodeGauge.Settings
import CodeGauge.Snapshot.Affected
import CodeGauge.Snapshot.Aggregate
import CodeGauge.Snapshot.Indexed
import CodeGauge.Store.Column
import CodeGauge.Store.Opening
import CodeGauge.Store.Saved
import CodeGauge.Proofs.Action
import CodeGauge.Proofs.Store.Session
import CodeGauge.Proofs.Results
import CodeGauge.Proofs.Store.Batch
import CodeGauge.Proofs.Store.Opening
import CodeGauge.Proofs.Metrics.Reference
import CodeGauge.Proofs.Metrics.Stored
import CodeGauge.Proofs.Snapshot.Mirror
import CodeGauge.Proofs.Snapshot.Rows
import CodeGauge.Proofs.Store.Reading
import CodeGauge.Proofs.Snapshot.Loading
import CodeGauge.Proofs.Snapshot.Measures
import CodeGauge.Proofs.Engine.Renewal
import CodeGauge.Proofs.Engine.Rounds
import CodeGauge.Proofs.Engine.Exactness
import CodeGauge.Proofs.Engine.Refresh
import CodeGauge.Proofs.Engine.Backfill
import CodeGauge.Proofs.Engine.Removal
import CodeGauge.Proofs.Engine.Updating
import CodeGauge.Proofs.Engine.Rewiring
import CodeGauge.Proofs.Engine.Extension
import CodeGauge.Proofs.Engine.Order
import CodeGauge.Proofs.Snapshot.Settling
import CodeGauge.Proofs.Engine.Course
import CodeGauge.Proofs.Store.Confined
import CodeGauge.Proofs.Store.Refusal
import CodeGauge.Proofs.Engine.Restriction
import CodeGauge.Proofs.Snapshot.Reports
import CodeGauge.Proofs.Store.Loads
import CodeGauge.Proofs.Engine.Growth
import CodeGauge.Proofs.Engine.Isolation
import CodeGauge.Proofs.Engine.Tally
import CodeGauge.Proofs.Store.Serving
import CodeGauge.Proofs.Store.Acceptance
import CodeGauge.Proofs.Metrics.Measurable
import CodeGauge.Proofs.Store.Soundness
import CodeGauge.Proofs.Snapshot.Delivery
import CodeGauge.Proofs.Engine.Completion
import CodeGauge.Proofs.Engine.Composing
import CodeGauge.Proofs.Engine.Guarding
import CodeGauge.Proofs.Engine.Holding
import CodeGauge.Proofs.Store.Upholding
import CodeGauge.Proofs.Store.Throughout
import CodeGauge.Proofs.Store.Faithful
import CodeGauge.Proofs.Store.Keeping
import CodeGauge.Proofs.Engine.Upholding
import CodeGauge.Proofs.Engine.Fidelity
import CodeGauge.Proofs.Engine.Drift
import CodeGauge.Proofs.Store.Coping
import CodeGauge.Proofs.Snapshot.Provision
import CodeGauge.Proofs.Engine.Closing
import CodeGauge.Proofs.Engine.Reporting
import CodeGauge.Proofs.Engine.Pacing
import CodeGauge.Proofs.Store.Replacement
import CodeGauge.Proofs.Engine.Shrinking
import CodeGauge.Proofs.Snapshot.Conservation
import CodeGauge.Proofs.Snapshot.Balance
import CodeGauge.Proofs.Store.Ranking
import CodeGauge.Proofs.Command.Hotspots
import CodeGauge.Proofs.Engine.Anchoring
import CodeGauge.Proofs.Engine.OneHop
import CodeGauge.Proofs.Snapshot.Assembly
import CodeGauge.Proofs.Snapshot.Pointwise
import CodeGauge.Proofs.Lock.Balance
import CodeGauge.Proofs.Engine.Accounting
import CodeGauge.Proofs.Text.Padded
import CodeGauge.Proofs.Lock.Keys
import CodeGauge.Proofs.Snapshot.Indexing
import CodeGauge.Proofs.Snapshot.Adjacency
import CodeGauge.Proofs.Engine.Parents
import CodeGauge.Proofs.Engine.Presentable
import CodeGauge.Proofs.Command.Answering
