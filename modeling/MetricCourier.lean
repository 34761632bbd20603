import MetricCourier.Client.Methods
import MetricCourier.Delivery.Builder
import MetricCourier.Delivery.Interleaving
import MetricCourier.Delivery.Progress
import MetricCourier.Fault.Chain
import MetricCourier.Sink.Meter
import MetricCourier.Sink.Scripted
import MetricCourier.Sink.Stock
import MetricCourier.Proofs.Delivery.Access
import MetricCourier.Proofs.Delivery.Ledger
import MetricCourier.Proofs.Delivery.Books
import MetricCourier.Proofs.Delivery.Messages
import MetricCourier.Proofs.Delivery.Lifecycle
import MetricCourier.Proofs.Delivery.Shutdown
import MetricCourier.Delivery.Crew
import MetricCourier.Proofs.Delivery.Crew
import MetricCourier.Proofs.Delivery.Ordering
import MetricCourier.Delivery.Wired
import MetricCourier.Proofs.Sink.Metered
import MetricCourier.Proofs.Delivery.Conservation
import MetricCourier.Proofs.Delivery.Draining
import MetricCourier.Proofs.Encoding.Clauses
import MetricCourier.Proofs.Encoding.Framing
import MetricCourier.Proofs.Encoding.PlainLines
import MetricCourier.Proofs.Fault.Identity
import MetricCourier.Proofs.Client.Routing
import MetricCourier.Proofs.Delivery.Shifts
import MetricCourier.Proofs.Delivery.Farewell
import MetricCourier.Client.Clientele
import MetricCourier.Proofs.Client.Accounts
import MetricCourier.Proofs.Client.Sharing
import MetricCourier.Proofs.Encoding.LineBreaks
import MetricCourier.Proofs.Encoding.Lookalikes
import MetricCourier.Proofs.Net.Reading
import MetricCourier.Proofs.Net.Groups
import MetricCourier.Proofs.Net.Written
import MetricCourier.Delivery.Schedule
import MetricCourier.Proofs.Delivery.Resting
import MetricCourier.Proofs.Delivery.Capacity
import MetricCourier.Proofs.Number.Nearest
import MetricCourier.Proofs.Number.Exact
import MetricCourier.Proofs.Encoding.FixedPoint
import MetricCourier.Proofs.Delivery.Snapshots
import MetricCourier.Proofs.Delivery.Admission
import MetricCourier.Proofs.Delivery.Flushing
import MetricCourier.Proofs.Encoding.Acceptance
import MetricCourier.Proofs.Encoding.VanishingRates
import MetricCourier.Proofs.Net.Resolution
import MetricCourier.Proofs.Client.Canonical
import MetricCourier.Proofs.Number.Words
import MetricCourier.Proofs.Client.Levels
import MetricCourier.Proofs.Sink.Watching
import MetricCourier.Proofs.Sink.Handles
import MetricCourier.Proofs.Text.Numerals
import MetricCourier.Proofs.Text.Quoting
