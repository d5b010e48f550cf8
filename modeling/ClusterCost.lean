import ClusterCost.Catalog.FromToml
import ClusterCost.Command.Run
import ClusterCost.Directory
import ClusterCost.Main
import ClusterCost.Proofs.Billing.Duration
import ClusterCost.Proofs.Billing.Minutes
import ClusterCost.Proofs.Binary64.Gradual
import ClusterCost.Proofs.Binary64.Near
import ClusterCost.Proofs.Binary64.Nearest
import ClusterCost.Proofs.Binary64.Neutral
import ClusterCost.Proofs.Binary64.Operations
import ClusterCost.Proofs.Binary64.Packing
import ClusterCost.Proofs.Binary64.Rounding
import ClusterCost.Proofs.Binary64.Whole
import ClusterCost.Proofs.Catalog.Validation
import ClusterCost.Proofs.Command.Report
import ClusterCost.Proofs.Command.Sources
import ClusterCost.Proofs.Command.Stages
import ClusterCost.Proofs.Decimal.Layout
import ClusterCost.Proofs.Decimal.Shortest
import ClusterCost.Proofs.Directory
import ClusterCost.Proofs.Json.Lexing
import ClusterCost.Proofs.Json.Magnitude
import ClusterCost.Proofs.Json.Printing
import ClusterCost.Proofs.Json.Records
import ClusterCost.Proofs.Json.Tokens
import ClusterCost.Proofs.Json.Underflow
import ClusterCost.Proofs.Outcome
import ClusterCost.Proofs.Path
import ClusterCost.Proofs.Price.Dependence
import ClusterCost.Proofs.Price.Fallback
import ClusterCost.Proofs.Price.Itemised
import ClusterCost.Proofs.Price.Pods
import ClusterCost.Proofs.Quantity.Decoding
import ClusterCost.Proofs.Quantity.Floats
import ClusterCost.Proofs.Quantity.Grammar
import ClusterCost.Proofs.Quantity.Lexing
import ClusterCost.Proofs.Quantity.Literal
import ClusterCost.Proofs.Quantity.Reading
import ClusterCost.Proofs.Quantity.Regrouping
import ClusterCost.Proofs.Quantity.Scales
import ClusterCost.Proofs.Quantity.Units
import ClusterCost.Proofs.Quantity.Words
import ClusterCost.Proofs.Session
import ClusterCost.Proofs.Settings.RoundTrip
import ClusterCost.Proofs.Snapshot.Lifecycle
import ClusterCost.Proofs.Snapshot.Overflow
import ClusterCost.Proofs.Snapshot.Presentation
import ClusterCost.Proofs.Snapshot.RoundTrip
import ClusterCost.Proofs.Table
import ClusterCost.Proofs.Text.Digits
import ClusterCost.Proofs.Text.Trim
import ClusterCost.Proofs.Utilization.Arrangement
import ClusterCost.Proofs.Utilization.Dependence
import ClusterCost.Proofs.Utilization.Load
import ClusterCost.Proofs.Utilization.Mode
import ClusterCost.Proofs.Utilization.Order
import ClusterCost.Proofs.Utilization.Quotient
import ClusterCost.Proofs.Utilization.Reclassification
import ClusterCost.Session
import ClusterCost.Settings.ToToml
import ClusterCost.Snapshot.Encode
