import ReportMerge.Decimal.Layout
import ReportMerge.Merge.Reconcile
import ReportMerge.Reading.Layer
import ReportMerge.Json.Numeral
import ReportMerge.Form.Report
import ReportMerge.Form.NodeIdentity
import ReportMerge.Json.Token
import ReportMerge.Json.Document
import ReportMerge.Toml.Numeral
import ReportMerge.Toml.Line
import ReportMerge.Settings.Document
import ReportMerge.Session
import ReportMerge.Telemetry.Subscriber
import ReportMerge.Proofs.FieldOrder
import ReportMerge.Proofs.Merge.Grouping
import ReportMerge.Proofs.Merge.ClosedForm
import ReportMerge.Proofs.Merge.MergedReport
import ReportMerge.Proofs.Merge.Confidentiality
import ReportMerge.Proofs.Merge.UnionOfViews
import ReportMerge.Proofs.Merge.History
import ReportMerge.Proofs.Merge.Refusal
import ReportMerge.Proofs.Merge.Visibility
import ReportMerge.Proofs.Merge.Batches
import ReportMerge.Proofs.Merge.Restriction
import ReportMerge.Proofs.Merge.Rounds
import ReportMerge.Proofs.Merge.Figures
import ReportMerge.Proofs.Merge.Filling
import ReportMerge.Proofs.Merge.NodeOrder
import ReportMerge.Proofs.Json.Numeral
import ReportMerge.Proofs.Json.Text
import ReportMerge.Proofs.Json.Document
import ReportMerge.Proofs.Json.Value
import ReportMerge.Proofs.Reading.Fields
import ReportMerge.Proofs.Json.Reading
import ReportMerge.Proofs.Form.RoundTrip
import ReportMerge.Proofs.Merge.AuditTrail
import ReportMerge.Proofs.Merge.CanonicalStructure
import ReportMerge.Proofs.Form.Fields
import ReportMerge.Proofs.Json.Shape
import ReportMerge.Proofs.Form.Shapes
import ReportMerge.Proofs.Json.Written
import ReportMerge.Proofs.Json.Spelled
import ReportMerge.Proofs.Json.Changes
import ReportMerge.Proofs.Form.Rearrangement
import ReportMerge.Proofs.Merge.Reduction
import ReportMerge.Proofs.Merge.DisplayedNames
import ReportMerge.Proofs.Telemetry.NamedThreshold
import ReportMerge.Proofs.Telemetry.Installation
import ReportMerge.Proofs.Toml.Text
import ReportMerge.Proofs.Toml.Token
import ReportMerge.Proofs.Toml.Line
import ReportMerge.Proofs.Toml.Table
import ReportMerge.Proofs.Toml.Writing
import ReportMerge.Proofs.Settings.Fields
import ReportMerge.Proofs.Settings.Layout
import ReportMerge.Proofs.Settings.Usable
