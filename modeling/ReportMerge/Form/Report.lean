/-
The written form of reports.
-/

import ReportMerge.Form.Violation
import ReportMerge.Report

namespace ReportMerge.Report

inductive Field
  | rules
  | violations
  deriving DecidableEq

abbrev Content : Field → Type
  | .rules => List Rule
  | .violations => List Violation

/-- A member that is left out is an empty list; it may not be null. -/
def fields (α : Type) [Readable α] : FieldTable α Field Content where
  title := "ClusterResult"
  order := [.rules, .violations]
  name
    | .rules => "rules"
    | .violations => "ruleViolations"
  read
    | .rules => Readable.list Rule.read
    | .violations => Readable.list Violation.read
  absent
    | .rules => some []
    | .violations => some []

def read {α : Type} [Readable α] : α → Except Fault Report :=
  (fields α).readRecord fun get => do
    return { rules := ← get .rules, violations := ← get .violations }

def toJson (report : Report) : Json.Value :=
  .object [("rules", .array (report.rules.map Rule.toJson)),
    ("ruleViolations", .array (report.violations.map Violation.toJson))]

end ReportMerge.Report
