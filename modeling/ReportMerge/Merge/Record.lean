/-
The records that enter a merge, and who reported them. A node may be given more
than once; each of its reports is then read.
-/

import ReportMerge.NodeIdentity
import ReportMerge.Report

namespace ReportMerge

inductive Source
  | client
  | node (identity : NodeIdentity)
  deriving DecidableEq

def Source.display : Source → String
  | .client => "client"
  | .node identity => "node " ++ identity.display

structure Record where
  source : Source
  violation : Violation
  deriving DecidableEq

/-- The reports of the nodes, in the order in which they are read. -/
abbrev NodeReports := List (NodeIdentity × Report)

def Report.records (source : Source) (report : Report) : List Record :=
  report.violations.map (Record.mk source)

end ReportMerge
