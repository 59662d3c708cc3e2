/-
How a merge treats violations without a descriptor, and how many node reports
it accepts.
-/

namespace ReportMerge

inductive MissingPermissions
  | reject
  | deny
  deriving DecidableEq

/-- The choices that a merge follows. Without a bound any number of nodes is accepted. -/
structure MergePolicy where
  missingPermissions : MissingPermissions := .reject
  maxNodes : Option Nat := none
  deriving DecidableEq

end ReportMerge
