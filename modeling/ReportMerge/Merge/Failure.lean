/-
Why a merge refuses its input, and the wording of each refusal.
-/

import ReportMerge.Merge.Record

namespace ReportMerge

inductive MergeFailure
  | missingPermissions (ruleId : String) (source : Source)
  | tooManyNodes (count : Nat) (maximum : Nat)
  deriving DecidableEq

namespace MergeFailure

def message : MergeFailure → String
  | .missingPermissions ruleId source =>
      "Violation of rule '" ++ ruleId ++ "' from " ++ source.display
        ++ " has no permission descriptor"
  | .tooManyNodes count maximum =>
      "Refusing to merge " ++ Nat.repr count ++ " node results (max_nodes = "
        ++ Nat.repr maximum ++ ")"

/-- The text with which a merge that was promised sound input gives up. -/
def preconditionMessage (failure : MergeFailure) : String :=
  "flow-analysis merge precondition violated: " ++ failure.message

end MergeFailure

end ReportMerge
