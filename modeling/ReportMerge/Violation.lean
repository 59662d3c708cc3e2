/-
Violations of rules as the nodes report them. Reporters speak of the same
violation when its key agrees: the rule it breaks and whether that rule was
enabled. All other properties describe it and may differ between reporters.
-/

import ReportMerge.Permissions
import ReportMerge.Rule

namespace ReportMerge

def flagWord (flag : Bool) : String := if flag then "true" else "false"

/-- What identifies a violation across reporters. -/
structure ViolationKey where
  ruleId : String
  enabled : Bool
  deriving DecidableEq

namespace ViolationKey

instance : Ord ViolationKey :=
  ⟨compareLex (compareOn ViolationKey.ruleId) (compareOn ViolationKey.enabled)⟩

instance : Std.TransOrd ViolationKey :=
  inferInstanceAs (Std.TransCmp (compareLex (compareOn _) (compareOn _)))

instance : Std.LawfulEqOrd ViolationKey where
  eq_of_compare {left right} same := by
    obtain ⟨rules, flags⟩ := compareLex_eq_eq.mp same
    have sameRule : left.ruleId = right.ruleId := Std.LawfulEqOrd.eq_of_compare rules
    have sameFlag : left.enabled = right.enabled := Std.LawfulEqOrd.eq_of_compare flags
    cases left
    cases right
    simp_all

/-- The displayed name of a key, such as `rule[enabled=true]`. -/
def display (key : ViolationKey) : String :=
  key.ruleId ++ "[enabled=" ++ flagWord key.enabled ++ "]"

end ViolationKey

/-- A violation as one reporter describes it. The descriptor of its subject may be missing. -/
structure Violation where
  ruleId : String
  enabled : Bool := false
  scope : Option String := none
  subjectId : Option String := none
  subjectDisplayName : Option String := none
  groupId : Option String := none
  issueId : Option String := none
  message : Option String := none
  enforcementPolicy : Option EnforcementPolicy := none
  permissions : Option Permissions := none
  deriving DecidableEq

namespace Violation

def key (violation : Violation) : ViolationKey := ⟨violation.ruleId, violation.enabled⟩

def ofRule (ruleId : String) (canRead canWrite : Bool) : Violation :=
  { ruleId, permissions := some ⟨canRead, canWrite⟩ }

def withEnabled (violation : Violation) (enabled : Bool) : Violation :=
  { violation with enabled }

def withSubject (violation : Violation) (id displayName : String) : Violation :=
  { violation with subjectId := some id, subjectDisplayName := some displayName }

def withoutPermissions (violation : Violation) : Violation :=
  { violation with permissions := none }

end Violation

end ReportMerge
