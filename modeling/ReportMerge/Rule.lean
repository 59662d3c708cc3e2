/-
Rules as the nodes report them. A rule is known by its identifier; every other
property is optional, and two reporters may disagree on it.
-/

namespace ReportMerge

inductive RuleState
  | enabled
  | disabled
  deriving DecidableEq

inductive EnforcementPolicy
  | enforce
  | warn
  deriving DecidableEq

structure Rule where
  id : String
  name : Option String := none
  kind : Option String := none
  enforcementPolicy : Option EnforcementPolicy := none
  comments : Option String := none
  state : Option RuleState := none
  deriving DecidableEq

namespace Rule

def ofId (id : String) : Rule := { id }

def withName (rule : Rule) (name : String) : Rule := { rule with name := some name }

end Rule

end ReportMerge
