/-
Groups of records with one key. A group keeps its first record and the meet of
the descriptors of all its records; groups are kept in the order of their keys.
-/

import ReportMerge.Merge.Failure
import ReportMerge.Merge.Policy

namespace ReportMerge

structure Settled where
  violation : Violation
  permissions : Permissions
  deriving DecidableEq

/-- A present descriptor counts as it stands; a missing one denies everything or is refused. -/
def Record.settle (missing : MissingPermissions) (record : Record) : Except MergeFailure Settled :=
  match record.violation.permissions, missing with
  | some permissions, _ => .ok ⟨record.violation, permissions⟩
  | none, .deny => .ok ⟨record.violation, .denyAll⟩
  | none, .reject => .error (.missingPermissions record.violation.ruleId record.source)

/-- What is known of one key: its first record and the meet of its descriptors. -/
structure Group where
  representative : Violation
  permissions : Permissions
  deriving DecidableEq

namespace Group

def ofSettled (settled : Settled) : Group := ⟨settled.violation, settled.permissions⟩

def add (group : Group) (settled : Settled) : Group :=
  { group with permissions := group.permissions.meet settled.permissions }

def violation (group : Group) : Violation :=
  { group.representative with permissions := some group.permissions }

end Group

abbrev Groups := Std.TreeMap ViolationKey Group compare

namespace Groups

/-- A record opens the group of its key or joins it. -/
def absorb (groups : Groups) (settled : Settled) : Groups :=
  groups.alter settled.violation.key fun
    | none => some (.ofSettled settled)
    | some group => some (group.add settled)

end Groups

abbrev Rules := Std.TreeMap String Rule compare

/-- Of the rules with one identifier the first is kept. -/
def Rules.add (rules : Rules) (rule : Rule) : Rules := rules.insertIfNew rule.id rule

end ReportMerge
