/-
Merging the client's report with the reports of the nodes. All reports are read
before the client is written, so that a refusal finds it as it was. The merged
report holds one rule for each identifier and one violation for each key that
every reporter of it allows to be read.
-/

import ReportMerge.Merge.Groups
import ReportMerge.Merge.Merging

namespace ReportMerge

open Merging (tell writeRules writeViolations)

structure Outcome where
  nodes : Nat
  rules : Nat
  violations : Nat
  omittedUnreadable : List ViolationKey
  writeRestricted : Nat
  deriving DecidableEq

def Record.warning? (record : Record) : Option Event :=
  match record.violation.permissions with
  | some _ => none
  | none => some (.treatedAsDenied record.violation.ruleId record.source)

structure Gathered where
  rules : Rules := ∅
  groups : Groups := ∅

namespace Gathered

def addRule (gathered : Gathered) (rule : Rule) : Gathered :=
  { gathered with rules := gathered.rules.add rule }

def addRecord (missing : MissingPermissions) (gathered : Gathered) (record : Record) :
    Merging MergeFailure Gathered := do
  let settled ← ofExcept (record.settle missing)
  record.warning?.forM tell
  return { gathered with groups := gathered.groups.absorb settled }

/-- The rules of a report are taken before any of its violations is looked at. -/
def absorb (missing : MissingPermissions) (gathered : Gathered) (source : Source)
    (report : Report) : Merging MergeFailure Gathered :=
  (report.records source).foldlM (addRecord missing) (report.rules.foldl addRule gathered)

/-- The client is read first, so its copies are the ones that represent their groups. -/
def ofReports (missing : MissingPermissions) (client : Report) (nodes : NodeReports) :
    Merging MergeFailure Gathered := do
  let ofClient ← absorb missing {} .client client
  nodes.foldlM (fun gathered (identity, report) =>
    gathered.absorb missing (.node identity) report) ofClient

end Gathered

structure Sorted where
  shown : List Violation := []
  omitted : List ViolationKey := []
  writeRestricted : Nat := 0

def Sorted.add (sorted : Sorted) : ViolationKey × Group → Merging MergeFailure Sorted
  | (key, group) =>
      if group.permissions.canRead then
        return { sorted with
          shown := sorted.shown ++ [group.violation]
          writeRestricted := sorted.writeRestricted + if group.permissions.canWrite then 0 else 1 }
      else do
        tell (.omitted key)
        return { sorted with omitted := sorted.omitted ++ [key] }

/-- The client is written. The figures are those of what has been written, and they are told
last. -/
def Sorted.conclude (sorted : Sorted) (rules : List Rule) (nodeCount : Nat) :
    Merging MergeFailure Outcome := do
  writeRules rules
  writeViolations sorted.shown
  let written ← Merging.client
  let outcome : Outcome := {
    nodes := nodeCount
    rules := written.rules.length
    violations := written.violations.length
    omittedUnreadable := sorted.omitted
    writeRestricted := sorted.writeRestricted }
  tell (.merged outcome.nodes outcome.rules outcome.violations outcome.omittedUnreadable.length)
  return outcome

def reconcileInPlace (missing : MissingPermissions) (nodes : NodeReports) :
    Merging MergeFailure Outcome := do
  let gathered ← Gathered.ofReports missing (← Merging.client) nodes
  let sorted ← gathered.groups.toList.foldlM Sorted.add {}
  sorted.conclude gathered.rules.values nodes.length

/-- How a merge ends whose caller promised sound input and did not give it. -/
structure BrokenPromise where
  message : String
  deriving DecidableEq

namespace MergePolicy

def admits (policy : MergePolicy) (count : Nat) : Except MergeFailure Unit :=
  match policy.maxNodes with
  | none => .ok ()
  | some maximum => if count > maximum then .error (.tooManyNodes count maximum) else .ok ()

/-- The merge for callers that promise every descriptor the policy asks for; it has no bound. -/
def mergePromisedInPlace (policy : MergePolicy) (nodes : NodeReports) :
    Merging BrokenPromise Outcome :=
  (reconcileInPlace policy.missingPermissions nodes).adapt fun failure =>
    ⟨failure.preconditionMessage⟩

/-- The merge that refuses too many nodes before it looks at any record. -/
def mergeInPlace (policy : MergePolicy) (nodes : NodeReports) : Merging MergeFailure Outcome := do
  ofExcept (policy.admits nodes.length)
  reconcileInPlace policy.missingPermissions nodes

/-- The same merge on a client that is handed over, which comes back merged. -/
def mergeOwn (policy : MergePolicy) (own : Report) (nodes : NodeReports) :
    Merging MergeFailure Report :=
  Merging.onOwn own do
    let _ ← policy.mergeInPlace nodes
    Merging.client

end MergePolicy

/-! ### What a merge comes to -/

structure Merged where
  report : Report
  outcome : Outcome
  events : List Event
  deriving DecidableEq

/-- The client that is left, the outcome and the events of a merge in silence, or its refusal. -/
def Merging.summary (work : Merging MergeFailure Outcome) (client : Report) :
    Except MergeFailure Merged :=
  match work.after { client } with
  | (.ok outcome, left) => .ok ⟨left.client, outcome, left.told⟩
  | (.error failure, _) => .error failure

def reconcile (missing : MissingPermissions) (client : Report) (nodes : NodeReports) :
    Except MergeFailure Merged :=
  (reconcileInPlace missing nodes).summary client

namespace MergePolicy

def mergePromised (policy : MergePolicy) (client : Report) (nodes : NodeReports) :
    Except MergeFailure Merged :=
  reconcile policy.missingPermissions client nodes

def merge (policy : MergePolicy) (client : Report) (nodes : NodeReports) :
    Except MergeFailure Merged :=
  (policy.mergeInPlace nodes).summary client

end MergePolicy

end ReportMerge
