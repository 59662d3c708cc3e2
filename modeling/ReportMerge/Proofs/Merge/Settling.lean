/-
How the records of a merge get their descriptors. A missing descriptor counts
as a denial of both rights or, where the policy refuses it, ends the merge; the
refusal then names the first such record in reading order.
-/

import ReportMerge.Merge.Groups

namespace ReportMerge

namespace Permissions

theorem meet_assoc (first second third : Permissions) :
    (first.meet second).meet third = first.meet (second.meet third) := by
  simp only [meet, Bool.and_assoc]

theorem meet_self (permissions : Permissions) : permissions.meet permissions = permissions := by
  simp only [meet, Bool.and_self]

theorem meet_allowAll (permissions : Permissions) : permissions.meet allowAll = permissions := by
  simp only [meet, allowAll, Bool.and_true]

end Permissions

/-- The descriptor that counts in a merge: without one, nothing is granted. -/
def Violation.effective (violation : Violation) : Permissions :=
  violation.permissions.getD .denyAll

def Violation.withPermissions (violation : Violation) (permissions : Permissions) : Violation :=
  { violation with permissions := some permissions }

@[simp]
theorem Violation.key_withPermissions (violation : Violation) (permissions : Permissions) :
    (violation.withPermissions permissions).key = violation.key := rfl

@[simp]
theorem Violation.effective_withPermissions (violation : Violation) (permissions : Permissions) :
    (violation.withPermissions permissions).effective = permissions := rfl

@[simp]
theorem Violation.withPermissions_withPermissions (violation : Violation)
    (first second : Permissions) :
    (violation.withPermissions first).withPermissions second = violation.withPermissions second :=
  rfl

def Violation.settled (violation : Violation) : Settled := ⟨violation, violation.effective⟩

def jointPermissions (violations : List Violation) : Permissions :=
  ⟨violations.all fun violation => violation.effective.canRead,
    violations.all fun violation => violation.effective.canWrite⟩

@[simp]
theorem jointPermissions_nil : jointPermissions [] = .allowAll := rfl

@[simp]
theorem jointPermissions_cons (first : Violation) (others : List Violation) :
    jointPermissions (first :: others) = first.effective.meet (jointPermissions others) := rfl

theorem jointPermissions_append (left right : List Violation) :
    jointPermissions (left ++ right) = (jointPermissions left).meet (jointPermissions right) := by
  simp only [jointPermissions, List.all_append, Permissions.meet]

theorem jointPermissions_canRead_iff (violations : List Violation) :
    (jointPermissions violations).canRead = true ↔
      ∀ violation ∈ violations, violation.effective.canRead = true :=
  List.all_eq_true

/-- The client is read first, then the nodes in the order given, each report in its own order. -/
def recordsOf (client : Report) (nodes : NodeReports) : List Record :=
  client.records .client ++ nodes.flatMap fun (identity, report) => report.records (.node identity)

def rulesOf (client : Report) (nodes : NodeReports) : List Rule :=
  client.rules ++ nodes.flatMap fun (_, report) => report.rules

def nodeViolations (nodes : NodeReports) : List Violation :=
  nodes.flatMap fun (_, report) => report.violations

def violationsOf (client : Report) (nodes : NodeReports) : List Violation :=
  client.violations ++ nodeViolations nodes

theorem Report.records_violations (source : Source) (report : Report) :
    (report.records source).map Record.violation = report.violations := by
  unfold Report.records
  rw [List.map_map]
  exact List.map_id _

theorem recordsOf_violations (client : Report) (nodes : NodeReports) :
    (recordsOf client nodes).map Record.violation = violationsOf client nodes := by
  unfold recordsOf violationsOf nodeViolations
  rw [List.map_append, Report.records_violations, List.map_flatMap]
  congr 2
  funext entry
  exact Report.records_violations (.node entry.1) entry.2

namespace Record

def refusedUnder (missing : MissingPermissions) (record : Record) : Bool :=
  missing = .reject && record.violation.permissions.isNone

def refusal (record : Record) : MergeFailure :=
  .missingPermissions record.violation.ruleId record.source

theorem settle_eq (missing : MissingPermissions) (record : Record) :
    record.settle missing =
      if record.refusedUnder missing then .error record.refusal
      else .ok record.violation.settled := by
  rcases record with ⟨source, violation⟩
  cases present : violation.permissions with
  | some permissions =>
      simp only [settle, refusedUnder, present, Option.isNone_some, Bool.and_false,
        Bool.false_eq_true, if_false, Violation.settled, Violation.effective, Option.getD_some]
  | none =>
      cases missing with
      | reject => simp only [settle, refusedUnder, present, refusal]; rfl
      | deny =>
          simp only [settle, refusedUnder, present, Violation.settled, Violation.effective]; rfl

theorem mapM_settle (missing : MissingPermissions) (records : List Record) :
    records.mapM (settle missing) =
      match records.find? (refusedUnder missing) with
      | some record => .error record.refusal
      | none => .ok (records.map fun record => record.violation.settled) := by
  induction records with
  | nil => rfl
  | cons record rest ih =>
      rw [List.mapM_cons, settle_eq, List.find?_cons]
      cases record.refusedUnder missing with
      -- The first refusal ends the run, so the rest plays no part.
      | true => rfl
      | false =>
          rw [ih]
          cases rest.find? (refusedUnder missing) <;> rfl

end Record

/-- Every violation has a descriptor, as far as the policy asks for one. -/
def Described (missing : MissingPermissions) (violations : List Violation) : Prop :=
  missing = .reject → ∀ violation ∈ violations, violation.permissions ≠ none

theorem described_deny (violations : List Violation) : Described .deny violations := by
  intro impossible
  cases impossible

theorem described_append {missing : MissingPermissions} {left right : List Violation} :
    Described missing (left ++ right) ↔ Described missing left ∧ Described missing right := by
  unfold Described
  rw [← imp_and]
  simp only [List.forall_mem_append]

theorem find?_refusedUnder_eq_none_iff (missing : MissingPermissions) (client : Report)
    (nodes : NodeReports) :
    (recordsOf client nodes).find? (Record.refusedUnder missing) = none ↔
      Described missing (violationsOf client nodes) := by
  rw [List.find?_eq_none, ← recordsOf_violations]
  constructor
  · intro accepted rejecting violation member absent
    rcases List.mem_map.mp member with ⟨record, present, same⟩
    apply accepted record present
    simp [Record.refusedUnder, rejecting, same, absent]
  · intro described record member refused
    obtain ⟨rejecting, absent⟩ : missing = .reject ∧ record.violation.permissions = none := by
      simpa [Record.refusedUnder] using refused
    exact described rejecting record.violation (List.mem_map_of_mem member) absent

end ReportMerge
