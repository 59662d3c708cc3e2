/-
The shapes of reports and of what they hold. A value that is taken apart already is
read as a report exactly when it has the shape of one, and then as the report that it
tells: nothing is guessed for a member that has to be given, and no member that is
given is passed over.
-/

import ReportMerge.Proofs.Form.Fields
import ReportMerge.Proofs.Json.Shape

namespace ReportMerge

open Json (Shape Value)
open Json.Shape (text_followed flag_followed orNull_followed variant_followed list_followed
  record_tells_iff)
open Json.Shape.Slot (required defaulted nullable)

def EnforcementPolicy.shape : Shape EnforcementPolicy :=
  .variant [("ENFORCE", .enforce), ("WARN", .warn)]

def RuleState.shape : Shape RuleState :=
  .variant [("ENABLED", .enabled), ("DISABLED", .disabled)]

namespace Permissions

def order : List Field := [.canRead, .canWrite]

def slot : Field → Shape.Slot Bool
  | .canRead => required "canRead" .flag
  | .canWrite => required "canWrite" .flag

theorem content_surjective : Function.Surjective content := by
  intro told
  refine ⟨⟨told .canRead, told .canWrite⟩, ?_⟩
  funext field
  cases field <;> rfl

def shape : Shape Permissions := (Shape.record order slot).via content content_surjective

theorem shape_accepts_array_iff (items : List Value) :
    shape.accepts (.array items) ↔ Shape.Leading order slot 2 items := by
  refine Shape.record_accepts_array_iff (by decide) (by decide) (fun field => ?_) items
  cases field <;> decide

theorem read_followed : shape.Followed Permissions.read := by
  intro value permissions
  rw [read_eq_ok_iff]
  refine record_tells_iff ?_ ?_ _ value
  · intro field
    cases field <;> exact ⟨rfl, rfl⟩
  · intro field
    cases field <;> exact flag_followed

end Permissions

namespace Rule

def order : List Field := [.id, .name, .kind, .enforcementPolicy, .comments, .state]

def slot : (field : Field) → Shape.Slot (Content field)
  | .id => required "id" .text
  | .name => nullable "name" .text
  | .kind => nullable "type" .text
  | .enforcementPolicy => nullable "enforcementPolicy" EnforcementPolicy.shape
  | .comments => nullable "comments" .text
  | .state => nullable "state" RuleState.shape

theorem content_surjective : Function.Surjective content := by
  intro told
  refine ⟨⟨told .id, told .name, told .kind, told .enforcementPolicy, told .comments,
    told .state⟩, ?_⟩
  funext field
  cases field <;> rfl

def shape : Shape Rule := (Shape.record order slot).via content content_surjective

theorem shape_accepts_array_iff (items : List Value) :
    shape.accepts (.array items) ↔ Shape.Leading order slot 1 items := by
  refine Shape.record_accepts_array_iff (by decide) (by decide) (fun field => ?_) items
  cases field <;> decide

theorem read_followed : shape.Followed Rule.read := by
  intro value rule
  rw [read_eq_ok_iff]
  refine record_tells_iff ?_ ?_ _ value
  · intro field
    cases field <;> exact ⟨rfl, rfl⟩
  · intro field
    cases field with
    | id => exact text_followed
    | name | kind | comments => exact orNull_followed text_followed
    | enforcementPolicy => exact orNull_followed (variant_followed _)
    | state => exact orNull_followed (variant_followed _)

end Rule

namespace Violation

def order : List Field :=
  [.ruleId, .enabled, .scope, .subjectId, .subjectDisplayName, .groupId, .issueId, .message,
    .enforcementPolicy, .permissions]

def slot : (field : Field) → Shape.Slot (Content field)
  | .ruleId => required "ruleId" .text
  | .enabled => defaulted "enabled" false .flag
  | .scope => nullable "scope" .text
  | .subjectId => nullable "subjectId" .text
  | .subjectDisplayName => nullable "subjectDisplayName" .text
  | .groupId => nullable "groupId" .text
  | .issueId => nullable "issueId" .text
  | .message => nullable "violationMessage" .text
  | .enforcementPolicy => nullable "enforcementPolicy" EnforcementPolicy.shape
  | .permissions => nullable "subjectPermissionDto" Permissions.shape

theorem content_surjective : Function.Surjective content := by
  intro told
  refine ⟨⟨told .ruleId, told .enabled, told .scope, told .subjectId, told .subjectDisplayName,
    told .groupId, told .issueId, told .message, told .enforcementPolicy, told .permissions⟩, ?_⟩
  funext field
  cases field <;> rfl

def shape : Shape Violation := (Shape.record order slot).via content content_surjective

theorem shape_accepts_array_iff (items : List Value) :
    shape.accepts (.array items) ↔ Shape.Leading order slot 1 items := by
  refine Shape.record_accepts_array_iff (by decide) (by decide) (fun field => ?_) items
  cases field <;> decide

theorem read_followed : shape.Followed Violation.read := by
  intro value violation
  rw [read_eq_ok_iff]
  refine record_tells_iff ?_ ?_ _ value
  · intro field
    cases field <;> exact ⟨rfl, rfl⟩
  · intro field
    cases field with
    | ruleId => exact text_followed
    | enabled => exact flag_followed
    | scope | subjectId | subjectDisplayName | groupId | issueId | message =>
        exact orNull_followed text_followed
    | enforcementPolicy => exact orNull_followed (variant_followed _)
    | permissions => exact orNull_followed Permissions.read_followed

end Violation

namespace Report

def order : List Field := [.rules, .violations]

def slot : (field : Field) → Shape.Slot (Content field)
  | .rules => defaulted "rules" [] (.list Rule.shape)
  | .violations => defaulted "ruleViolations" [] (.list Violation.shape)

theorem content_surjective : Function.Surjective content := by
  intro told
  refine ⟨⟨told .rules, told .violations⟩, ?_⟩
  funext field
  cases field <;> rfl

def shape : Shape Report := (Shape.record order slot).via content content_surjective

theorem shape_accepts_array_iff (items : List Value) :
    shape.accepts (.array items) ↔ Shape.Leading order slot 0 items := by
  refine Shape.record_accepts_array_iff (by decide) (by decide) (fun field => ?_) items
  cases field <;> decide

theorem read_followed : shape.Followed Report.read := by
  intro value report
  rw [read_eq_ok_iff]
  refine record_tells_iff ?_ ?_ _ value
  · intro field
    cases field <;> exact ⟨rfl, rfl⟩
  · intro field
    cases field with
    | rules => exact list_followed Rule.read_followed
    | violations => exact list_followed Violation.read_followed

end Report

/-! ### Reading by shape -/

/-- A value is read as a report exactly when it has the shape of one, and as what it tells then. In
the shape of an array a report needs no element at all, a violation and a rule need the first of
theirs, and permissions need both. -/
theorem embedded_values_read_by_shape :
    (∀ value : Value, (∃ report, Report.read value = .ok report) ↔ Report.shape.accepts value) ∧
    (∀ (value : Value) (report : Report),
      Report.read value = .ok report ↔ Report.shape.tells value report) ∧
    ∀ items : List Value,
      (Report.shape.accepts (.array items) ↔ Shape.Leading Report.order Report.slot 0 items) ∧
      (Violation.shape.accepts (.array items) ↔
        Shape.Leading Violation.order Violation.slot 1 items) ∧
      (Rule.shape.accepts (.array items) ↔ Shape.Leading Rule.order Rule.slot 1 items) ∧
      (Permissions.shape.accepts (.array items) ↔
        Shape.Leading Permissions.order Permissions.slot 2 items) := by
  refine ⟨Report.read_followed.accepts_iff, Report.read_followed, ?_⟩
  intro items
  exact ⟨Report.shape_accepts_array_iff items, Violation.shape_accepts_array_iff items,
    Rule.shape_accepts_array_iff items, Permissions.shape_accepts_array_iff items⟩

/-- A positional violation whose descriptor is null, beside a rule with an unknown member. -/
example :
    Report.read (Value.object [
      ("ruleViolations", .array [.array [.text "b", .flag true, .null]]),
      ("rules", .array [.object [("extra", .array []), ("id", .text "b"), ("name", .null)]])]) =
      .ok ⟨[.ofId "b"], [{ ruleId := "b", enabled := true }]⟩ := rfl

end ReportMerge
