/-
The written form of violations. The enabled flag and the descriptor are always
written, the descriptor as null when there is none; other members only when
they have a value.
-/

import ReportMerge.Form.Permissions
import ReportMerge.Form.Rule
import ReportMerge.Violation

namespace ReportMerge.Violation

inductive Field
  | ruleId
  | enabled
  | scope
  | subjectId
  | subjectDisplayName
  | groupId
  | issueId
  | message
  | enforcementPolicy
  | permissions
  deriving DecidableEq

abbrev Content : Field → Type
  | .ruleId => String
  | .enabled => Bool
  | .scope | .subjectId | .subjectDisplayName | .groupId | .issueId | .message => Option String
  | .enforcementPolicy => Option EnforcementPolicy
  | .permissions => Option Permissions

/-- The rule is required. The flag may be left out but not null; all else may be either. -/
def fields (α : Type) [Readable α] : FieldTable α Field Content where
  title := "Violation"
  order := [.ruleId, .enabled, .scope, .subjectId, .subjectDisplayName, .groupId, .issueId,
    .message, .enforcementPolicy, .permissions]
  name
    | .ruleId => "ruleId"
    | .enabled => "enabled"
    | .scope => "scope"
    | .subjectId => "subjectId"
    | .subjectDisplayName => "subjectDisplayName"
    | .groupId => "groupId"
    | .issueId => "issueId"
    | .message => "violationMessage"
    | .enforcementPolicy => "enforcementPolicy"
    | .permissions => "subjectPermissionDto"
  read
    | .ruleId => Readable.text
    | .enabled => Readable.flag
    | .scope | .subjectId | .subjectDisplayName | .groupId | .issueId | .message =>
        Readable.optional Readable.text
    | .enforcementPolicy => Readable.optional EnforcementPolicy.read
    | .permissions => Readable.optional Permissions.read
  absent
    | .ruleId => none
    | .enabled => some false
    | .scope | .subjectId | .subjectDisplayName | .groupId | .issueId | .message => some none
    | .enforcementPolicy => some none
    | .permissions => some none

def read {α : Type} [Readable α] : α → Except Fault Violation :=
  (fields α).readRecord fun get => do
    return {
      ruleId := ← get .ruleId
      enabled := ← get .enabled
      scope := ← get .scope
      subjectId := ← get .subjectId
      subjectDisplayName := ← get .subjectDisplayName
      groupId := ← get .groupId
      issueId := ← get .issueId
      message := ← get .message
      enforcementPolicy := ← get .enforcementPolicy
      permissions := ← get .permissions }

def toJson (violation : Violation) : Json.Value :=
  .object (("ruleId", .text violation.ruleId) :: ("enabled", .flag violation.enabled) ::
    Json.given "scope" Json.Value.text violation.scope ++
    Json.given "subjectId" Json.Value.text violation.subjectId ++
    Json.given "subjectDisplayName" Json.Value.text violation.subjectDisplayName ++
    Json.given "groupId" Json.Value.text violation.groupId ++
    Json.given "issueId" Json.Value.text violation.issueId ++
    Json.given "violationMessage" Json.Value.text violation.message ++
    Json.given "enforcementPolicy" EnforcementPolicy.toJson violation.enforcementPolicy ++
    [("subjectPermissionDto", (violation.permissions.map Permissions.toJson).getD .null)])

end ReportMerge.Violation
