/-
The fields of the records that are read and written. Each record is told field by
field, and it is read from whatever tells all of its fields.
-/

import ReportMerge.Form.NodeIdentity
import ReportMerge.Form.Report
import ReportMerge.Proofs.Reading.Records

namespace ReportMerge

variable {α : Type} [Readable α]

namespace Permissions

def content (permissions : Permissions) : Field → Bool
  | .canRead => permissions.canRead
  | .canWrite => permissions.canWrite

theorem fields_sound : (fields α).Sound where
  complete field := by cases field <;> simp [fields]
  distinct := by simp [fields]

theorem read_eq_ok_iff {value : α} {permissions : Permissions} :
    read value = .ok permissions ↔ (fields α).Tells permissions.content (Readable.layer value) := by
  refine FieldTable.readRecord_eq_ok_iff fields_sound ?_ value
  intro get
  simp only [bind_eq_ok_iff]
  constructor
  · rintro ⟨_, canRead, _, canWrite, ⟨⟩⟩ field
    cases field <;> assumption
  · intro given
    exact ⟨_, given .canRead, _, given .canWrite, rfl⟩

end Permissions

namespace NodeIdentity

def content (node : NodeIdentity) : (field : Field) → Content field
  | .id => node.id
  | .apiAddress => node.apiAddress
  | .apiPort => node.apiPort

theorem fields_sound : (fields α).Sound where
  complete field := by cases field <;> simp [fields]
  distinct := by simp [fields]

theorem read_eq_ok_iff {value : α} {node : NodeIdentity} :
    read value = .ok node ↔ (fields α).Tells node.content (Readable.layer value) := by
  refine FieldTable.readRecord_eq_ok_iff fields_sound ?_ value
  intro get
  simp only [bind_eq_ok_iff]
  constructor
  · rintro ⟨_, id, _, apiAddress, _, apiPort, ⟨⟩⟩ field
    cases field <;> assumption
  · intro given
    exact ⟨_, given .id, _, given .apiAddress, _, given .apiPort, rfl⟩

end NodeIdentity

namespace Rule

def content (rule : Rule) : (field : Field) → Content field
  | .id => rule.id
  | .name => rule.name
  | .kind => rule.kind
  | .enforcementPolicy => rule.enforcementPolicy
  | .comments => rule.comments
  | .state => rule.state

theorem fields_sound : (fields α).Sound where
  complete field := by cases field <;> simp [fields]
  distinct := by simp [fields]

theorem read_eq_ok_iff {value : α} {rule : Rule} :
    read value = .ok rule ↔ (fields α).Tells rule.content (Readable.layer value) := by
  refine FieldTable.readRecord_eq_ok_iff fields_sound ?_ value
  intro get
  simp only [bind_eq_ok_iff]
  constructor
  · rintro ⟨_, id, _, name, _, kind, _, enforcementPolicy, _, comments, _, state, ⟨⟩⟩ field
    cases field <;> assumption
  · intro given
    exact ⟨_, given .id, _, given .name, _, given .kind, _, given .enforcementPolicy, _,
      given .comments, _, given .state, rfl⟩

end Rule

namespace Violation

def content (violation : Violation) : (field : Field) → Content field
  | .ruleId => violation.ruleId
  | .enabled => violation.enabled
  | .scope => violation.scope
  | .subjectId => violation.subjectId
  | .subjectDisplayName => violation.subjectDisplayName
  | .groupId => violation.groupId
  | .issueId => violation.issueId
  | .message => violation.message
  | .enforcementPolicy => violation.enforcementPolicy
  | .permissions => violation.permissions

theorem fields_sound : (fields α).Sound where
  complete field := by cases field <;> simp [fields]
  distinct := by simp [fields]

theorem read_eq_ok_iff {value : α} {violation : Violation} :
    read value = .ok violation ↔ (fields α).Tells violation.content (Readable.layer value) := by
  refine FieldTable.readRecord_eq_ok_iff fields_sound ?_ value
  intro get
  simp only [bind_eq_ok_iff]
  constructor
  · rintro ⟨_, ruleId, _, enabled, _, scope, _, subjectId, _, subjectDisplayName, _, groupId, _,
      issueId, _, message, _, enforcementPolicy, _, permissions, ⟨⟩⟩ field
    cases field <;> assumption
  · intro given
    exact ⟨_, given .ruleId, _, given .enabled, _, given .scope, _, given .subjectId, _,
      given .subjectDisplayName, _, given .groupId, _, given .issueId, _, given .message, _,
      given .enforcementPolicy, _, given .permissions, rfl⟩

end Violation

namespace Report

def content (report : Report) : (field : Field) → Content field
  | .rules => report.rules
  | .violations => report.violations

theorem fields_sound : (fields α).Sound where
  complete field := by cases field <;> simp [fields]
  distinct := by simp [fields]

theorem read_eq_ok_iff {value : α} {report : Report} :
    read value = .ok report ↔ (fields α).Tells report.content (Readable.layer value) := by
  refine FieldTable.readRecord_eq_ok_iff fields_sound ?_ value
  intro get
  simp only [bind_eq_ok_iff]
  constructor
  · rintro ⟨_, rules, _, violations, ⟨⟩⟩ field
    cases field <;> assumption
  · intro given
    exact ⟨_, given .rules, _, given .violations, rfl⟩

end Report

end ReportMerge
