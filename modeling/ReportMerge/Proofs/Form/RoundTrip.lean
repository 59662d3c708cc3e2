/-
Records read back from the text as which they are written. For each record stands
what is written of each field; that the text is read back as the record itself then
follows field by field.
-/

import ReportMerge.Proofs.Form.Fields
import ReportMerge.Proofs.Json.Reading

namespace ReportMerge

open Json (Document Value given)
open Json.Value (Spells readsAs_text readsAs_flag readsAs_port readsAs_variant readsAs_list
  readsAs_optional_null readsAs_record spells_optional)
open FieldTable (spell)

theorem Json.given_eq {α : Type} (name : String) (toJson : α → Value) (content : Option α) :
    given name toJson content = ((content.map toJson).map (name, ·)).toList := by
  cases content <;> rfl

theorem EnforcementPolicy.toJson_readsAs (policy : EnforcementPolicy) :
    policy.toJson.ReadsAs EnforcementPolicy.read policy := by
  cases policy with
  | enforce => exact readsAs_variant rfl
  | warn => exact readsAs_variant rfl

theorem EnforcementPolicy.toJson_ne_null (policy : EnforcementPolicy) : policy.toJson ≠ .null := by
  cases policy <;> nofun

theorem RuleState.toJson_readsAs (state : RuleState) :
    state.toJson.ReadsAs RuleState.read state := by
  cases state with
  | enabled => exact readsAs_variant rfl
  | disabled => exact readsAs_variant rfl

theorem RuleState.toJson_ne_null (state : RuleState) : state.toJson ≠ .null := by
  cases state <;> nofun

namespace Permissions

def written (permissions : Permissions) (field : Field) : Option Value :=
  some (.flag (permissions.content field))

theorem written_spells (permissions : Permissions) (field : Field) :
    Spells ((fields Document).read field) ((fields Document).absent field)
      (permissions.content field) (permissions.written field) :=
  readsAs_flag (permissions.content field)

theorem toJson_readsAs (permissions : Permissions) :
    permissions.toJson.ReadsAs Permissions.read permissions :=
  readsAs_record fields_sound permissions.written_spells rfl

theorem toJson_ne_null (permissions : Permissions) : permissions.toJson ≠ .null := by
  rintro ⟨⟩

end Permissions

namespace NodeIdentity

def written (node : NodeIdentity) : Field → Option Value
  | .id => some (.text node.id)
  | .apiAddress => some (.text node.apiAddress)
  | .apiPort => some (.ofNat node.apiPort.toNat)

theorem written_spells (node : NodeIdentity) (field : Field) :
    Spells ((fields Document).read field) ((fields Document).absent field) (node.content field)
      (node.written field) := by
  cases field with
  | id => exact readsAs_text node.id
  | apiAddress => exact readsAs_text node.apiAddress
  | apiPort => exact readsAs_port node.apiPort

theorem toJson_readsAs (node : NodeIdentity) : node.toJson.ReadsAs NodeIdentity.read node :=
  readsAs_record fields_sound node.written_spells rfl

end NodeIdentity

namespace Rule

def written (rule : Rule) : Field → Option Value
  | .id => some (.text rule.id)
  | .name => rule.name.map .text
  | .kind => rule.kind.map .text
  | .enforcementPolicy => rule.enforcementPolicy.map EnforcementPolicy.toJson
  | .comments => rule.comments.map .text
  | .state => rule.state.map RuleState.toJson

theorem toJson_eq_spell (rule : Rule) :
    rule.toJson = .object (spell (fields Document).name rule.written (fields Document).order) := by
  simp [toJson, Json.given_eq, spell, fields, written]

theorem written_spells (rule : Rule) (field : Field) :
    Spells ((fields Document).read field) ((fields Document).absent field) (rule.content field)
      (rule.written field) := by
  have optionalText := spells_optional readsAs_text nofun
  cases field with
  | id => exact readsAs_text rule.id
  | name => exact optionalText rule.name
  | kind => exact optionalText rule.kind
  | enforcementPolicy =>
      exact spells_optional EnforcementPolicy.toJson_readsAs EnforcementPolicy.toJson_ne_null
        rule.enforcementPolicy
  | comments => exact optionalText rule.comments
  | state => exact spells_optional RuleState.toJson_readsAs RuleState.toJson_ne_null rule.state

theorem toJson_readsAs (rule : Rule) : rule.toJson.ReadsAs Rule.read rule := by
  rw [toJson_eq_spell]
  exact readsAs_record fields_sound rule.written_spells rfl

end Rule

namespace Violation

def written (violation : Violation) : Field → Option Value
  | .ruleId => some (.text violation.ruleId)
  | .enabled => some (.flag violation.enabled)
  | .scope => violation.scope.map .text
  | .subjectId => violation.subjectId.map .text
  | .subjectDisplayName => violation.subjectDisplayName.map .text
  | .groupId => violation.groupId.map .text
  | .issueId => violation.issueId.map .text
  | .message => violation.message.map .text
  | .enforcementPolicy => violation.enforcementPolicy.map EnforcementPolicy.toJson
  | .permissions => some ((violation.permissions.map Permissions.toJson).getD .null)

theorem toJson_eq_spell (violation : Violation) :
    violation.toJson =
      .object (spell (fields Document).name violation.written (fields Document).order) := by
  simp [toJson, Json.given_eq, spell, fields, written]

theorem written_spells (violation : Violation) (field : Field) :
    Spells ((fields Document).read field) ((fields Document).absent field)
      (violation.content field) (violation.written field) := by
  have optionalText := spells_optional readsAs_text nofun
  cases field with
  | ruleId => exact readsAs_text violation.ruleId
  | enabled => exact readsAs_flag violation.enabled
  | scope => exact optionalText violation.scope
  | subjectId => exact optionalText violation.subjectId
  | subjectDisplayName => exact optionalText violation.subjectDisplayName
  | groupId => exact optionalText violation.groupId
  | issueId => exact optionalText violation.issueId
  | message => exact optionalText violation.message
  | enforcementPolicy =>
      exact spells_optional EnforcementPolicy.toJson_readsAs EnforcementPolicy.toJson_ne_null
        violation.enforcementPolicy
  | permissions =>
      cases described : violation.permissions with
      | none =>
          simp only [written, content, described]
          exact readsAs_optional_null Permissions.read
      | some permissions =>
          simp only [written, content, described]
          exact permissions.toJson_readsAs.optional permissions.toJson_ne_null

theorem toJson_readsAs (violation : Violation) :
    violation.toJson.ReadsAs Violation.read violation := by
  rw [toJson_eq_spell]
  exact readsAs_record fields_sound violation.written_spells rfl

end Violation

namespace Report

def written (report : Report) : Field → Option Value
  | .rules => some (.array (report.rules.map Rule.toJson))
  | .violations => some (.array (report.violations.map Violation.toJson))

theorem written_spells (report : Report) (field : Field) :
    Spells ((fields Document).read field) ((fields Document).absent field) (report.content field)
      (report.written field) := by
  cases field with
  | rules => exact readsAs_list Rule.toJson_readsAs report.rules
  | violations => exact readsAs_list Violation.toJson_readsAs report.violations

theorem toJson_readsAs (report : Report) : report.toJson.ReadsAs Report.read report :=
  readsAs_record fields_sound report.written_spells rfl

end Report

/-! ### The round trip -/

/-- Everything that reports and nodes are made of is read back from its compact text as it was. -/
theorem compact_text_reads_back :
    (∀ rule : Rule, Document.readText Rule.read rule.toJson.compact = .ok rule) ∧
      (∀ violation : Violation,
        Document.readText Violation.read violation.toJson.compact = .ok violation) ∧
      (∀ permissions : Permissions,
        Document.readText Permissions.read permissions.toJson.compact = .ok permissions) ∧
      (∀ node : NodeIdentity,
        Document.readText NodeIdentity.read node.toJson.compact = .ok node) ∧
      (∀ report : Report, Document.readText Report.read report.toJson.compact = .ok report) ∧
      (∀ policy : EnforcementPolicy,
        Document.readText EnforcementPolicy.read policy.toJson.compact = .ok policy) ∧
      (∀ state : RuleState,
        Document.readText RuleState.read state.toJson.compact = .ok state) := by
  refine ⟨?_, ?_, ?_, ?_, ?_, ?_, ?_⟩
  · intro rule
    exact rule.toJson_readsAs.readText
  · intro violation
    exact violation.toJson_readsAs.readText
  · intro permissions
    exact permissions.toJson_readsAs.readText
  · intro node
    exact node.toJson_readsAs.readText
  · intro report
    exact report.toJson_readsAs.readText
  · intro policy
    exact policy.toJson_readsAs.readText
  · intro state
    exact state.toJson_readsAs.readText

end ReportMerge
