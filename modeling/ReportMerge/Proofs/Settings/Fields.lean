/-
The fields of settings. As with reports, each record is told field by field, and a
text is accepted when its table tells settings that meet the conditions.
-/

import ReportMerge.Settings.Document
import ReportMerge.Proofs.Reading.Records

namespace ReportMerge

namespace MergePolicy

def content (policy : MergePolicy) : (field : Field) → Content field
  | .missingPermissions => policy.missingPermissions
  | .maxNodes => policy.maxNodes

theorem fields_sound : fields.Sound where
  complete field := by cases field <;> simp [fields]
  distinct := by simp [fields]

theorem read_eq_ok_iff {value : Toml.Tree} {policy : MergePolicy} :
    read value = .ok policy ↔ fields.Tells policy.content (Readable.layer value) := by
  refine FieldTable.readRecord_eq_ok_iff fields_sound ?_ value
  intro get
  simp only [bind_eq_ok_iff]
  constructor
  · rintro ⟨_, missingPermissions, _, maxNodes, ⟨⟩⟩ field
    cases field <;> assumption
  · intro given
    exact ⟨_, given .missingPermissions, _, given .maxNodes, rfl⟩

end MergePolicy

namespace LogSettings

def content (log : LogSettings) : (field : Field) → Content field
  | .level => log.level
  | .json => log.json

theorem fields_sound : fields.Sound where
  complete field := by cases field <;> simp [fields]
  distinct := by simp [fields]

theorem read_eq_ok_iff {value : Toml.Tree} {log : LogSettings} :
    read value = .ok log ↔ fields.Tells log.content (Readable.layer value) := by
  refine FieldTable.readRecord_eq_ok_iff fields_sound ?_ value
  intro get
  simp only [bind_eq_ok_iff]
  constructor
  · rintro ⟨_, level, _, json, ⟨⟩⟩ field
    cases field <;> assumption
  · intro given
    exact ⟨_, given .level, _, given .json, rfl⟩

end LogSettings

namespace Settings

def content (settings : Settings) : (field : Field) → Content field
  | .merge => settings.merge
  | .log => settings.log

theorem fields_sound : fields.Sound where
  complete field := by cases field <;> simp [fields]
  distinct := by simp [fields]

theorem read_eq_ok_iff {value : Toml.Tree} {settings : Settings} :
    read value = .ok settings ↔ fields.Tells settings.content (Readable.layer value) := by
  refine FieldTable.readRecord_eq_ok_iff fields_sound ?_ value
  intro get
  simp only [bind_eq_ok_iff]
  constructor
  · rintro ⟨_, merge, _, log, ⟨⟩⟩ field
    cases field <;> assumption
  · intro given
    exact ⟨_, given .merge, _, given .log, rfl⟩

theorem validate_eq_ok_iff {settings : Settings} :
    settings.validate = .ok () ↔
      settings.merge.maxNodes ≠ some 0 ∧ settings.log.level.toLower ∈ levelNames := by
  unfold validate
  by_cases noneAllowed : settings.merge.maxNodes = some 0
  · simp [noneAllowed]
  · by_cases known : settings.log.level.toLower ∈ levelNames
    · simp [noneAllowed, known]
    · simp [noneAllowed, known]

theorem ofText_eq_ok_iff {text : String} {settings : Settings} :
    ofText text = .ok settings ↔
      (∃ table, Toml.tableOfText? text = some table ∧ read table = .ok settings) ∧
        settings.validate = .ok () := by
  constructor
  · intro accepted
    unfold ofText at accepted
    split at accepted
    · cases accepted
    · rename_i table taken
      split at accepted
      · cases accepted
      · rename_i found told
        split at accepted
        · cases accepted
        · rename_i valid
          cases accepted
          exact ⟨⟨table, taken, told⟩, valid⟩
  · rintro ⟨⟨table, taken, told⟩, valid⟩
    unfold ofText
    rw [taken]
    simp only [told, valid]

theorem ofText_of_invalid {text : String} {table : Toml.Tree} {settings : Settings}
    {reason : InvalidSetting} (taken : Toml.tableOfText? text = some table)
    (told : read table = .ok settings) (invalid : settings.validate = .error reason) :
    ofText text = .error (.invalid reason) := by
  unfold ofText
  rw [taken]
  simp only [told, invalid]

end Settings

end ReportMerge
