/-
Texts of reports and of what they hold, changed in ways that must not matter or must
not pass. The order of members, members of unknown names, blanks, and nulls in place
of missing members leave what is read as it is. A second member of a known name is
refused in every record of a text, so no descriptor can be slipped in behind another.
-/

import ReportMerge.Proofs.Form.Fields
import ReportMerge.Proofs.Json.Changes
import ReportMerge.Proofs.Json.Value

namespace ReportMerge

open Json (Document)
open Json.Document (ChangedItem NullTells ReadsIntact ReadsStably Unchanged Withstands
  intact_of_tells optional_null_eq_ok_iff readsIntact_flag readsIntact_list readsIntact_optional
  readsIntact_port readsIntact_text readsIntact_variant readsStably withstands_list
  withstands_optional withstands_record withstands_unchanged)

namespace Permissions

def Changed : Change → Document → Document → Prop :=
  Document.Changed (fields Document) (fun _ => False) (fun _ => Unchanged)

theorem read_intact : ReadsIntact Permissions.read := by
  intro document permissions result
  exact intact_of_tells fields_sound (fun _ => readsIntact_flag) (read_eq_ok_iff.mp result)

theorem read_withstands : Withstands Permissions.read Changed :=
  withstands_record fields_sound nofun (fun _ => withstands_unchanged _) read_eq_ok_iff

end Permissions

namespace NodeIdentity

def Changed : Change → Document → Document → Prop :=
  Document.Changed (fields Document) (fun _ => False) (fun _ => Unchanged)

theorem read_intact : ReadsIntact NodeIdentity.read := by
  intro document node result
  refine intact_of_tells fields_sound (fun field => ?_) (read_eq_ok_iff.mp result)
  cases field with
  | id | apiAddress => exact readsIntact_text
  | apiPort => exact readsIntact_port

theorem read_withstands : Withstands NodeIdentity.read Changed :=
  withstands_record fields_sound nofun (fun _ => withstands_unchanged _) read_eq_ok_iff

end NodeIdentity

namespace Rule

def Nullable (field : Field) : Prop := field ≠ .id

def Changed : Change → Document → Document → Prop :=
  Document.Changed (fields Document) Nullable (fun _ => Unchanged)

theorem read_intact : ReadsIntact Rule.read := by
  intro document rule result
  refine intact_of_tells fields_sound (fun field => ?_) (read_eq_ok_iff.mp result)
  cases field with
  | id => exact readsIntact_text
  | name | kind | comments => exact readsIntact_optional readsIntact_text
  | enforcementPolicy | state => exact readsIntact_optional (readsIntact_variant _)

theorem null_tells : NullTells (fields Document) Nullable := by
  intro field nullable content
  cases field with
  | id => exact absurd rfl nullable
  | name | kind | comments => exact optional_null_eq_ok_iff Readable.text
  | enforcementPolicy => exact optional_null_eq_ok_iff EnforcementPolicy.read
  | state => exact optional_null_eq_ok_iff RuleState.read

theorem read_withstands : Withstands Rule.read Changed :=
  withstands_record fields_sound null_tells (fun _ => withstands_unchanged _) read_eq_ok_iff

end Rule

namespace Violation

def Nullable (field : Field) : Prop := field ≠ .ruleId ∧ field ≠ .enabled

def ChangedWithin : Field → Change → Document → Document → Prop
  | .permissions => Permissions.Changed
  | _ => Unchanged

def Changed : Change → Document → Document → Prop :=
  Document.Changed (fields Document) Nullable ChangedWithin

theorem read_intact : ReadsIntact Violation.read := by
  intro document violation result
  refine intact_of_tells fields_sound (fun field => ?_) (read_eq_ok_iff.mp result)
  cases field with
  | ruleId => exact readsIntact_text
  | enabled => exact readsIntact_flag
  | scope | subjectId | subjectDisplayName | groupId | issueId | message =>
      exact readsIntact_optional readsIntact_text
  | enforcementPolicy => exact readsIntact_optional (readsIntact_variant _)
  | permissions => exact readsIntact_optional Permissions.read_intact

theorem null_tells : NullTells (fields Document) Nullable := by
  intro field nullable content
  cases field with
  | ruleId => exact absurd rfl nullable.1
  | enabled => exact absurd rfl nullable.2
  | scope | subjectId | subjectDisplayName | groupId | issueId | message =>
      exact optional_null_eq_ok_iff Readable.text
  | enforcementPolicy => exact optional_null_eq_ok_iff EnforcementPolicy.read
  | permissions => exact optional_null_eq_ok_iff Permissions.read

theorem read_withstands : Withstands Violation.read Changed := by
  refine withstands_record fields_sound null_tells (fun field => ?_) read_eq_ok_iff
  cases field with
  | permissions => exact withstands_optional Permissions.read_withstands Document.Changed.ne_null
  | _ => exact withstands_unchanged _

end Violation

namespace Report

def ChangedWithin : Field → Change → Document → Document → Prop
  | .rules => ChangedItem Rule.Changed
  | .violations => ChangedItem Violation.Changed

def Changed : Change → Document → Document → Prop :=
  Document.Changed (fields Document) (fun _ => False) ChangedWithin

theorem read_intact : ReadsIntact Report.read := by
  intro document report result
  refine intact_of_tells fields_sound (fun field => ?_) (read_eq_ok_iff.mp result)
  cases field with
  | rules => exact readsIntact_list Rule.read_intact
  | violations => exact readsIntact_list Violation.read_intact

theorem read_withstands : Withstands Report.read Changed := by
  refine withstands_record fields_sound nofun (fun field => ?_) read_eq_ok_iff
  cases field with
  | rules => exact withstands_list Rule.read_withstands
  | violations => exact withstands_list Violation.read_withstands

end Report

/-! ### Reading whatever the order -/

/-- Order, unknown members, blanks and nulls do not matter to any of these readers, and a repeated
member never decides. -/
theorem texts_read_whatever_the_order_of_members :
    ReadsStably Permissions.read Permissions.Changed ∧
      ReadsStably NodeIdentity.read NodeIdentity.Changed ∧
      ReadsStably Rule.read Rule.Changed ∧
      ReadsStably Violation.read Violation.Changed ∧
      ReadsStably Report.read Report.Changed := by
  refine ⟨?_, ?_, ?_, ?_, ?_⟩
  · exact readsStably Permissions.read_intact Permissions.read_withstands
  · exact readsStably NodeIdentity.read_intact NodeIdentity.read_withstands
  · exact readsStably Rule.read_intact Rule.read_withstands
  · exact readsStably Violation.read_intact Violation.read_withstands
  · exact readsStably Report.read_intact Report.read_withstands

section

open Json (Value)
open Json.Document (record)
open Json.Value (spelledBy_compact)
open Relation (ReflTransGen)

/-- A descriptor is found behind unknown members and nulls, and a second answer to one of its
questions is refused with the whole violation. -/
theorem descriptor_read_behind_unknown_members :
    let violation : Violation := { ruleId := "r", permissions := some ⟨false, true⟩ }
    let plain := Value.object [("ruleId", .text "r"), ("subjectPermissionDto",
      .object [("canRead", .flag false), ("canWrite", .flag true)])]
    let rearranged := Value.object [("unknown", .array [.null, .text ""]), ("scope", .null),
      ("subjectPermissionDto", .object [("canWrite", .flag true), ("canRead", .flag false)]),
      ("ruleId", .text "r")]
    let repeated := Value.object [("ruleId", .text "r"), ("subjectPermissionDto",
      .object [("canRead", .flag false), ("canWrite", .flag true), ("canRead", .flag true)])]
    Document.readText Violation.read plain.compact = .ok violation ∧
      Document.readText Violation.read rearranged.compact = .ok violation ∧
      ∃ fault, Document.readText Violation.read repeated.compact = .error fault := by
  intro violation plain rearranged repeated
  have plainSpelled : plain.document.SpelledBy plain.compact := spelledBy_compact rfl
  have read : Document.readText Violation.read plain.compact = .ok violation := by
    rw [plainSpelled.readText_eq]
    rfl
  obtain ⟨-, document, spells, kept, refused⟩ :=
    texts_read_whatever_the_order_of_members.2.2.2.1 plain.compact violation read
  obtain rfl := (spells _).mp plainSpelled
  let rule : String × Document := ("ruleId", .text (some "r"))
  let asked : Document := record [("canRead", .flag false), ("canWrite", .flag true)]
  let swapped : Document := record [("canWrite", .flag true), ("canRead", .flag false)]
  let extra : Document := .array [.null, .text (some "")] .closed
  refine ⟨read, kept rearranged.document _ ?_ (spelledBy_compact rfl),
    refused repeated.document _ ?_ (spelledBy_compact rfl)⟩
  · have within : Violation.Changed .rearranging
        (record [rule, ("subjectPermissionDto", asked)])
        (record [rule, ("subjectPermissionDto", swapped)]) :=
      @Document.Changed.member _ _ (Violation.fields Document) _ Violation.Nullable
        Violation.ChangedWithin _ [rule] [] .permissions _ _ (.members (.permuted (.swap _ _ _)))
    have reordered : Violation.Changed .rearranging
        (record [rule, ("subjectPermissionDto", swapped)])
        (record [("subjectPermissionDto", swapped), rule]) :=
      .members (.permuted (.swap _ _ _))
    have nulled : Violation.Changed .rearranging
        (record [("subjectPermissionDto", swapped), rule])
        (record [("scope", .null), ("subjectPermissionDto", swapped), rule]) :=
      .members (@Document.ChangedMembers.nullAdded _ _ (Violation.fields Document) _ [] _ .scope
        ⟨nofun, nofun⟩ (by simp [rule, Violation.fields]))
    have extended : Violation.Changed .rearranging
        (record [("scope", .null), ("subjectPermissionDto", swapped), rule])
        (record [("unknown", extra), ("scope", .null), ("subjectPermissionDto", swapped), rule]) :=
      .members (@Document.ChangedMembers.unknownAdded _ _ (Violation.fields Document) _ [] _ _ _
        rfl rfl)
    exact (((ReflTransGen.single within).tail reordered).tail nulled).tail extended
  · have again : Permissions.Changed .repeating asked
        (record [("canRead", .flag false), ("canWrite", .flag true), ("canRead", .flag true)]) :=
      .members (@Document.ChangedMembers.repeated _ _ (Permissions.fields Document) _ [_, _] []
        .canRead (.flag false) _ List.mem_cons_self rfl)
    exact @Document.Changed.member _ _ (Violation.fields Document) _ Violation.Nullable
      Violation.ChangedWithin _ [rule] [] .permissions _ _ again

end

end ReportMerge
