/-
The figures of a merge. Hidden and visible keys are the two parts of what was
reported, so their numbers add up; the violations that may not be written are
counted among the visible ones only, whatever the hidden ones grant.
-/

import ReportMerge.Proofs.Merge.Visibility
import Mathlib.Data.Finset.Card

namespace ReportMerge

def DeniesWriting (violations : List Violation) (key : ViolationKey) : Prop :=
  ∃ violation ∈ violations, violation.key = key ∧ violation.effective.canWrite = false

instance (violations : List Violation) (key : ViolationKey) :
    Decidable (DeniesWriting violations key) :=
  inferInstanceAs (Decidable (∃ violation ∈ violations, _))

theorem deniesWriting_iff_joint {violations : List Violation} {key : ViolationKey} :
    DeniesWriting violations key ↔ (jointPermissions (ofKey key violations)).canWrite = false := by
  simp only [DeniesWriting, jointPermissions, List.all_eq_false, mem_ofKey, Bool.not_eq_true,
    and_assoc]

def reportedKeys (violations : List Violation) : Finset ViolationKey :=
  (violations.map Violation.key).toFinset

section

variable (violations : List Violation)

theorem mem_reportedKeys {key : ViolationKey} :
    key ∈ reportedKeys violations ↔ key ∈ violations.map Violation.key :=
  List.mem_toFinset

theorem length_ascending_keys :
    (ascending (violations.map Violation.key)).length = (reportedKeys violations).card := by
  rw [← List.toFinset_card_of_nodup (ascends_ascending _).nodup]
  congr 1
  ext key
  rw [List.mem_toFinset, mem_ascending, mem_reportedKeys]

theorem ascends_hiddenKeys : Ascends (hiddenKeys violations) :=
  List.Pairwise.filter _ (ascends_ascending _)

theorem disjoint_hidden_visible :
    Disjoint (hiddenKeys violations).toFinset
      ((mergedViolations violations).map Violation.key).toFinset := by
  rw [Finset.disjoint_left]
  intro key hidden visible
  rw [List.mem_toFinset, mem_hiddenKeys_iff] at hidden
  rw [List.mem_toFinset, mem_keys_mergedViolations] at visible
  exact not_hides_of_shows visible hidden

theorem hidden_union_visible :
    (hiddenKeys violations).toFinset ∪ ((mergedViolations violations).map Violation.key).toFinset =
      reportedKeys violations := by
  ext key
  rw [Finset.mem_union, List.mem_toFinset, List.mem_toFinset, mem_hiddenKeys_iff,
    mem_keys_mergedViolations, mem_reportedKeys]
  constructor
  · rintro (hides | shows)
    · exact hides.reported
    · exact shows.1
  · intro reported
    by_cases hides : Hides violations key
    · exact .inl hides
    · exact .inr (shows_of_not_hides reported hides)

theorem length_merged_add_length_hidden :
    (mergedViolations violations).length + (hiddenKeys violations).length =
      (reportedKeys violations).card := by
  have visible : (mergedViolations violations).length =
      ((ascending (violations.map Violation.key)).filter fun key =>
        (jointPermissions (ofKey key violations)).canRead).length :=
    (List.length_map Violation.key).symm.trans
      (congrArg List.length (keys_of_readableGroups violations))
  rw [visible, ← length_ascending_keys]
  exact (List.length_eq_length_filter_add _).symm

theorem countP_key_mergedViolations (test : ViolationKey → Bool) :
    (mergedViolations violations).countP (fun violation => test violation.key) =
      ((reportedKeys violations).filter fun key =>
        Shows violations key ∧ test key = true).card := by
  have distinct := (ascends_keys_of_readableGroups violations).nodup
  calc
    _ = ((mergedViolations violations).map Violation.key).countP test := List.countP_map.symm
    _ = (((mergedViolations violations).map Violation.key).filter test).toFinset.card := by
      rw [List.countP_eq_length_filter, List.toFinset_card_of_nodup (distinct.filter _)]
    _ = _ := by
      congr 1
      ext key
      rw [List.mem_toFinset, List.mem_filter, mem_keys_mergedViolations, Finset.mem_filter,
        mem_reportedKeys]
      exact ⟨fun both => ⟨both.1.1, both⟩, And.right⟩

theorem countP_unwritable :
    (mergedViolations violations).countP (fun violation => !violation.effective.canWrite) =
      ((reportedKeys violations).filter fun key =>
        Shows violations key ∧ DeniesWriting violations key).card := by
  have byKey : (mergedViolations violations).countP (fun violation =>
        !violation.effective.canWrite) =
      (mergedViolations violations).countP fun violation =>
        !(jointPermissions (ofKey violation.key violations)).canWrite := by
    apply List.countP_congr
    intro violation member
    rw [effective_of_mem_mergedViolations member]
  rw [byKey, countP_key_mergedViolations violations fun key =>
    !(jointPermissions (ofKey key violations)).canWrite]
  simp only [deniesWriting_iff_joint, Bool.not_eq_true']

theorem countP_unwritable_permissions :
    (mergedViolations violations).countP (fun violation =>
        violation.permissions.any fun rights => !rights.canWrite) =
      (mergedViolations violations).countP fun violation => !violation.effective.canWrite := by
  apply List.countP_congr
  intro violation member
  rw [permissions_of_mem_mergedViolations member, Option.any_some]

end

/-- The figures of a merge are true of its input and of its report. -/
theorem outcome_agrees_with_input_and_report (policy : MergePolicy) (mode : MergeMode)
    (client : Report) (nodes : NodeReports) (merged : Merged)
    (accepted : mode.run policy client nodes = .ok merged) :
    let records := violationsOf client nodes
    let visible := merged.report.violations.map Violation.key
    let omitted := merged.outcome.omittedUnreadable
    merged.outcome.nodes = nodes.length ∧
      merged.outcome.rules = merged.report.rules.length ∧
      merged.outcome.violations = merged.report.violations.length ∧
      Ascends omitted ∧
      (∀ key, key ∈ omitted ↔ Hides records key) ∧
      Disjoint omitted.toFinset visible.toFinset ∧
      omitted.toFinset ∪ visible.toFinset = reportedKeys records ∧
      merged.outcome.violations + omitted.length = (reportedKeys records).card ∧
      merged.outcome.writeRestricted = merged.report.violations.countP (fun violation =>
        violation.permissions.any fun rights => !rights.canWrite) ∧
      merged.outcome.writeRestricted =
        ((reportedKeys records).filter fun key =>
          Shows records key ∧ DeniesWriting records key).card := by
  intro records visible omitted
  have whole := MergeMode.ofInput_eq_of_run accepted
  subst whole
  have figures := Merged.outcome_ofInput client nodes
  have restricted : (Merged.ofInput client nodes).outcome.writeRestricted =
      (mergedViolations records).countP fun violation => !violation.effective.canWrite :=
    congrArg Outcome.writeRestricted figures
  have shown : (Merged.ofInput client nodes).outcome.violations =
      (mergedViolations records).length :=
    congrArg Outcome.violations figures
  refine ⟨rfl, rfl, shown, ascends_hiddenKeys records, fun key => mem_hiddenKeys_iff,
    disjoint_hidden_visible records, hidden_union_visible records, ?_, ?_, ?_⟩
  · rw [shown]
    exact length_merged_add_length_hidden records
  · rw [restricted]
    exact (countP_unwritable_permissions records).symm
  · rw [restricted]
    exact countP_unwritable records

/-- One node answers twice, and its records overlap with the client's. The key that is hidden also
denies writing, but it is not counted as restricted. -/
theorem figures_of_overlapping_answers :
    let client : Report := {
      rules := [.ofId "a"]
      violations := [.ofRule "c" true true, .ofRule "a" true true] }
    let node : NodeIdentity := ⟨"n", "host", 1⟩
    let nodes : NodeReports := [
      (node, {
        rules := [.ofId "b", .ofId "a"]
        violations := [.ofRule "a" true false,
          (Violation.ofRule "b" true true).withoutPermissions] }),
      (node, { violations := [.ofRule "b" true false, .ofRule "c" true true] })]
    let records := violationsOf client nodes
    ∃ merged, MergeMode.checked.run { missingPermissions := .deny } client nodes = .ok merged ∧
      merged.outcome = ⟨2, 2, 2, [⟨"b", false⟩], 1⟩ ∧
      Hides records ⟨"b", false⟩ ∧ DeniesWriting records ⟨"b", false⟩ ∧
      (reportedKeys records).card = 3 ∧
      ((reportedKeys records).filter fun key =>
        Shows records key ∧ DeniesWriting records key).card = 1 := by
  intro client node nodes records
  have accepted : MergeMode.checked.run { missingPermissions := .deny } client nodes =
      .ok (Merged.ofInput client nodes) :=
    MergeMode.run_of_described rfl (described_deny _)
  obtain ⟨_, _, _, _, omitted, _, _, sum, _, restricted⟩ :=
    outcome_agrees_with_input_and_report { missingPermissions := .deny } .checked client nodes _
      accepted
  exact ⟨_, accepted, by decide, (omitted _).mp (by decide), by decide, sum.symm.trans (by decide),
    restricted.symm.trans (by decide)⟩

end ReportMerge
