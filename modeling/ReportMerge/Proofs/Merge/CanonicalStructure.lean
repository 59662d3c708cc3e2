/-
The structure of merged reports. The lists of a merged report ascend already, so
its view is the report read line by line: nothing collapses, and two merged reports
have the same structure only if they agree at every place. Of reports in general a
view keeps the identifiers and the sightings, and nothing else.
-/

import ReportMerge.Proofs.Merge.UnionOfViews
import ReportMerge.Proofs.Merge.Visibility

namespace ReportMerge

theorem View.eq_iff {left right : View} :
    left = right ↔ left.ruleIds = right.ruleIds ∧ left.sightings = right.sightings := by
  cases left
  cases right
  simp

theorem ascending_eq_iff {α : Type} [Ord α] [Std.TransOrd α] [Std.LawfulEqOrd α] [DecidableEq α]
    {left right : List α} :
    ascending left = ascending right ↔ ∀ item, item ∈ left ↔ item ∈ right := by
  constructor
  · intro same item
    calc
      item ∈ left ↔ item ∈ ascending left := mem_ascending.symm
      _ ↔ item ∈ ascending right := by rw [same]
      _ ↔ item ∈ right := mem_ascending
  · exact ascending_congr

namespace Report

theorem sightings_view (report : Report) :
    report.view.sightings =
      ascending (report.violations.map fun violation => ⟨violation.key, violation.permissions⟩) :=
  rfl

theorem sameStructure_iff_occurs {left right : Report} :
    left.sameStructure right = true ↔
      (∀ id, id ∈ left.rules.map Rule.id ↔ id ∈ right.rules.map Rule.id) ∧
      ∀ key permissions,
        (∃ violation ∈ left.violations, violation.key = key ∧ violation.permissions = permissions) ↔
          ∃ violation ∈ right.violations,
            violation.key = key ∧ violation.permissions = permissions := by
  rw [sameStructure_iff, View.eq_iff, sightings_view, sightings_view]
  refine and_congr ascending_eq_iff (ascending_eq_iff.trans ?_)
  simp only [List.mem_map]
  constructor
  · intro same key permissions
    simpa only [Sighting.mk.injEq] using same ⟨key, permissions⟩
  · intro same sighting
    rcases sighting with ⟨key, permissions⟩
    simpa only [Sighting.mk.injEq] using same key permissions

end Report

/-- Sightings are compared by their keys first, so they ascend when the keys do. -/
theorem ascends_sightings {violations : List Violation}
    (ascends : Ascends (violations.map Violation.key)) :
    Ascends (violations.map fun violation => Sighting.mk violation.key violation.permissions) := by
  refine List.pairwise_map.mpr (List.Pairwise.imp ?_ (List.pairwise_map.mp ascends))
  intro left right before
  change (compare left.key right.key).then _ = .lt
  rw [before]
  rfl

structure Report.Canonical (report : Report) : Prop where
  rules : Ascends (report.rules.map Rule.id)
  violations : Ascends (report.violations.map Violation.key)

theorem MergeMode.canonical_of_run {mode : MergeMode} {policy : MergePolicy} {client : Report}
    {nodes : NodeReports} {merged : Merged} (accepted : mode.run policy client nodes = .ok merged) :
    merged.report.Canonical := by
  have whole := ofInput_eq_of_run accepted
  subst whole
  constructor
  · rw [Merged.rules_ofInput, map_id_firstById]
    exact ascends_ascending _
  · exact ascends_keys_of_readableGroups _

/-- Both lists are equally long in two reports, and at every place they hold rules with the same
identifier and violations with the same rule, flag and descriptor. -/
structure Report.AgreeInPlace (left right : Report) : Prop where
  ruleCount : left.rules.length = right.rules.length
  violationCount : left.violations.length = right.violations.length
  rules : ∀ index (inLeft : index < left.rules.length) (inRight : index < right.rules.length),
    left.rules[index].id = right.rules[index].id
  violations : ∀ index (inLeft : index < left.violations.length)
    (inRight : index < right.violations.length),
    left.violations[index].ruleId = right.violations[index].ruleId ∧
    left.violations[index].enabled = right.violations[index].enabled ∧
    left.violations[index].permissions = right.violations[index].permissions

theorem Report.agreeInPlace_iff {left right : Report} :
    left.AgreeInPlace right ↔
      left.rules.map Rule.id = right.rules.map Rule.id ∧
      (left.violations.map fun violation => Sighting.mk violation.key violation.permissions) =
        right.violations.map fun violation => ⟨violation.key, violation.permissions⟩ := by
  simp only [List.ext_getElem_iff, List.length_map, List.getElem_map, Sighting.mk.injEq,
    Violation.key, ViolationKey.mk.injEq, and_assoc]
  constructor
  · intro agree
    exact ⟨agree.ruleCount, agree.rules, agree.violationCount, agree.violations⟩
  · rintro ⟨ruleCount, rules, violationCount, violations⟩
    exact ⟨ruleCount, violationCount, rules, violations⟩

namespace Report.Canonical

theorem ruleIds_view {report : Report} (canonical : report.Canonical) :
    report.view.ruleIds = report.rules.map Rule.id :=
  canonical.rules.ascending_eq

theorem sightings_view {report : Report} (canonical : report.Canonical) :
    report.view.sightings =
      report.violations.map fun violation => ⟨violation.key, violation.permissions⟩ :=
  (ascends_sightings canonical.violations).ascending_eq

theorem length_view {report : Report} (canonical : report.Canonical) :
    report.view.ruleIds.length = report.rules.length ∧
      report.view.sightings.length = report.violations.length := by
  rw [canonical.ruleIds_view, canonical.sightings_view, List.length_map, List.length_map]
  exact ⟨rfl, rfl⟩

theorem sameStructure_iff_agreeInPlace {left right : Report} (leftCanonical : left.Canonical)
    (rightCanonical : right.Canonical) :
    left.sameStructure right = true ↔ left.AgreeInPlace right := by
  rw [sameStructure_iff, View.eq_iff, leftCanonical.ruleIds_view, rightCanonical.ruleIds_view,
    leftCanonical.sightings_view, rightCanonical.sightings_view, agreeInPlace_iff]

end Report.Canonical

/-- Merged reports lose nothing in their views, and have the same structure exactly when they agree
at every place. Reports in general have the same structure exactly when the same identifiers and the
same sightings occur in both. -/
theorem structure_loses_nothing_of_merged_reports :
    (∀ (leftPolicy rightPolicy : MergePolicy) (leftMode rightMode : MergeMode)
      (leftClient rightClient : Report) (leftNodes rightNodes : NodeReports) (left right : Merged),
      leftMode.run leftPolicy leftClient leftNodes = .ok left →
      rightMode.run rightPolicy rightClient rightNodes = .ok right →
      (left.report.view.ruleIds.length = left.report.rules.length ∧
        left.report.view.sightings.length = left.report.violations.length) ∧
      (right.report.view.ruleIds.length = right.report.rules.length ∧
        right.report.view.sightings.length = right.report.violations.length) ∧
      (left.report.sameStructure right.report = true ↔ left.report.AgreeInPlace right.report)) ∧
    ∀ left right : Report, left.sameStructure right = true ↔
      (∀ id, id ∈ left.rules.map Rule.id ↔ id ∈ right.rules.map Rule.id) ∧
      ∀ key permissions,
        (∃ violation ∈ left.violations, violation.key = key ∧ violation.permissions = permissions) ↔
          ∃ violation ∈ right.violations,
            violation.key = key ∧ violation.permissions = permissions := by
  constructor
  · intro leftPolicy rightPolicy leftMode rightMode leftClient rightClient leftNodes rightNodes left
      right leftAccepted rightAccepted
    have leftCanonical := MergeMode.canonical_of_run leftAccepted
    have rightCanonical := MergeMode.canonical_of_run rightAccepted
    exact ⟨leftCanonical.length_view, rightCanonical.length_view,
      leftCanonical.sameStructure_iff_agreeInPlace rightCanonical⟩
  · intro left right
    exact Report.sameStructure_iff_occurs

/-- A client's own report, in disorder and with a record twice, against what a node reports in other
words: merged under different policies they agree at every place. -/
theorem structure_of_disordered_and_reworded_reports :
    let restricted : Violation := .ofRule "b" true false
    let disordered : Report := {
      rules := [.ofId "b", .ofId "a"]
      violations := [restricted, .ofRule "a" true true, restricted] }
    let reworded : Report := {
      rules := [.ofId "a", { id := "b", name := some "other words" }]
      violations := [.ofRule "a" true true, restricted.withSubject "s" "subject"] }
    let nodes : NodeReports := [(⟨"n", "host", 1⟩, reworded)]
    disordered.sameStructure reworded = true ∧
      ∃ left right, MergeMode.promised.run {} disordered [] = .ok left ∧
        MergeMode.copied.run { missingPermissions := .deny, maxNodes := some 1 } {} nodes =
          .ok right ∧
        left.report.view.sightings.length = 2 ∧
        left.report.AgreeInPlace right.report := by
  intro restricted disordered reworded nodes
  have leftAccepted : MergeMode.promised.run {} disordered [] =
      .ok (Merged.ofInput disordered []) :=
    MergeMode.run_of_described rfl fun _ => by decide
  have rightAccepted : MergeMode.copied.run { missingPermissions := .deny, maxNodes := some 1 } {}
      nodes = .ok (Merged.ofInput {} nodes) :=
    MergeMode.run_of_described rfl (described_deny _)
  obtain ⟨ofMerged, _⟩ := structure_loses_nothing_of_merged_reports
  obtain ⟨⟨_, sightings⟩, _, structures⟩ := ofMerged
    {} { missingPermissions := .deny, maxNodes := some 1 } .promised .copied disordered {} [] nodes
    _ _ leftAccepted rightAccepted
  exact ⟨by decide, _, _, leftAccepted, rightAccepted, sightings.trans (by decide),
    structures.mp (by decide)⟩

end ReportMerge
