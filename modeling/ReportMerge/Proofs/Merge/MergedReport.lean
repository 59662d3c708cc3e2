/-
The merged report, rule by rule and violation by violation. Every reported
identifier keeps its first rule, whoever may read the violations of that rule.
A key keeps its first violation if every record of it can be read, and then
with the joint descriptor of them all; otherwise nothing of it is left.
-/

import ReportMerge.Proofs.Merge.ClosedForm

namespace ReportMerge

@[simp]
theorem Group.key_violation (group : Group) : group.violation.key = group.representative.key := rfl

theorem keys_of_readableGroups (violations : List Violation) :
    ((readableGroups violations).map Group.violation).map Violation.key =
      (ascending (violations.map Violation.key)).filter fun key =>
        (jointPermissions (ofKey key violations)).canRead := by
  have shown := map_readableGroups (fun key _ => key) violations
  rw [List.map_id'] at shown
  rw [List.map_map]
  exact shown

theorem ascends_keys_of_readableGroups (violations : List Violation) :
    Ascends (((readableGroups violations).map Group.violation).map Violation.key) := by
  rw [keys_of_readableGroups]
  exact List.Pairwise.filter _ (ascends_ascending _)

/-- Of a key the merged violations hold what stands for its records, if all of them can be read. -/
theorem ofKey_readableGroups (violations : List Violation) (key : ViolationKey) :
    ofKey key ((readableGroups violations).map Group.violation) =
      if (jointPermissions (ofKey key violations)).canRead then
        (standFor? (ofKey key violations)).toList
      else [] := by
  have named : ∀ other violation,
      (readableGroup? violations other).map Group.violation = some violation →
        violation.key = other := by
    intro other violation given
    rcases Option.map_eq_some_iff.mp given with ⟨group, formed, same⟩
    rw [← same, Group.key_violation]
    exact Group.key_of_of?_ofKey (readableGroup?_eq_some_iff.mp formed).1
  have held : ofKey key ((readableGroups violations).map Group.violation) =
      ((readableGroup? violations key).map Group.violation).toList := by
    unfold readableGroups
    rw [List.map_filterMap]
    by_cases reported : key ∈ violations.map Violation.key
    · exact filter_name_filterMap named _ (ascends_ascending _).nodup key
        (mem_ascending.mpr reported)
    · rw [readableGroup?_eq_none_of_not_mem reported]
      exact filter_name_filterMap_of_not_mem named _ key (mt mem_ascending.mp reported)
  rw [held]
  unfold readableGroup? standFor?
  cases formed : Group.of? (ofKey key violations) with
  | none => exact (ite_self _).symm
  | some group =>
      rw [← Group.permissions_of_of? formed, Option.filter_some]
      cases group.permissions.canRead <;> rfl

/-- The merged report in full. For each identifier there is its first rule in reading order; for
each key there is its first violation in reading order with the joint descriptor of all its
records, if each of them can be read. Both lists ascend, so neither holds anything twice. -/
theorem merged_report_in_full (policy : MergePolicy) (client : Report) (nodes : NodeReports)
    (merged : Merged) (accepted : policy.mergePromised client nodes = .ok merged) :
    Ascends (merged.report.rules.map Rule.id) ∧
    (∀ id, merged.report.rules.filter (fun rule => rule.id = id) =
      ((rulesOf client nodes).find? fun rule => rule.id = id).toList) ∧
    Ascends (merged.report.violations.map Violation.key) ∧
    (∀ key, merged.report.violations.filter (fun violation => violation.key = key) =
      match (violationsOf client nodes).filter fun violation => violation.key = key with
      | [] => []
      | first :: others =>
          if ∀ violation ∈ first :: others, violation.effective.canRead = true then
            [first.withPermissions (jointPermissions (first :: others))]
          else []) := by
  have whole : Merged.ofInput client nodes = merged := (reconcile_eq_ok_iff.mp accepted).2
  subst whole
  refine ⟨?_, ?_, ?_, ?_⟩
  · change Ascends ((firstById (rulesOf client nodes)).map Rule.id)
    rw [map_id_firstById]
    exact ascends_ascending _
  · intro id
    exact filter_id_firstById (rulesOf client nodes) id
  · exact ascends_keys_of_readableGroups (violationsOf client nodes)
  · intro key
    refine (ofKey_readableGroups (violationsOf client nodes) key).trans ?_
    change _ = match ofKey key (violationsOf client nodes) with
      | [] => []
      | first :: others => _
    cases ofKey key (violationsOf client nodes) with
    | nil => rfl
    | cons first others =>
        simp only [jointPermissions_canRead_iff, standFor?_cons, Option.toList_some]

/-- Copies that disagree: the client's rule and violation stand, a node takes the right to write
away, and a record without a descriptor hides its key. -/
theorem merged_report_of_disagreeing_copies :
    let client : Report := {
      rules := [{ id := "b", name := some "client" }]
      violations := [.ofRule "b" true true, .ofRule "a" true true] }
    let nodes : NodeReports := [(⟨"n", "host", 1⟩, {
      rules := [.ofId "b", .ofId "a"]
      violations := [(Violation.ofRule "b" true false).withSubject "s" "subject",
        (Violation.ofRule "a" true true).withoutPermissions] })]
    ∃ merged, MergePolicy.mergePromised { missingPermissions := .deny } client nodes = .ok merged ∧
      Ascends (merged.report.rules.map Rule.id) ∧
      merged.report.rules.filter (fun rule => rule.id = "b") =
        [{ id := "b", name := some "client" }] ∧
      merged.report.violations.filter (fun violation => violation.key = ⟨"b", false⟩) =
        [.ofRule "b" true false] ∧
      merged.report.violations.filter (fun violation => violation.key = ⟨"a", false⟩) = [] := by
  intro client nodes
  obtain ⟨rulesAscend, rules, _keysAscend, violations⟩ :=
    merged_report_in_full { missingPermissions := .deny } client nodes _ rfl
  exact ⟨_, rfl, rulesAscend, (rules "b").trans (by decide),
    (violations ⟨"b", false⟩).trans (by decide), (violations ⟨"a", false⟩).trans (by decide)⟩

end ReportMerge
