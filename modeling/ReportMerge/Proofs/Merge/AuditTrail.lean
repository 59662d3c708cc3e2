/-
The audit trail of a merge. What has been told before a merge stays in front; then
come the records that had to be treated as denied, in the order in which they are
read, the keys that were left out, in their own order, and a summary. Each event is
known by its severity and its text.
-/

import ReportMerge.Proofs.Merge.Figures

namespace ReportMerge

/-- The records without a descriptor, in reading order. -/
def bareRecords (client : Report) (nodes : NodeReports) : List Record :=
  (recordsOf client nodes).filter fun record => record.violation.permissions.isNone

theorem filterMap_warning? (records : List Record) :
    records.filterMap Record.warning? =
      (records.filter fun record => record.violation.permissions.isNone).map fun record =>
        .treatedAsDenied record.violation.ruleId record.source := by
  rw [← List.filterMap_eq_map, ← List.filterMap_eq_filter, List.filterMap_filterMap]
  apply List.filterMap_congr
  intro record _member
  unfold Record.warning?
  cases described : record.violation.permissions <;> simp [Option.guard, described]

theorem events_ofInput (client : Report) (nodes : NodeReports) :
    let outcome := (Merged.ofInput client nodes).outcome
    (Merged.ofInput client nodes).events =
      (bareRecords client nodes).map (fun record =>
        .treatedAsDenied record.violation.ruleId record.source) ++
      outcome.omittedUnreadable.map .omitted ++
      [.merged outcome.nodes outcome.rules outcome.violations
        outcome.omittedUnreadable.length] := by
  intro outcome
  unfold bareRecords
  rw [← filterMap_warning?]
  rfl

theorem count_omitted_ofInput (client : Report) (nodes : NodeReports) (key : ViolationKey) :
    (Merged.ofInput client nodes).events.count (.omitted key) =
      if key ∈ (Merged.ofInput client nodes).outcome.omittedUnreadable then 1 else 0 := by
  have injective : Function.Injective Event.omitted := fun left right same =>
    Event.omitted.inj same
  have distinct := (ascends_hiddenKeys (violationsOf client nodes)).nodup
  rw [events_ofInput, List.count_append, List.count_append,
    List.count_map_of_injective _ _ injective, Merged.omittedUnreadable_ofInput, distinct.count]
  have warnings : List.count (Event.omitted key) ((bareRecords client nodes).map fun record =>
      Event.treatedAsDenied record.violation.ruleId record.source) = 0 := by
    rw [List.count_eq_zero, List.mem_map]
    rintro ⟨record, _, same⟩
    cases same
  rw [warnings]
  simp

theorem levels_ofInput (client : Report) (nodes : NodeReports) :
    (Merged.ofInput client nodes).events.map Event.level =
      List.replicate (bareRecords client nodes).length .warn ++
      List.replicate (Merged.ofInput client nodes).outcome.omittedUnreadable.length .debug ++
      [.info] := by
  rw [events_ofInput, List.map_append, List.map_append, List.map_map, List.map_map]
  congr 2
  · exact List.map_const' ..
  · exact List.map_const' ..

theorem deny_of_bareRecords {missing : MissingPermissions} {client : Report} {nodes : NodeReports}
    (described : Described missing (violationsOf client nodes))
    (bare : bareRecords client nodes ≠ []) : missing = .deny := by
  obtain ⟨record, member⟩ := List.exists_mem_of_ne_nil _ bare
  obtain ⟨present, absent⟩ := List.mem_filter.mp member
  cases missing with
  | deny => rfl
  | reject =>
      have reported : record.violation ∈ violationsOf client nodes := by
        rw [← recordsOf_violations]
        exact List.mem_map_of_mem present
      exact absurd (Option.isNone_iff_eq_none.mp absent) (described rfl record.violation reported)

theorem messages_ofInput (client : Report) (nodes : NodeReports) :
    let outcome := (Merged.ofInput client nodes).outcome
    (Merged.ofInput client nodes).events.map Event.message =
      (bareRecords client nodes).map (fun record =>
        "ResultMerger: violation of rule '" ++ record.violation.ruleId ++ "' from "
          ++ record.source.display ++ " has no permission descriptor, treating as denied") ++
      outcome.omittedUnreadable.map (fun key =>
        "ResultMerger: omitting unreadable violation " ++ key.display) ++
      ["ResultMerger: merged " ++ Nat.repr outcome.nodes ++ " node results ("
        ++ Nat.repr outcome.rules ++ " rules, " ++ Nat.repr outcome.violations ++ " violations, "
        ++ Nat.repr outcome.omittedUnreadable.length ++ " omitted as unreadable)"] := by
  intro outcome
  rw [events_ofInput, List.map_append, List.map_append, List.map_map, List.map_map]
  rfl

/-- The trail of a merge is exact: one warning for each record without a descriptor, in reading
order, then each omitted key once, in the order of the outcome, then the figures, each with its
severity and its text. Such records get past the policy only where it denies instead of refusing. A
merge that is refused has told nothing. -/
theorem audit_trail_of_merge (policy : MergePolicy) (mode : MergeMode) (nodes : NodeReports)
    (before : Surroundings) :
    let client := before.client
    let called := (mode.call policy nodes).after before
    (∀ merged, mode.run policy client nodes = .ok merged →
      let outcome := merged.outcome
      called.1 = .ok (mode.reply merged) ∧
      called.2.told = before.told ++ merged.events ∧
      merged.events =
        (bareRecords client nodes).map (fun record =>
          .treatedAsDenied record.violation.ruleId record.source) ++
        outcome.omittedUnreadable.map .omitted ++
        [.merged outcome.nodes outcome.rules outcome.violations
          outcome.omittedUnreadable.length] ∧
      merged.events.map Event.level =
        List.replicate (bareRecords client nodes).length .warn ++
        List.replicate outcome.omittedUnreadable.length .debug ++ [.info] ∧
      merged.events.map Event.message =
        (bareRecords client nodes).map (fun record =>
          "ResultMerger: violation of rule '" ++ record.violation.ruleId ++ "' from "
            ++ record.source.display ++ " has no permission descriptor, treating as denied") ++
        outcome.omittedUnreadable.map (fun key =>
          "ResultMerger: omitting unreadable violation " ++ key.display) ++
        ["ResultMerger: merged " ++ Nat.repr outcome.nodes ++ " node results ("
          ++ Nat.repr outcome.rules ++ " rules, " ++ Nat.repr outcome.violations
          ++ " violations, " ++ Nat.repr outcome.omittedUnreadable.length
          ++ " omitted as unreadable)"] ∧
      (bareRecords client nodes ≠ [] → policy.missingPermissions = .deny) ∧
      ∀ key, merged.events.count (.omitted key) =
        if key ∈ outcome.omittedUnreadable then 1 else 0) ∧
    ∀ failure, mode.run policy client nodes = .error failure →
      called = (.error (mode.refusal failure), before) := by
  intro client called
  have account := mode.after_call policy nodes before
  constructor
  · intro merged accepted
    rw [accepted] at account
    obtain ⟨_, described, whole⟩ := MergeMode.run_eq_ok_iff.mp accepted
    subst whole
    refine ⟨congrArg Prod.fst account, ?_, events_ofInput client nodes,
      levels_ofInput client nodes, messages_ofInput client nodes,
      deny_of_bareRecords described, count_omitted_ofInput client nodes⟩
    rw [show called = _ from account]
    cases mode <;> rfl
  · intro failure refused
    rw [refused] at account
    exact account

/-- The client and a node both send a record of one key without a descriptor: two warnings, but the
key is omitted once. Where descriptors are asked for, nothing is told at all. -/
theorem trail_of_key_denied_twice :
    let bare := (Violation.ofRule "b" true true).withoutPermissions
    let node : NodeIdentity := ⟨"n", "host", 1⟩
    let client : Report := { violations := [bare, .ofRule "a" true true] }
    let nodes : NodeReports := [(node, { rules := [.ofId "b"], violations := [bare] })]
    let before : Surroundings := { client, told := [.omitted ⟨"c", true⟩] }
    ((MergeMode.checked.call { missingPermissions := .deny } nodes).after before).2.told.map
        Event.line =
      ["DEBUG ResultMerger: omitting unreadable violation c[enabled=true]",
        "WARN ResultMerger: violation of rule 'b' from client has no permission descriptor, "
          ++ "treating as denied",
        "WARN ResultMerger: violation of rule 'b' from node n@host:1 has no permission descriptor, "
          ++ "treating as denied",
        "DEBUG ResultMerger: omitting unreadable violation b[enabled=false]",
        "INFO ResultMerger: merged 1 node results (1 rules, 1 violations, "
          ++ "1 omitted as unreadable)"] ∧
      (MergeMode.promised.call {} nodes).after before =
        (.error (.brokenPromise ⟨"flow-analysis merge precondition violated: Violation of rule "
          ++ "'b' from client has no permission descriptor"⟩), before) := by
  intro bare node client nodes before
  have accepted : MergeMode.checked.run { missingPermissions := .deny } client nodes =
      .ok (Merged.ofInput client nodes) :=
    MergeMode.run_of_described rfl (described_deny _)
  obtain ⟨trail, _⟩ := audit_trail_of_merge { missingPermissions := .deny } .checked nodes before
  obtain ⟨_, told, _⟩ := trail _ accepted
  obtain ⟨_, refused⟩ := audit_trail_of_merge {} .promised nodes before
  constructor
  · rw [told]
    decide
  · exact (refused _ rfl).trans (by decide)

end ReportMerge
