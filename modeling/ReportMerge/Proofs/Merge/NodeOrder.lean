/-
The order in which the nodes are read. Where the nodes agree on what the client
does not report, no order of them shows in the merged report or in its figures.
What the client reports needs no agreement: its own copy stands in every order.
-/

import ReportMerge.Form.Report
import ReportMerge.Proofs.Merge.Batches

namespace ReportMerge

/-- Items that pass a test agree in their words, so the first of them has the same words in every
order. -/
theorem map_find?_of_perm {α β : Type} (words : α → β) {left right : List α}
    (reorder : left.Perm right) (test : α → Bool)
    (agreed : ∀ first ∈ left, ∀ second ∈ left, test first = true → test second = true →
      words first = words second) :
    (left.find? test).map words = (right.find? test).map words := by
  cases leftFound : left.find? test with
  | none =>
      have absent : right.find? test = none := by
        rw [List.find?_eq_none] at leftFound ⊢
        intro item member
        exact leftFound item (reorder.mem_iff.mpr member)
      rw [absent]
  | some first =>
      have passes : (right.find? test).isSome = true := by
        rw [List.find?_isSome]
        exact ⟨first, reorder.mem_iff.mp (List.mem_of_find?_eq_some leftFound),
          List.find?_some leftFound⟩
      rcases Option.isSome_iff_exists.mp passes with ⟨second, rightFound⟩
      have same : words first = words second :=
        agreed first (List.mem_of_find?_eq_some leftFound)
          second (reorder.mem_iff.mpr (List.mem_of_find?_eq_some rightFound))
          (List.find?_some leftFound) (List.find?_some rightFound)
      rw [rightFound, Option.map_some, Option.map_some, same]

/-- What the front holds stands in every order, so only what it lacks needs agreement. -/
theorem map_find?_append_of_perm {α β : Type} (words : α → β) (front : List α)
    {left right : List α} (reorder : left.Perm right) (test : α → Bool)
    (agreed : front.find? test = none → ∀ first ∈ left, ∀ second ∈ left,
      test first = true → test second = true → words first = words second) :
    ((front ++ left).find? test).map words = ((front ++ right).find? test).map words := by
  rw [List.find?_append, List.find?_append]
  cases found : front.find? test with
  | some item => rfl
  | none =>
      rw [Option.none_or, Option.none_or]
      exact map_find?_of_perm words reorder test (agreed found)

theorem jointPermissions_of_perm {left right : List Violation} (reorder : left.Perm right) :
    jointPermissions left = jointPermissions right := by
  unfold jointPermissions
  rw [reorder.all_eq, reorder.all_eq]

/-- Node rules that the client does not report are the same in all their copies, and node violations
that it does not report differ at most in their descriptors. -/
structure CopiesAgree (client : Report) (nodes : NodeReports) : Prop where
  rules : ∀ first ∈ nodeRules nodes, ∀ second ∈ nodeRules nodes, first.id = second.id →
    first.id ∉ client.rules.map Rule.id → first = second
  violations : ∀ first ∈ nodeViolations nodes, ∀ second ∈ nodeViolations nodes,
    first.key = second.key → first.key ∉ client.violations.map Violation.key →
      first.withoutPermissions = second.withoutPermissions

section

variable {client : Report} {nodes reordered : NodeReports} (reorder : nodes.Perm reordered)

include reorder

theorem nodeRules_perm : (nodeRules nodes).Perm (nodeRules reordered) :=
  reorder.flatMap_right _

theorem nodeViolations_perm : (nodeViolations nodes).Perm (nodeViolations reordered) :=
  reorder.flatMap_right _

theorem described_of_perm {missing : MissingPermissions} :
    Described missing (violationsOf client nodes) ↔
      Described missing (violationsOf client reordered) := by
  unfold Described violationsOf
  simp only [List.mem_append, (nodeViolations_perm reorder).mem_iff]

variable (agreed : CopiesAgree client nodes)

include agreed

theorem firstRule?_of_perm (id : String) :
    firstRule? (rulesOf client nodes) id = firstRule? (rulesOf client reordered) id := by
  have found := map_find?_append_of_perm (fun rule : Rule => rule) client.rules
    (nodeRules_perm reorder) (fun rule => rule.id = id) ?_
  · rw [Option.map_id', Option.map_id'] at found
    exact found
  · intro absent first firstMember second secondMember firstNamed secondNamed
    rw [decide_eq_true_eq] at firstNamed secondNamed
    apply agreed.rules first firstMember second secondMember
    · rw [firstNamed, secondNamed]
    · rw [firstNamed, ← firstRule?_isSome_iff, firstRule?, absent]
      exact Bool.false_ne_true

theorem standFor?_ofKey_of_perm (key : ViolationKey) :
    standFor? (ofKey key (violationsOf client nodes)) =
      standFor? (ofKey key (violationsOf client reordered)) := by
  apply standFor?_congr
  · unfold ofKey violationsOf
    rw [List.head?_filter, List.head?_filter]
    apply map_find?_append_of_perm _ _ (nodeViolations_perm reorder)
    intro absent first firstMember second secondMember firstKeyed secondKeyed
    rw [decide_eq_true_eq] at firstKeyed secondKeyed
    apply agreed.violations first firstMember second secondMember
    · rw [firstKeyed, secondKeyed]
    · rw [firstKeyed, ← ofKey_eq_nil_iff, ← List.head?_eq_none_iff, ofKey, List.head?_filter]
      exact absent
  · apply jointPermissions_of_perm
    exact ((nodeViolations_perm reorder).append_left _).filter _

end

/-- No order of the nodes shows. If the copies agree, both orders are refused, or both yield the
same report, in its fields, in the order of its lists and in its text, and the same figures. -/
theorem node_order_never_shows (policy : MergePolicy) (mode : MergeMode) (client : Report)
    (nodes reordered : NodeReports) (reorder : nodes.Perm reordered)
    (agreed : CopiesAgree client nodes) :
    (∃ left right, mode.run policy client nodes = .ok left ∧
      mode.run policy client reordered = .ok right ∧
      left.report = right.report ∧ left.report.toJson.compact = right.report.toJson.compact ∧
      left.outcome = right.outcome) ∨
    ∃ leftFailure rightFailure, mode.run policy client nodes = .error leftFailure ∧
      mode.run policy client reordered = .error rightFailure := by
  have sameCount := reorder.length_eq
  have acceptedTogether :
      mode.run policy client nodes = .ok (Merged.ofInput client nodes) ↔
        mode.run policy client reordered = .ok (Merged.ofInput client reordered) := by
    rw [MergeMode.run_eq_ok_iff, MergeMode.run_eq_ok_iff, sameCount, described_of_perm reorder]
    simp only [and_true]
  by_cases accepted : mode.run policy client nodes = .ok (Merged.ofInput client nodes)
  · obtain ⟨sameReport, sameOutcome⟩ := Merged.ofInput_congr (firstRule?_of_perm reorder agreed)
      (standFor?_ofKey_of_perm reorder agreed) sameCount
    exact .inl ⟨_, _, accepted, acceptedTogether.mp accepted, sameReport,
      congrArg (fun report => report.toJson.compact) sameReport, sameOutcome⟩
  · obtain ⟨leftFailure, leftRefused⟩ := MergeMode.run_refused accepted
    obtain ⟨rightFailure, rightRefused⟩ :=
      MergeMode.run_refused (mt acceptedTogether.mpr accepted)
    exact .inr ⟨leftFailure, rightFailure, leftRefused, rightRefused⟩

/-- Two nodes describe the client's rule and violation in different words, and they disagree on the
rights in a violation that only they report. Read in reverse they lead to the same report. -/
theorem reversed_nodes_lead_to_the_same_report :
    let shared : Violation := (Violation.ofRule "b" true true).withSubject "x" "subject"
    let own : Violation := .ofRule "a" true true
    let client : Report := {
      rules := [{ id := "a", name := some "client" }]
      violations := [own] }
    let first : NodeIdentity × Report := (⟨"n", "host", 1⟩, {
      rules := [.ofId "b", .ofId "a"]
      violations := [shared, own.withSubject "y" "first"] })
    let second : NodeIdentity × Report := (⟨"m", "host", 2⟩, {
      rules := [{ id := "a", name := some "second" }, .ofId "b"]
      violations := [own.withSubject "z" "second", shared.withPermissions ⟨true, false⟩] })
    [first, second].Perm [second, first] ∧ CopiesAgree client [first, second] ∧
      ∃ left right, MergeMode.promised.run {} client [first, second] = .ok left ∧
        MergeMode.promised.run {} client [second, first] = .ok right ∧
        left.report = right.report ∧ left.report.toJson.compact = right.report.toJson.compact ∧
        left.outcome = right.outcome := by
  intro shared own client first second
  have reorder : [first, second].Perm [second, first] := .swap second first []
  have agreed : CopiesAgree client [first, second] := ⟨by decide, by decide⟩
  have accepted : MergeMode.promised.run {} client [first, second] =
      .ok (Merged.ofInput client [first, second]) :=
    MergeMode.run_of_described rfl fun _ => by decide
  rcases node_order_never_shows {} .promised client _ _ reorder agreed with
    same | ⟨failure, _, refused, _⟩
  · exact ⟨reorder, agreed, same⟩
  · rw [accepted] at refused
    cases refused

end ReportMerge
