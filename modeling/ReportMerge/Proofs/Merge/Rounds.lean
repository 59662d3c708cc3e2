/-
Merging the same nodes again and again. The first merge consumes what the client
alone denies, so the second may bring violations back, with the nodes' record and
rights. A merged client denies nothing, so after the second round nothing changes.
-/

import ReportMerge.Proofs.Merge.Batches

namespace ReportMerge

/-- The client after a number of merges of the same nodes, each into what the last one left. -/
def MergeMode.rounds (mode : MergeMode) (policy : MergePolicy) (nodes : NodeReports) :
    Nat → Report → Except MergeFailure Report
  | 0, client => .ok client
  | count + 1, client => do
      let merged ← mode.run policy client nodes
      mode.rounds policy nodes count merged.report

section

variable {front back : List Violation} {key : ViolationKey}

/-- The front denies a key that the back shows. -/
def Returns (front back : List Violation) (key : ViolationKey) : Prop :=
  Hides front key ∧ Shows back key

theorem returns_iff :
    Returns front back key ↔ key ∈ hiddenKeys (front ++ back) ∧ Shows back key := by
  unfold Returns
  rw [mem_hiddenKeys_iff, hides_append]
  constructor
  · rintro ⟨hidden, shown⟩
    exact ⟨.inl hidden, shown⟩
  · rintro ⟨inFront | inBack, shown⟩
    · exact ⟨inFront, shown⟩
    · exact absurd inBack (not_hides_of_shows shown)

theorem not_hides_mergedViolations (violations : List Violation) :
    ¬Hides (mergedViolations violations) key := by
  rintro ⟨violation, member, _same, denied⟩
  have shown := mem_keys_mergedViolations.mp (List.mem_map_of_mem member)
  rw [effective_of_mem_mergedViolations member,
    jointPermissions_ofKey_canRead_iff.mpr shown.2] at denied
  cases denied

end

section

variable (front back : List Violation)

theorem mergedViolations_again :
    mergedViolations (front ++ back ++ back) = mergedViolations (front ++ back) := by
  apply eq_of_ofKey
  · exact ascends_keys_of_readableGroups _
  · exact ascends_keys_of_readableGroups _
  · intro key
    apply ofKey_mergedViolations_congr
    rw [ofKey_append, ofKey_append, standFor?_append_again]

variable {front back} {key : ViolationKey}

theorem ofKey_second_round_of_returns (returning : Returns front back key) :
    ofKey key (mergedViolations (mergedViolations (front ++ back) ++ back)) =
      ofKey key (mergedViolations back) :=
  ofKey_batches_of_hidden (front ++ back) back (returns_iff.mp returning).1

theorem ofKey_second_round (staying : ¬Returns front back key) :
    ofKey key (mergedViolations (mergedViolations (front ++ back) ++ back)) =
      ofKey key (mergedViolations (front ++ back)) := by
  by_cases hidden : key ∈ hiddenKeys (front ++ back)
  · have silent : ¬Shows back key := fun shown => staying (returns_iff.mpr ⟨hidden, shown⟩)
    rw [ofKey_batches_of_hidden (front ++ back) back hidden,
      ofKey_mergedViolations_of_hidden hidden, ofKey_mergedViolations_of_silent silent]
  · rw [ofKey_batches_of_not_hidden (front ++ back) back hidden, mergedViolations_again]

theorem returns_iff_beyond_first_round :
    Returns front back key ↔
      key ∈ (mergedViolations (mergedViolations (front ++ back) ++ back)).map Violation.key ∧
        key ∉ (mergedViolations (front ++ back)).map Violation.key := by
  rw [← ofKey_eq_nil_iff, ← not_not (a := key ∈ _), ← ofKey_eq_nil_iff]
  constructor
  · intro returning
    obtain ⟨hidden, shown⟩ := returns_iff.mp returning
    refine ⟨?_, ofKey_mergedViolations_of_hidden hidden⟩
    rw [ofKey_second_round_of_returns returning, ofKey_eq_nil_iff, not_not]
    exact mem_keys_mergedViolations.mpr shown
  · rintro ⟨held, fresh⟩
    by_contra staying
    rw [ofKey_second_round staying] at held
    exact held fresh

end

theorem firstById_again (front back : List Rule) :
    firstById (front ++ back ++ back) = firstById (front ++ back) := by
  apply firstById_congr
  intro id
  rw [firstRule?_append, firstRule?_append, Option.or_assoc, Option.or_self]

theorem report_ofInput_again (client : Report) (nodes : NodeReports) :
    (Merged.ofInput client (nodes ++ nodes)).report = (Merged.ofInput client nodes).report := by
  rw [Report.eq_iff]
  constructor
  · rw [Merged.rules_ofInput, Merged.rules_ofInput, rulesOf_batches]
    exact firstById_again client.rules (nodeRules nodes)
  · rw [violations_ofInput_batches]
    exact mergedViolations_again client.violations (nodeViolations nodes)

theorem rules_second_round (client : Report) (nodes : NodeReports) :
    (Merged.ofInput (Merged.ofInput client nodes).report nodes).report.rules =
      (Merged.ofInput client nodes).report.rules := by
  rw [rules_ofInput_batches, report_ofInput_again]

theorem violations_second_round (client : Report) (nodes : NodeReports) :
    (Merged.ofInput (Merged.ofInput client nodes).report nodes).report.violations =
      mergedViolations (mergedViolations (client.violations ++ nodeViolations nodes) ++
        nodeViolations nodes) := rfl

theorem report_second_round_iff (client : Report) (nodes : NodeReports) :
    (Merged.ofInput (Merged.ofInput client nodes).report nodes).report =
        (Merged.ofInput client nodes).report ↔
      ¬∃ key, Returns client.violations (nodeViolations nodes) key := by
  have joint := report_ofInput_batches_iff client nodes nodes
  rw [report_ofInput_again] at joint
  rw [joint, not_iff_not]
  exact exists_congr fun key => returns_iff.symm

/-! ### All further rounds -/

namespace MergeMode

variable {mode : MergeMode} {policy : MergePolicy} {client : Report} {nodes : NodeReports}

/-- A merged client has descriptors throughout, so its nodes can be merged into it again. -/
theorem run_again {first : Merged} (accepted : mode.run policy client nodes = .ok first) :
    mode.run policy first.report nodes = .ok (Merged.ofInput first.report nodes) := by
  obtain ⟨admitted, described, whole⟩ := run_eq_ok_iff.mp accepted
  subst whole
  refine run_of_described admitted (described_append.mpr ⟨?_, ?_⟩)
  · exact described_mergedViolations _ (violationsOf client nodes)
  · exact (described_append.mp described).2

theorem rounds_succ {first : Merged} (accepted : mode.run policy client nodes = .ok first)
    (count : Nat) :
    mode.rounds policy nodes (count + 1) client = mode.rounds policy nodes count first.report := by
  rw [rounds, accepted]
  rfl

theorem rounds_of_fixed {settled : Merged} (accepted : mode.run policy client nodes = .ok settled)
    (fixed : settled.report = client) (count : Nat) :
    mode.rounds policy nodes count client = .ok client := by
  induction count with
  | zero => rfl
  | succ count ih =>
      rw [rounds_succ accepted, fixed]
      exact ih

end MergeMode

/-- Two rounds settle a client. If a first merge takes place, so do all further ones, and from the
second on they leave one and the same report. It is the first one's report unless some key that
the client denies is shown by the nodes; those keys come back, with the nodes' first record and the
joint rights of the nodes' records, and all else stays as the first merge left it. -/
theorem rounds_settle_at_the_second (mode : MergeMode) (policy : MergePolicy) (client : Report)
    (nodes : NodeReports) (first : Merged)
    (accepted : mode.run policy client nodes = .ok first) :
    ∃ second, mode.run policy first.report nodes = .ok second ∧
      (∀ count, 2 ≤ count → mode.rounds policy nodes count client = .ok second.report) ∧
      (second.report = first.report ↔
        ¬∃ key, Returns client.violations (nodeViolations nodes) key) ∧
      second.report.rules = first.report.rules ∧
      (∀ key, key ∈ second.report.violations.map Violation.key ∧
          key ∉ first.report.violations.map Violation.key ↔
        Returns client.violations (nodeViolations nodes) key) ∧
      (∀ key, Returns client.violations (nodeViolations nodes) key →
        ∃ representative others,
          (nodeViolations nodes).filter (fun violation => violation.key = key) =
            representative :: others ∧
          second.report.violations.filter (fun violation => violation.key = key) =
            [representative.withPermissions (jointPermissions (representative :: others))]) ∧
      (∀ key, ¬Returns client.violations (nodeViolations nodes) key →
        second.report.violations.filter (fun violation => violation.key = key) =
          first.report.violations.filter fun violation => violation.key = key) := by
  have secondAccepted := MergeMode.run_again accepted
  have thirdAccepted := MergeMode.run_again secondAccepted
  have whole := MergeMode.ofInput_eq_of_run accepted
  subst first
  have settled : (Merged.ofInput (Merged.ofInput (Merged.ofInput client nodes).report nodes).report
      nodes).report = (Merged.ofInput (Merged.ofInput client nodes).report nodes).report := by
    rw [report_second_round_iff]
    rintro ⟨key, denied, _shown⟩
    exact not_hides_mergedViolations (violationsOf client nodes) denied
  refine ⟨_, secondAccepted, ?_, report_second_round_iff client nodes,
    rules_second_round client nodes, ?_, ?_, ?_⟩
  · intro count atLeastTwo
    obtain ⟨further, rfl⟩ := Nat.exists_eq_add_of_le' atLeastTwo
    rw [MergeMode.rounds_succ accepted, MergeMode.rounds_succ secondAccepted]
    exact MergeMode.rounds_of_fixed thirdAccepted settled further
  · intro key
    rw [violations_second_round]
    exact returns_iff_beyond_first_round.symm
  · intro key returning
    obtain ⟨representative, others, given, shown⟩ := ofKey_mergedViolations_of_shows returning.2
    rw [violations_second_round]
    exact ⟨representative, others, given, (ofKey_second_round_of_returns returning).trans shown⟩
  · intro key staying
    rw [violations_second_round]
    change ofKey key _ = ofKey key (mergedViolations (client.violations ++ nodeViolations nodes))
    exact ofKey_second_round staying

/-- The client denies one violation that the nodes show twice and another that a node denies as
well. Only the first comes back, as the node reported it first, and it stays for good. -/
theorem denied_by_client_alone_returns_for_good :
    let denied : Violation := .ofRule "r" false true
    let described : Violation := (Violation.ofRule "r" true true).withSubject "x" "subject"
    let client : Report := { violations := [denied, .ofRule "s" false true, .ofRule "t" true true] }
    let nodes : NodeReports := [
      (⟨"n", "host", 1⟩, { violations := [described, .ofRule "s" true true] }),
      (⟨"m", "host", 2⟩, { violations := [.ofRule "s" false true, .ofRule "r" true false] })]
    ∃ first second, MergeMode.promised.run {} client nodes = .ok first ∧
      MergeMode.promised.run {} first.report nodes = .ok second ∧
      MergeMode.promised.rounds {} nodes 9 client = .ok second.report ∧
      second.report ≠ first.report ∧
      second.report.violations.filter (fun violation => violation.key = ⟨"r", false⟩) =
        [described.withPermissions ⟨true, false⟩] ∧
      second.report.violations.filter (fun violation => violation.key = ⟨"s", false⟩) =
        first.report.violations.filter fun violation => violation.key = ⟨"s", false⟩ := by
  intro denied described client nodes
  have once : MergeMode.promised.run {} client nodes = .ok (Merged.ofInput client nodes) :=
    MergeMode.run_of_described rfl fun _ => by decide
  obtain ⟨second, accepted, later, same, _, _, back, others⟩ :=
    rounds_settle_at_the_second .promised {} client nodes _ once
  have returning : Returns client.violations (nodeViolations nodes) ⟨"r", false⟩ :=
    ⟨⟨denied, by decide, rfl, rfl⟩, by decide, by decide⟩
  have staying : ¬Returns client.violations (nodeViolations nodes) ⟨"s", false⟩ :=
    fun returns => absurd (returns.2.2 (.ofRule "s" false true) (by decide) rfl) (by decide)
  obtain ⟨representative, rest, given, shown⟩ := back _ returning
  cases given
  exact ⟨_, second, once, accepted, later 9 (by decide), fun equal => same.mp equal ⟨_, returning⟩,
    shown, others _ staying⟩

end ReportMerge
