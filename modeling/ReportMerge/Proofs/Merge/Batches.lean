/-
Merging nodes in batches and merging them at once. A merged client stands for all
records of the keys that it kept, so a further batch finds them as they were. Of
a key that the first batch left out nothing is remembered: it comes back when the
second batch reports it and denies it nowhere.
-/

import ReportMerge.Proofs.Merge.Visibility

namespace ReportMerge

def nodeRecords (nodes : NodeReports) : List Record :=
  nodes.flatMap fun (identity, report) => report.records (.node identity)

def nodeRules (nodes : NodeReports) : List Rule :=
  nodes.flatMap fun (_, report) => report.rules

section

variable (client : Report) (first second : NodeReports)

theorem recordsOf_eq (nodes : NodeReports) :
    recordsOf client nodes = client.records .client ++ nodeRecords nodes := rfl

theorem recordsOf_batches :
    recordsOf client (first ++ second) = recordsOf client first ++ nodeRecords second := by
  unfold recordsOf nodeRecords
  rw [List.flatMap_append, List.append_assoc]

theorem rulesOf_eq (nodes : NodeReports) :
    rulesOf client nodes = client.rules ++ nodeRules nodes := rfl

theorem rulesOf_batches :
    rulesOf client (first ++ second) = rulesOf client first ++ nodeRules second := by
  unfold rulesOf nodeRules
  rw [List.flatMap_append, List.append_assoc]

theorem violationsOf_batches :
    violationsOf client (first ++ second) = violationsOf client first ++ nodeViolations second := by
  unfold violationsOf nodeViolations
  rw [List.flatMap_append, List.append_assoc]

end

theorem find?_refused_mergedViolations (missing : MissingPermissions) (report : Report)
    (violations : List Violation) (whole : report.violations = mergedViolations violations) :
    (report.records .client).find? (Record.refusedUnder missing) = none := by
  rw [List.find?_eq_none]
  intro record member
  obtain ⟨violation, held, same⟩ := List.mem_map.mp member
  rw [whole] at held
  subst record
  unfold Record.refusedUnder
  rw [permissions_of_mem_mergedViolations held]
  simp

/-- What a second batch is merged into has descriptors throughout, so the first record that is
refused is the same for both ways. -/
theorem refused_batches_iff (missing : MissingPermissions) (client : Report)
    (first second : NodeReports) (failure : MergeFailure) :
    (do
      let half ← reconcile missing client first
      reconcile missing half.report second) = .error failure ↔
      reconcile missing client (first ++ second) = .error failure := by
  rw [@reconcile_eq_error_iff missing client (first ++ second), recordsOf_batches,
    List.find?_append, reconcile_eq missing client first]
  cases (recordsOf client first).find? (Record.refusedUnder missing) with
  | some record => simp [bind, Except.bind]
  | none =>
      have silent := find?_refused_mergedViolations missing
        (Merged.ofInput client first).report (violationsOf client first)
        (Merged.violations_ofInput client first)
      simp only [bind, Except.bind]
      rw [reconcile_eq_error_iff, recordsOf_eq, List.find?_append, silent]

theorem firstRule?_firstById (rules : List Rule) (id : String) :
    firstRule? (firstById rules) id = firstRule? rules id := by
  rw [firstRule?, ← List.head?_filter, filter_id_firstById]
  cases firstRule? rules id <;> rfl

theorem firstById_firstById_append (front back : List Rule) :
    firstById (firstById front ++ back) = firstById (front ++ back) := by
  apply firstById_congr
  intro id
  rw [firstRule?_append, firstRule?_append, firstRule?_firstById]

section

variable (front back : List Violation)

/-- A key that the front does not hide looks the same from what is left of the front. -/
theorem ofKey_batches_of_not_hidden {key : ViolationKey} (kept : key ∉ hiddenKeys front) :
    ofKey key (mergedViolations (mergedViolations front ++ back)) =
      ofKey key (mergedViolations (front ++ back)) := by
  apply ofKey_mergedViolations_congr
  rw [ofKey_append, ofKey_append, ofKey_mergedViolations_of_not_hidden kept]
  exact standFor?_append_congr (standFor?_standFor? _) _

/-- Of a key that the front hides, only the back counts. -/
theorem ofKey_batches_of_hidden {key : ViolationKey} (hidden : key ∈ hiddenKeys front) :
    ofKey key (mergedViolations (mergedViolations front ++ back)) =
      ofKey key (mergedViolations back) := by
  rw [ofKey_readableGroups, ofKey_readableGroups, ofKey_append,
    ofKey_mergedViolations_of_hidden hidden, List.nil_append]

theorem hidden_append_of_hidden {key : ViolationKey} (hidden : key ∈ hiddenKeys front) :
    key ∈ hiddenKeys (front ++ back) := by
  rw [mem_hiddenKeys] at hidden ⊢
  rw [ofKey_append, jointPermissions_append]
  simp only [Permissions.meet, hidden, Bool.false_and]

theorem filter_kept_batches :
    (mergedViolations (mergedViolations front ++ back)).filter
        (fun violation => violation.key ∉ hiddenKeys front) =
      mergedViolations (front ++ back) := by
  apply eq_of_ofKey
  · exact (ascends_keys_of_readableGroups _).sublist (List.filter_sublist.map _)
  · exact ascends_keys_of_readableGroups _
  · intro key
    rw [ofKey_filter_key (fun key => key ∉ hiddenKeys front)]
    by_cases hidden : key ∈ hiddenKeys front
    · rw [if_neg (by simp [hidden]),
        ofKey_mergedViolations_of_hidden (hidden_append_of_hidden front back hidden)]
    · rw [if_pos (by simp [hidden]), ofKey_batches_of_not_hidden front back hidden]

theorem mem_keys_hidden_batches {key : ViolationKey} :
    key ∈ ((mergedViolations (mergedViolations front ++ back)).filter
        (fun violation => violation.key ∈ hiddenKeys front)).map Violation.key ↔
      key ∈ hiddenKeys front ∧ Shows back key := by
  rw [← mem_keys_mergedViolations, ← not_iff_not, ← ofKey_eq_nil_iff,
    ofKey_filter_key (fun key => key ∈ hiddenKeys front)]
  by_cases hidden : key ∈ hiddenKeys front
  · rw [if_pos (by simp [hidden]), ofKey_batches_of_hidden front back hidden, ofKey_eq_nil_iff,
      and_iff_right hidden]
  · rw [if_neg (by simp [hidden])]
    simp [hidden]

theorem mergedViolations_batches_iff :
    mergedViolations (mergedViolations front ++ back) = mergedViolations (front ++ back) ↔
      ¬∃ key ∈ hiddenKeys front, Shows back key := by
  rw [← filter_kept_batches front back, eq_comm, List.filter_eq_self]
  constructor
  · rintro kept ⟨key, hidden, shown⟩
    obtain ⟨violation, member, same⟩ :=
      List.mem_map.mp ((mem_keys_hidden_batches front back).mpr ⟨hidden, shown⟩)
    have gone := of_decide_eq_true (kept violation (List.mem_of_mem_filter member))
    exact gone (same ▸ hidden)
  · intro none violation member
    rw [decide_eq_true_eq]
    intro hidden
    have returning := (mem_keys_hidden_batches front back).mp
      (List.mem_map_of_mem (List.mem_filter.mpr ⟨member, decide_eq_true hidden⟩))
    exact none ⟨violation.key, hidden, returning.2⟩

end

/-! ### Batches against one merge -/

theorem rules_ofInput_batches (client : Report) (first second : NodeReports) :
    (Merged.ofInput (Merged.ofInput client first).report second).report.rules =
      (Merged.ofInput client (first ++ second)).report.rules := by
  rw [Merged.rules_ofInput, Merged.rules_ofInput, rulesOf_eq, Merged.rules_ofInput, rulesOf_batches,
    firstById_firstById_append]

theorem violationsOf_ofInput (client : Report) (first second : NodeReports) :
    violationsOf (Merged.ofInput client first).report second =
      mergedViolations (violationsOf client first) ++ nodeViolations second := rfl

theorem violations_ofInput_batches (client : Report) (first second : NodeReports) :
    (Merged.ofInput client (first ++ second)).report.violations =
      mergedViolations (violationsOf client first ++ nodeViolations second) := by
  rw [← violationsOf_batches]
  rfl

theorem report_ofInput_batches_iff (client : Report) (first second : NodeReports) :
    (Merged.ofInput (Merged.ofInput client first).report second).report =
        (Merged.ofInput client (first ++ second)).report ↔
      ¬∃ key ∈ hiddenKeys (violationsOf client first), Shows (nodeViolations second) key := by
  rw [Report.eq_iff, and_iff_right (rules_ofInput_batches client first second),
    violations_ofInput_batches, Merged.violations_ofInput, violationsOf_ofInput]
  exact mergedViolations_batches_iff (violationsOf client first) (nodeViolations second)

/-- Both ways are refused together and for the same record. If they are not refused, both keep the
same rules and, apart from keys that the first batch hid, the same violations; what else the batches
show are the keys that the first batch hid and the second one shows. -/
theorem batches_and_joint_merge (policy : MergePolicy) (client : Report)
    (first second : NodeReports) :
    (∀ failure,
      (do
        let half ← policy.mergePromised client first
        policy.mergePromised half.report second) = .error failure ↔
      policy.mergePromised client (first ++ second) = .error failure) ∧
    (∀ half last, policy.mergePromised client first = .ok half →
      policy.mergePromised half.report second = .ok last →
      ∃ whole, policy.mergePromised client (first ++ second) = .ok whole ∧
        last.report.rules = whole.report.rules ∧
        last.report.violations.filter
          (fun violation => violation.key ∉ half.outcome.omittedUnreadable) =
            whole.report.violations ∧
        (∀ key, key ∈ (last.report.violations.filter
            (fun violation => violation.key ∈ half.outcome.omittedUnreadable)).map Violation.key ↔
          key ∈ half.outcome.omittedUnreadable ∧ Shows (nodeViolations second) key) ∧
        (last.report = whole.report ↔
          ¬∃ key ∈ half.outcome.omittedUnreadable, Shows (nodeViolations second) key)) ∧
    (∀ half, policy.mergePromised client first = .ok half →
      ∃ again, policy.mergePromised half.report [] = .ok again ∧ again.report = half.report) := by
  refine ⟨refused_batches_iff policy.missingPermissions client first second, ?_, ?_⟩
  · intro half last firstAccepted secondAccepted
    obtain ⟨firstDescribed, firstWhole⟩ := reconcile_eq_ok_iff.mp firstAccepted
    obtain ⟨secondDescribed, secondWhole⟩ := reconcile_eq_ok_iff.mp secondAccepted
    subst half last
    have described :
        Described policy.missingPermissions (violationsOf client (first ++ second)) := by
      rw [violationsOf_batches]
      exact described_append.mpr ⟨firstDescribed, (described_append.mp secondDescribed).2⟩
    refine ⟨_, reconcile_eq_ok_iff.mpr ⟨described, rfl⟩, rules_ofInput_batches client first second,
      ?_, ?_, report_ofInput_batches_iff client first second⟩
    · rw [violations_ofInput_batches, Merged.violations_ofInput, violationsOf_ofInput,
        Merged.omittedUnreadable_ofInput]
      exact filter_kept_batches (violationsOf client first) (nodeViolations second)
    · intro key
      rw [Merged.violations_ofInput, violationsOf_ofInput, Merged.omittedUnreadable_ofInput]
      exact mem_keys_hidden_batches (violationsOf client first) (nodeViolations second)
  · intro half accepted
    have whole := (reconcile_eq_ok_iff.mp accepted).2
    subst half
    have described : Described policy.missingPermissions
        (violationsOf (Merged.ofInput client first).report []) :=
      described_append.mpr ⟨described_mergedViolations _ (violationsOf client first),
        fun _ _ member => absurd member List.not_mem_nil⟩
    refine ⟨_, reconcile_eq_ok_iff.mpr ⟨described, rfl⟩, ?_⟩
    have same := (report_ofInput_batches_iff client first []).mpr
      (fun ⟨_, _, reported, _⟩ => absurd reported List.not_mem_nil)
    rw [List.append_nil] at same
    exact same

/-- The client alone denies a violation, and the first batch consumes that denial. The second batch
brings the violation back, with its own record and rights, where one merge would hide it. -/
theorem denial_consumed_between_batches :
    let client : Report := { violations := [.ofRule "r" false true, .ofRule "s" true true] }
    let first : NodeReports := [(⟨"n", "host", 1⟩, { violations := [.ofRule "r" true true] })]
    let second : NodeReports := [(⟨"m", "host", 2⟩, {
      rules := [.ofId "r"]
      violations := [(Violation.ofRule "r" true false).withSubject "x" "subject",
        .ofRule "s" true false] })]
    ∃ half last whole : Merged,
      MergePolicy.mergePromised {} client first = .ok half ∧
      MergePolicy.mergePromised {} half.report second = .ok last ∧
      MergePolicy.mergePromised {} client (first ++ second) = .ok whole ∧
      last.report.rules = whole.report.rules ∧
      last.report.violations.filter
        (fun violation => violation.key ∉ half.outcome.omittedUnreadable) =
          [.ofRule "s" true false] ∧
      ⟨"r", false⟩ ∈ last.report.violations.map Violation.key ∧
      last.report ≠ whole.report ∧
      ∃ again, MergePolicy.mergePromised {} half.report [] = .ok again ∧
        again.report = half.report := by
  intro client first second
  obtain ⟨_, staged, repeated⟩ := batches_and_joint_merge {} client first second
  obtain ⟨whole, accepted, rules, kept, returning, same⟩ := staged _ _ rfl rfl
  have wholeIs : Merged.ofInput client (first ++ second) = whole :=
    (reconcile_eq_ok_iff.mp accepted).2
  subst whole
  have hidden : (⟨"r", false⟩ : ViolationKey) ∈
      (Merged.ofInput client first).outcome.omittedUnreadable := by decide
  have shown : Shows (nodeViolations second) ⟨"r", false⟩ := by
    constructor <;> decide
  have back := (returning ⟨"r", false⟩).mpr ⟨hidden, shown⟩
  refine ⟨_, _, _, rfl, rfl, accepted, rules, kept.trans (by decide), ?_, ?_, repeated _ rfl⟩
  · exact List.Sublist.subset (List.filter_sublist.map _) back
  · intro equal
    exact same.mp equal ⟨_, hidden, shown⟩

end ReportMerge
