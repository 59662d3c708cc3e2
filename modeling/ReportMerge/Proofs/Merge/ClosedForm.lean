/-
The merge in closed form. What a merge yields is read off the reported rules
and violations without any fold: one rule for each identifier and one violation
for each readable key, in ascending order. Whether there is a merge at all is
a matter of descriptors and of the number of nodes.
-/

import ReportMerge.Proofs.Merge.InPlace

namespace ReportMerge

def Merged.ofInput (client : Report) (nodes : NodeReports) : Merged :=
  let rules := firstById (rulesOf client nodes)
  let readable := readableGroups (violationsOf client nodes)
  let hidden := hiddenKeys (violationsOf client nodes)
  { report := { rules, violations := readable.map Group.violation }
    outcome := {
      nodes := nodes.length
      rules := rules.length
      violations := readable.length
      omittedUnreadable := hidden
      writeRestricted := readable.countP fun group => !group.permissions.canWrite }
    events := (recordsOf client nodes).filterMap Record.warning? ++ hidden.map Event.omitted
      ++ [.merged nodes.length rules.length readable.length hidden.length] }

namespace Merged

variable (client : Report) (nodes : NodeReports)

@[simp]
theorem rules_ofInput :
    (ofInput client nodes).report.rules = firstById (rulesOf client nodes) := rfl

@[simp]
theorem violations_ofInput :
    (ofInput client nodes).report.violations =
      (readableGroups (violationsOf client nodes)).map Group.violation := rfl

@[simp]
theorem omittedUnreadable_ofInput :
    (ofInput client nodes).outcome.omittedUnreadable = hiddenKeys (violationsOf client nodes) :=
  rfl

/-- The figures are read off the merged report, the hidden keys and the number of nodes. -/
theorem outcome_ofInput :
    (ofInput client nodes).outcome =
      { nodes := nodes.length
        rules := (ofInput client nodes).report.rules.length
        violations := (ofInput client nodes).report.violations.length
        omittedUnreadable := hiddenKeys (violationsOf client nodes)
        writeRestricted := (ofInput client nodes).report.violations.countP fun violation =>
          !violation.effective.canWrite } := by
  rw [violations_ofInput, List.length_map, List.countP_map]
  rfl

end Merged

/-! ### What the work in place comes to -/

def Merged.leave (merged : Merged) (before : Surroundings) : Surroundings :=
  ⟨merged.report, before.told ++ merged.events⟩

/-- The account of a merge with a given summary: refused, it leaves all as it was. -/
def accountOf (summary : Except MergeFailure Merged) (before : Surroundings) :
    Except MergeFailure Outcome × Surroundings :=
  match summary with
  | .ok merged => (.ok merged.outcome, merged.leave before)
  | .error failure => (.error failure, before)

theorem Merging.summary_eq {work : Merging MergeFailure Outcome} {client : Report}
    {summary : Except MergeFailure Merged}
    (account : work.after { client } = accountOf summary { client }) :
    work.summary client = summary := by
  unfold Merging.summary
  rw [account]
  cases summary <;> rfl

private theorem after_reconcileInPlace_closed (missing : MissingPermissions) (nodes : NodeReports)
    (before : Surroundings) :
    (reconcileInPlace missing nodes).after before =
      accountOf (match (recordsOf before.client nodes).find? (Record.refusedUnder missing) with
        | some record => .error record.refusal
        | none => .ok (Merged.ofInput before.client nodes)) before := by
  have reading := Gathered.after_ofReports missing before.client nodes before
  unfold reconcileInPlace
  rw [Merging.after_bind_of_ok (Merging.after_client before)]
  unfold Gathered.account at reading
  cases found : (recordsOf before.client nodes).find? (Record.refusedUnder missing) with
  | some record =>
      rw [found] at reading
      exact Merging.after_bind_of_error reading
  | none =>
      rw [found] at reading
      rw [Merging.after_bind_of_ok reading, Gathered.groups_addAll,
        Merging.after_bind_of_ok (Sorted.after_foldlM_add_toList _ _), Sorted.after_conclude,
        Groups.readable_ofList, Groups.unreadableKeys_ofList]
      simp only [accountOf, Merged.leave, Merged.ofInput, Surroundings.hear, List.length_map,
        List.append_assoc]
      rfl

theorem reconcile_eq (missing : MissingPermissions) (client : Report) (nodes : NodeReports) :
    reconcile missing client nodes =
      match (recordsOf client nodes).find? (Record.refusedUnder missing) with
      | some record => .error record.refusal
      | none => .ok (Merged.ofInput client nodes) :=
  Merging.summary_eq (after_reconcileInPlace_closed missing nodes { client })

theorem after_reconcileInPlace (missing : MissingPermissions) (nodes : NodeReports)
    (before : Surroundings) :
    (reconcileInPlace missing nodes).after before =
      accountOf (reconcile missing before.client nodes) before := by
  rw [reconcile_eq]
  exact after_reconcileInPlace_closed missing nodes before

theorem reconcile_eq_ok_iff {missing : MissingPermissions} {client : Report}
    {nodes : NodeReports} {merged : Merged} :
    reconcile missing client nodes = .ok merged ↔
      Described missing (violationsOf client nodes) ∧ Merged.ofInput client nodes = merged := by
  rw [reconcile_eq, ← find?_refusedUnder_eq_none_iff]
  cases (recordsOf client nodes).find? (Record.refusedUnder missing) with
  | some record => simp
  | none => simp

theorem reconcile_eq_error_iff {missing : MissingPermissions} {client : Report}
    {nodes : NodeReports} {failure : MergeFailure} :
    reconcile missing client nodes = .error failure ↔
      ∃ record, (recordsOf client nodes).find? (Record.refusedUnder missing) = some record ∧
        record.refusal = failure := by
  rw [reconcile_eq]
  cases (recordsOf client nodes).find? (Record.refusedUnder missing) with
  | some record => simp
  | none => simp

namespace MergePolicy

def Accepts (policy : MergePolicy) (count : Nat) : Prop :=
  ∀ maximum, policy.maxNodes = some maximum → count ≤ maximum

theorem admits_of_accepts {policy : MergePolicy} {count : Nat} (accepts : policy.Accepts count) :
    policy.admits count = .ok () := by
  unfold admits
  cases bound : policy.maxNodes with
  | none => rfl
  | some maximum => exact if_neg (Nat.not_lt.mpr (accepts maximum bound))

theorem admits_of_exceeded {policy : MergePolicy} {count maximum : Nat}
    (bound : policy.maxNodes = some maximum) (exceeded : maximum < count) :
    policy.admits count = .error (.tooManyNodes count maximum) := by
  unfold admits
  rw [bound]
  exact if_pos exceeded

theorem accepts_or_exceeded (policy : MergePolicy) (count : Nat) :
    policy.Accepts count ∨ ∃ maximum, policy.maxNodes = some maximum ∧ maximum < count := by
  by_cases accepts : policy.Accepts count
  · exact .inl accepts
  · unfold Accepts at accepts
    simp only [not_forall, Nat.not_le, exists_prop] at accepts
    exact .inr accepts

variable {policy : MergePolicy} {client : Report} {nodes : NodeReports}

private theorem after_mergeInPlace_bounded (policy : MergePolicy) (nodes : NodeReports)
    (before : Surroundings) :
    (policy.mergeInPlace nodes).after before =
      accountOf (match policy.admits nodes.length with
        | .error failure => .error failure
        | .ok () => reconcile policy.missingPermissions before.client nodes) before := by
  have bound := Merging.after_ofExcept before (policy.admits nodes.length)
  unfold mergeInPlace
  cases admitted : policy.admits nodes.length with
  | error failure =>
      rw [admitted] at bound
      exact Merging.after_bind_of_error bound
  | ok _ =>
      rw [admitted] at bound
      rw [Merging.after_bind_of_ok bound]
      exact after_reconcileInPlace policy.missingPermissions nodes before

theorem merge_eq (policy : MergePolicy) (client : Report) (nodes : NodeReports) :
    policy.merge client nodes =
      match policy.admits nodes.length with
      | .error failure => .error failure
      | .ok () => reconcile policy.missingPermissions client nodes :=
  Merging.summary_eq (policy.after_mergeInPlace_bounded nodes { client })

theorem after_mergeInPlace (policy : MergePolicy) (nodes : NodeReports) (before : Surroundings) :
    (policy.mergeInPlace nodes).after before =
      accountOf (policy.merge before.client nodes) before := by
  rw [merge_eq]
  exact policy.after_mergeInPlace_bounded nodes before

theorem after_mergePromisedInPlace (policy : MergePolicy) (nodes : NodeReports)
    (before : Surroundings) :
    (policy.mergePromisedInPlace nodes).after before =
      ((accountOf (policy.mergePromised before.client nodes) before).1.mapError fun failure =>
          ⟨failure.preconditionMessage⟩,
        (accountOf (policy.mergePromised before.client nodes) before).2) := by
  unfold mergePromisedInPlace mergePromised
  rw [Merging.after_adapt, after_reconcileInPlace]

theorem after_mergeOwn (policy : MergePolicy) (own : Report) (nodes : NodeReports)
    (before : Surroundings) :
    (policy.mergeOwn own nodes).after before =
      match policy.merge own nodes with
      | .ok merged => (.ok merged.report, before.hear merged.events)
      | .error failure => (.error failure, before) := by
  have inPlace := policy.after_mergeInPlace nodes { before with client := own }
  unfold mergeOwn
  rw [Merging.after_onOwn]
  cases answer : policy.merge own nodes with
  | error failure =>
      rw [answer] at inPlace
      rw [Merging.after_bind_of_error inPlace]
  | ok merged =>
      rw [answer] at inPlace
      rw [Merging.after_bind_of_ok inPlace]
      rfl

theorem merge_of_accepts (accepts : policy.Accepts nodes.length) :
    policy.merge client nodes = policy.mergePromised client nodes := by
  rw [merge_eq, admits_of_accepts accepts]
  rfl

theorem merge_of_exceeded {maximum : Nat} (bound : policy.maxNodes = some maximum)
    (exceeded : maximum < nodes.length) :
    policy.merge client nodes = .error (.tooManyNodes nodes.length maximum) := by
  rw [merge_eq, admits_of_exceeded bound exceeded]

theorem merge_eq_ok_iff {merged : Merged} :
    policy.merge client nodes = .ok merged ↔
      policy.Accepts nodes.length ∧ policy.mergePromised client nodes = .ok merged := by
  rcases policy.accepts_or_exceeded nodes.length with accepts | ⟨maximum, bound, exceeded⟩
  · rw [merge_of_accepts accepts, and_iff_right accepts]
  · rw [merge_of_exceeded bound exceeded]
    constructor
    · intro impossible
      cases impossible
    · rintro ⟨accepts, _⟩
      exact absurd (accepts maximum bound) (Nat.not_le.mpr exceeded)

end MergePolicy

/-! ### One equation for all ways to merge -/

namespace MergeMode

/-- The bound on nodes, for the ways to merge that have one. -/
def admits (mode : MergeMode) (policy : MergePolicy) (count : Nat) : Except MergeFailure Unit :=
  match mode with
  | .promised => .ok ()
  | .checked | .copied => policy.admits count

theorem run_eq (mode : MergeMode) (policy : MergePolicy) (client : Report) (nodes : NodeReports) :
    mode.run policy client nodes =
      match mode.admits policy nodes.length with
      | .error failure => .error failure
      | .ok () => reconcile policy.missingPermissions client nodes := by
  cases mode with
  | promised => rfl
  | checked | copied => exact policy.merge_eq client nodes

/-- Beyond the bound of a policy the number of nodes is refused, by the ways to merge that have a
bound, and nothing else is refused for it. -/
theorem run_eq_tooManyNodes_iff {mode : MergeMode} {policy : MergePolicy} {client : Report}
    {nodes : NodeReports} {count maximum : Nat} :
    mode.run policy client nodes = .error (.tooManyNodes count maximum) ↔
      mode ≠ .promised ∧ policy.maxNodes = some maximum ∧ count = nodes.length ∧
        maximum < nodes.length := by
  have notMissing : reconcile policy.missingPermissions client nodes ≠
      .error (.tooManyNodes count maximum) := by
    intro impossible
    obtain ⟨record, _, named⟩ := reconcile_eq_error_iff.mp impossible
    cases named
  have bounded : policy.merge client nodes = .error (.tooManyNodes count maximum) ↔
      policy.maxNodes = some maximum ∧ count = nodes.length ∧ maximum < nodes.length := by
    constructor
    · intro refused
      rcases policy.accepts_or_exceeded nodes.length with accepts | ⟨bound, given, exceeded⟩
      · rw [MergePolicy.merge_of_accepts accepts] at refused
        exact absurd refused notMissing
      · rw [MergePolicy.merge_of_exceeded given exceeded] at refused
        cases refused
        exact ⟨given, rfl, exceeded⟩
    · rintro ⟨bound, rfl, exceeded⟩
      exact MergePolicy.merge_of_exceeded bound exceeded
  cases mode with
  | promised => exact iff_of_false notMissing fun unbounded => unbounded.1 rfl
  | checked | copied =>
      refine bounded.trans (and_iff_right ?_).symm
      intro impossible
      cases impossible

theorem run_eq_ok_iff {mode : MergeMode} {policy : MergePolicy} {client : Report}
    {nodes : NodeReports} {merged : Merged} :
    mode.run policy client nodes = .ok merged ↔
      mode.admits policy nodes.length = .ok () ∧
        Described policy.missingPermissions (violationsOf client nodes) ∧
        Merged.ofInput client nodes = merged := by
  rw [run_eq, ← reconcile_eq_ok_iff]
  cases mode.admits policy nodes.length with
  | error failure =>
      constructor
      · intro impossible
        cases impossible
      · rintro ⟨impossible, _⟩
        cases impossible
  | ok _ => exact (and_iff_right rfl).symm

theorem run_of_described {mode : MergeMode} {policy : MergePolicy} {client : Report}
    {nodes : NodeReports} (admitted : mode.admits policy nodes.length = .ok ())
    (described : Described policy.missingPermissions (violationsOf client nodes)) :
    mode.run policy client nodes = .ok (Merged.ofInput client nodes) :=
  run_eq_ok_iff.mpr ⟨admitted, described, rfl⟩

/-- All ways to merge agree on what they yield. -/
theorem ofInput_eq_of_run {mode : MergeMode} {policy : MergePolicy} {client : Report}
    {nodes : NodeReports} {merged : Merged} (accepted : mode.run policy client nodes = .ok merged) :
    Merged.ofInput client nodes = merged :=
  (run_eq_ok_iff.mp accepted).2.2

theorem run_refused {mode : MergeMode} {policy : MergePolicy} {client : Report}
    {nodes : NodeReports}
    (refused : mode.run policy client nodes ≠ .ok (Merged.ofInput client nodes)) :
    ∃ failure, mode.run policy client nodes = .error failure := by
  cases answer : mode.run policy client nodes with
  | error failure => exact ⟨failure, rfl⟩
  | ok merged =>
      rw [answer, ofInput_eq_of_run answer] at refused
      exact absurd rfl refused

/-- A bound that lets some nodes through lets fewer nodes through. -/
theorem admits_of_le {mode : MergeMode} {policy : MergePolicy} {fewer more : Nat}
    (less : fewer ≤ more) (admitted : mode.admits policy more = .ok ()) :
    mode.admits policy fewer = .ok () := by
  cases mode with
  | promised => rfl
  | checked | copied =>
      apply MergePolicy.admits_of_accepts
      rcases policy.accepts_or_exceeded more with accepts | ⟨maximum, bound, exceeded⟩
      · intro maximum bound
        exact less.trans (accepts maximum bound)
      · change policy.admits more = .ok () at admitted
        rw [MergePolicy.admits_of_exceeded bound exceeded] at admitted
        cases admitted

def reply (mode : MergeMode) (merged : Merged) : MergeReply :=
  match mode with
  | .checked | .promised => .outcome merged.outcome
  | .copied => .report merged.report

def refusal (mode : MergeMode) (failure : MergeFailure) : MergeRefusal :=
  match mode with
  | .promised => .brokenPromise ⟨failure.preconditionMessage⟩
  | .checked | .copied => .failure failure

def leave (mode : MergeMode) (merged : Merged) (before : Surroundings) : Surroundings :=
  match mode with
  | .checked | .promised => merged.leave before
  | .copied => before.hear merged.events

theorem after_call (mode : MergeMode) (policy : MergePolicy) (nodes : NodeReports)
    (before : Surroundings) :
    (mode.call policy nodes).after before =
      match mode.run policy before.client nodes with
      | .ok merged => (.ok (mode.reply merged), mode.leave merged before)
      | .error failure => (.error (mode.refusal failure), before) := by
  cases mode with
  | checked =>
      unfold call run
      rw [Merging.after_map, Merging.after_adapt, MergePolicy.after_mergeInPlace]
      cases policy.merge before.client nodes <;> rfl
  | promised =>
      unfold call run
      rw [Merging.after_map, Merging.after_adapt, MergePolicy.after_mergePromisedInPlace]
      cases policy.mergePromised before.client nodes <;> rfl
  | copied =>
      unfold call run
      rw [Merging.after_bind_of_ok (Merging.after_client before), Merging.after_map,
        Merging.after_adapt, MergePolicy.after_mergeOwn]
      cases policy.merge before.client nodes <;> rfl

end MergeMode

/-! ### The merged rules -/

theorem map_id_firstById (rules : List Rule) :
    (firstById rules).map Rule.id = ascending (rules.map Rule.id) := by
  rw [firstById_eq, map_name_filterMap fun _ _ => id_of_firstRule?]
  apply List.filter_eq_self.mpr
  intro id member
  exact firstRule?_isSome_iff.mpr (mem_ascending.mp member)

theorem filter_id_firstById (rules : List Rule) (id : String) :
    (firstById rules).filter (fun rule => rule.id = id) = (firstRule? rules id).toList := by
  rw [firstById_eq]
  by_cases present : id ∈ ascending (rules.map Rule.id)
  · exact filter_name_filterMap (fun _ _ => id_of_firstRule?) _ (ascends_ascending _).nodup id
      present
  · rw [filter_name_filterMap_of_not_mem (fun _ _ => id_of_firstRule?) _ id present]
    have unknown : firstRule? rules id = none := by
      rw [← Option.not_isSome_iff_eq_none, firstRule?_isSome_iff, ← mem_ascending]
      exact present
    rw [unknown]
    rfl

/-! ### The merged violations -/

theorem readableGroup?_eq_some_iff {violations : List Violation} {key : ViolationKey}
    {group : Group} :
    readableGroup? violations key = some group ↔
      Group.of? (ofKey key violations) = some group ∧ group.permissions.canRead = true :=
  Option.filter_eq_some_iff

theorem readableGroup?_isSome {violations : List Violation} {key : ViolationKey}
    (reported : key ∈ violations.map Violation.key) :
    (readableGroup? violations key).isSome = (jointPermissions (ofKey key violations)).canRead := by
  unfold readableGroup?
  cases formed : Group.of? (ofKey key violations) with
  | none => exact absurd reported (ofKey_eq_nil_iff.mp (Group.of?_eq_none_iff.mp formed))
  | some group =>
      rw [← Group.permissions_of_of? formed, Option.filter_some]
      cases group.permissions.canRead <;> rfl

theorem readableGroup?_eq_none_of_not_mem {violations : List Violation} {key : ViolationKey}
    (silent : key ∉ violations.map Violation.key) : readableGroup? violations key = none := by
  unfold readableGroup?
  rw [Group.of?_eq_none_iff.mpr (ofKey_eq_nil_iff.mpr silent)]
  rfl

/-- The readable groups show the reported keys that no record hides, each with the joint
descriptor of its records. -/
theorem map_readableGroups {γ : Type} (look : ViolationKey → Permissions → γ)
    (violations : List Violation) :
    (readableGroups violations).map (fun group => look group.representative.key group.permissions) =
      ((ascending (violations.map Violation.key)).filter fun key =>
        (jointPermissions (ofKey key violations)).canRead).map fun key =>
          look key (jointPermissions (ofKey key violations)) := by
  have inStep : ∀ key group, readableGroup? violations key = some group →
      look group.representative.key group.permissions =
        look key (jointPermissions (ofKey key violations)) := by
    intro key group formed
    have whole := (readableGroup?_eq_some_iff.mp formed).1
    rw [Group.key_of_of?_ofKey whole, Group.permissions_of_of? whole]
  unfold readableGroups
  rw [map_filterMap_of_label inStep]
  congr 1
  apply List.filter_congr
  intro key member
  exact readableGroup?_isSome (mem_ascending.mp member)

theorem mem_hiddenKeys {violations : List Violation} {key : ViolationKey} :
    key ∈ hiddenKeys violations ↔ (jointPermissions (ofKey key violations)).canRead = false := by
  unfold hiddenKeys
  rw [List.mem_filter, mem_ascending, Bool.not_eq_true']
  constructor
  · exact And.right
  · intro denied
    refine ⟨?_, denied⟩
    by_contra silent
    rw [ofKey_eq_nil_iff.mpr silent] at denied
    cases denied

theorem firstById_congr {left right : List Rule}
    (same : ∀ id, firstRule? left id = firstRule? right id) : firstById left = firstById right := by
  have sameIds : ascending (left.map Rule.id) = ascending (right.map Rule.id) := by
    apply ascending_congr
    intro id
    rw [← firstRule?_isSome_iff, ← firstRule?_isSome_iff, same]
  rw [firstById_eq, firstById_eq, sameIds]
  exact List.filterMap_congr fun id _member => same id

theorem readableGroups_congr {left right : List Violation}
    (sameKeys : ∀ key, key ∈ left.map Violation.key ↔ key ∈ right.map Violation.key)
    (sameGroups : ∀ key, readableGroup? left key = readableGroup? right key) :
    readableGroups left = readableGroups right := by
  unfold readableGroups
  rw [ascending_congr sameKeys]
  exact List.filterMap_congr fun key _member => sameGroups key

theorem hiddenKeys_congr {left right : List Violation}
    (sameKeys : ∀ key, key ∈ left.map Violation.key ↔ key ∈ right.map Violation.key)
    (sameRights : ∀ key, (jointPermissions (ofKey key left)).canRead =
      (jointPermissions (ofKey key right)).canRead) :
    hiddenKeys left = hiddenKeys right := by
  unfold hiddenKeys
  rw [ascending_congr sameKeys]
  exact List.filter_congr fun key _member => congrArg not (sameRights key)

end ReportMerge
