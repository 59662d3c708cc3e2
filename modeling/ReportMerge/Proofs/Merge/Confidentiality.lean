/-
What a reporter denies stays hidden. Two inputs that differ only in records of
keys which some reporter in each of them denies to be read lead to the same
report and the same figures. The audit trail is not part of this: it warns of
every record without a descriptor.
-/

import ReportMerge.Proofs.Merge.ClosedForm

namespace ReportMerge

/-- Some record of the key denies reading. -/
def Hides (violations : List Violation) (key : ViolationKey) : Prop :=
  ∃ violation ∈ violations, violation.key = key ∧ violation.effective.canRead = false

theorem hides_iff_joint {violations : List Violation} {key : ViolationKey} :
    Hides violations key ↔ (jointPermissions (ofKey key violations)).canRead = false := by
  rw [← Bool.not_eq_true, jointPermissions_canRead_iff]
  constructor
  · rintro ⟨violation, member, same, denied⟩ allowed
    rw [allowed violation (mem_ofKey.mpr ⟨member, same⟩)] at denied
    cases denied
  · intro refused
    obtain ⟨violation, refusal⟩ := Classical.not_forall.mp refused
    obtain ⟨member, denied⟩ := Classical.not_imp.mp refusal
    rcases mem_ofKey.mp member with ⟨present, same⟩
    exact ⟨violation, present, same, Bool.not_eq_true _ ▸ denied⟩

theorem mem_hiddenKeys_iff {violations : List Violation} {key : ViolationKey} :
    key ∈ hiddenKeys violations ↔ Hides violations key :=
  mem_hiddenKeys.trans hides_iff_joint.symm

theorem hides_append {left right : List Violation} {key : ViolationKey} :
    Hides (left ++ right) key ↔ Hides left key ∨ Hides right key := by
  unfold Hides
  simp only [List.mem_append, or_and_right, exists_or]

theorem Hides.reported {violations : List Violation} {key : ViolationKey}
    (hides : Hides violations key) : key ∈ violations.map Violation.key := by
  rcases hides with ⟨violation, member, same, _denied⟩
  exact List.mem_map.mpr ⟨violation, member, same⟩

theorem Hides.readableGroup?_eq_none {violations : List Violation} {key : ViolationKey}
    (hides : Hides violations key) : readableGroup? violations key = none := by
  rw [← Option.not_isSome_iff_eq_none, readableGroup?_isSome hides.reported,
    hides_iff_joint.mp hides]
  exact Bool.false_ne_true

section

variable {secret : ViolationKey → Prop} [DecidablePred secret]

private theorem ofKey_open {key : ViolationKey} (violations : List Violation)
    (visible : ¬secret key) :
    ofKey key (violations.filter fun violation => ¬secret violation.key) =
      ofKey key violations := by
  unfold ofKey
  rw [List.filter_filter]
  apply List.filter_congr
  intro violation _member
  by_cases same : violation.key = key
  · simp [same, visible]
  · simp [same]

end

theorem rulesOf_congr {left right : Report} {leftNodes rightNodes : NodeReports}
    (sameClient : left.rules = right.rules)
    (sameNodes : leftNodes.map (fun entry => entry.2.rules) =
      rightNodes.map fun entry => entry.2.rules) :
    rulesOf left leftNodes = rulesOf right rightNodes := by
  unfold rulesOf
  rw [sameClient]
  change _ ++ leftNodes.flatMap (fun entry => entry.2.rules) =
    _ ++ rightNodes.flatMap fun entry => entry.2.rules
  rw [List.flatMap_def, List.flatMap_def, sameNodes]

/-- Two runs of a merge cannot be told apart by what either of them hides. The records of the
secret keys may differ in number, place, description and rights, as long as each input has a
record that denies reading for every such key. -/
theorem merge_reveals_nothing_hidden (policy : MergePolicy) (mode : MergeMode)
    (secret : ViolationKey → Prop) [DecidablePred secret]
    (leftClient rightClient : Report) (leftNodes rightNodes : NodeReports)
    (left right : Merged)
    (sameClientRules : leftClient.rules = rightClient.rules)
    (sameNodeRules : leftNodes.map (fun entry => entry.2.rules) =
      rightNodes.map fun entry => entry.2.rules)
    (sameOpen :
      (violationsOf leftClient leftNodes).filter (fun violation => ¬secret violation.key) =
        (violationsOf rightClient rightNodes).filter fun violation => ¬secret violation.key)
    (leftHides : ∀ key, secret key → Hides (violationsOf leftClient leftNodes) key)
    (rightHides : ∀ key, secret key → Hides (violationsOf rightClient rightNodes) key)
    (leftAccepted : mode.run policy leftClient leftNodes = .ok left)
    (rightAccepted : mode.run policy rightClient rightNodes = .ok right) :
    left.report = right.report ∧ left.outcome = right.outcome := by
  have leftWhole := MergeMode.ofInput_eq_of_run leftAccepted
  have rightWhole := MergeMode.ofInput_eq_of_run rightAccepted
  subst left
  subst right
  -- An open key has the same records in both runs; of a secret one both runs keep nothing.
  have sameOfKey : ∀ key, ¬secret key →
      ofKey key (violationsOf leftClient leftNodes) =
        ofKey key (violationsOf rightClient rightNodes) := by
    intro key visible
    rw [← ofKey_open _ visible, sameOpen, ofKey_open _ visible]
  have sameKeys : ∀ key,
      key ∈ (violationsOf leftClient leftNodes).map Violation.key ↔
        key ∈ (violationsOf rightClient rightNodes).map Violation.key := by
    intro key
    by_cases concealed : secret key
    · exact ⟨fun _ => (rightHides key concealed).reported,
        fun _ => (leftHides key concealed).reported⟩
    · have same := sameOfKey key concealed
      rw [← not_iff_not, ← ofKey_eq_nil_iff, ← ofKey_eq_nil_iff, same]
  have sameReadable : readableGroups (violationsOf leftClient leftNodes) =
      readableGroups (violationsOf rightClient rightNodes) := by
    apply readableGroups_congr sameKeys
    intro key
    by_cases concealed : secret key
    · rw [(leftHides key concealed).readableGroup?_eq_none,
        (rightHides key concealed).readableGroup?_eq_none]
    · unfold readableGroup?
      rw [sameOfKey key concealed]
  have sameHidden : hiddenKeys (violationsOf leftClient leftNodes) =
      hiddenKeys (violationsOf rightClient rightNodes) := by
    apply hiddenKeys_congr sameKeys
    intro key
    by_cases concealed : secret key
    · rw [hides_iff_joint.mp (leftHides key concealed),
        hides_iff_joint.mp (rightHides key concealed)]
    · rw [sameOfKey key concealed]
  have sameRules := rulesOf_congr sameClientRules sameNodeRules
  have sameCount : leftNodes.length = rightNodes.length := by
    have counts := congrArg List.length sameNodeRules
    rw [List.length_map, List.length_map] at counts
    exact counts
  constructor
  · simp only [Merged.ofInput, sameReadable, sameRules]
  · simp only [Merged.ofInput, sameReadable, sameHidden, sameRules, sameCount]

/-- A node denies a described violation; in its stead the client may report the same key twice, and
a node then report it without a descriptor. Neither report tells which was the case. -/
theorem merge_reveals_nothing_of_denied_violation :
    let shared : Violation := .ofRule "open" true true
    let denied : Violation := (Violation.ofRule "closed" false true).withSubject "s" "subject"
    let granted : Violation := .ofRule "closed" true true
    let policy : MergePolicy := { missingPermissions := .deny }
    let leftNodes : NodeReports := [(⟨"n", "host", 1⟩, { violations := [denied] })]
    let rightNodes : NodeReports :=
      [(⟨"n", "host", 1⟩, { violations := [granted.withoutPermissions] })]
    ∃ left right,
      MergeMode.promised.run policy { violations := [shared] } leftNodes = .ok left ∧
      MergeMode.promised.run policy { violations := [granted, shared, granted] } rightNodes =
        .ok right ∧
      left.report = right.report ∧ left.outcome = right.outcome := by
  intro shared denied granted policy leftNodes rightNodes
  have accepted (client : Report) (nodes : NodeReports) :
      MergeMode.promised.run policy client nodes = .ok (Merged.ofInput client nodes) :=
    MergeMode.run_of_described rfl (described_deny _)
  refine ⟨_, _, accepted _ _, accepted _ _, ?_⟩
  exact merge_reveals_nothing_hidden policy .promised (fun key => key = ⟨"closed", false⟩)
    { violations := [shared] } { violations := [granted, shared, granted] } leftNodes rightNodes
    _ _ rfl rfl (by decide)
    (fun key secret => ⟨denied, by decide, secret.symm, rfl⟩)
    (fun key secret => ⟨granted.withoutPermissions, by decide, secret.symm, rfl⟩)
    (accepted _ _) (accepted _ _)

end ReportMerge
