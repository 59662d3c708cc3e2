/-
What a merge shows of its records, key by key. A key is shown when it is
reported and all of its records can be read. Merged lists ascend, so two of them
are the same as soon as they agree on every key.
-/

import ReportMerge.Proofs.Merge.Confidentiality
import ReportMerge.Proofs.Merge.MergedReport

namespace ReportMerge

abbrev mergedViolations (violations : List Violation) : List Violation :=
  (readableGroups violations).map Group.violation

/-- The key is reported, and every record of it can be read. -/
def Shows (violations : List Violation) (key : ViolationKey) : Prop :=
  key ∈ violations.map Violation.key ∧
    ∀ violation ∈ violations, violation.key = key → violation.effective.canRead = true

instance (violations : List Violation) (key : ViolationKey) : Decidable (Shows violations key) :=
  inferInstanceAs (Decidable (_ ∧ _))

theorem jointPermissions_ofKey_canRead_iff {violations : List Violation} {key : ViolationKey} :
    (jointPermissions (ofKey key violations)).canRead = true ↔
      ∀ violation ∈ violations, violation.key = key → violation.effective.canRead = true := by
  rw [jointPermissions_canRead_iff]
  constructor
  · intro allowed violation member same
    exact allowed violation (mem_ofKey.mpr ⟨member, same⟩)
  · intro allowed violation member
    exact allowed violation (mem_ofKey.mp member).1 (mem_ofKey.mp member).2

theorem shows_iff {violations : List Violation} {key : ViolationKey} :
    Shows violations key ↔
      ofKey key violations ≠ [] ∧ (jointPermissions (ofKey key violations)).canRead = true := by
  unfold Shows
  rw [jointPermissions_ofKey_canRead_iff, ne_eq, ofKey_eq_nil_iff, not_not]

theorem not_hides_of_shows {violations : List Violation} {key : ViolationKey}
    (shown : Shows violations key) : ¬Hides violations key := by
  rintro ⟨violation, member, same, denied⟩
  rw [shown.2 violation member same] at denied
  cases denied

theorem shows_of_not_hides {violations : List Violation} {key : ViolationKey}
    (reported : key ∈ violations.map Violation.key) (granted : ¬Hides violations key) :
    Shows violations key := by
  refine ⟨reported, ?_⟩
  intro violation member same
  by_contra denied
  exact granted ⟨violation, member, same, Bool.not_eq_true _ ▸ denied⟩

theorem mem_keys_mergedViolations {violations : List Violation} {key : ViolationKey} :
    key ∈ (mergedViolations violations).map Violation.key ↔ Shows violations key := by
  unfold Shows
  rw [keys_of_readableGroups, List.mem_filter, mem_ascending, jointPermissions_ofKey_canRead_iff]

theorem ofKey_mergedViolations_of_hidden {violations : List Violation} {key : ViolationKey}
    (hidden : key ∈ hiddenKeys violations) : ofKey key (mergedViolations violations) = [] := by
  rw [ofKey_readableGroups, mem_hiddenKeys.mp hidden]
  rfl

theorem ofKey_mergedViolations_of_not_hidden {violations : List Violation} {key : ViolationKey}
    (visible : key ∉ hiddenKeys violations) :
    ofKey key (mergedViolations violations) = (standFor? (ofKey key violations)).toList := by
  have readable := Bool.not_eq_false _ ▸ mt mem_hiddenKeys.mpr visible
  rw [ofKey_readableGroups, if_pos readable]

theorem ofKey_mergedViolations_of_silent {violations : List Violation} {key : ViolationKey}
    (silent : ¬Shows violations key) : ofKey key (mergedViolations violations) = [] :=
  ofKey_eq_nil_iff.mpr (mt mem_keys_mergedViolations.mp silent)

theorem ofKey_mergedViolations_of_shows {violations : List Violation} {key : ViolationKey}
    (shown : Shows violations key) :
    ∃ first others, ofKey key violations = first :: others ∧
      ofKey key (mergedViolations violations) =
        [first.withPermissions (jointPermissions (first :: others))] := by
  obtain ⟨reported, readable⟩ := shows_iff.mp shown
  rcases List.exists_cons_of_ne_nil reported with ⟨first, others, given⟩
  refine ⟨first, others, given, ?_⟩
  rw [ofKey_readableGroups, if_pos readable, given]
  rfl

theorem ofKey_mergedViolations_congr {left right : List Violation} {key : ViolationKey}
    (same : standFor? (ofKey key left) = standFor? (ofKey key right)) :
    ofKey key (mergedViolations left) = ofKey key (mergedViolations right) := by
  rw [ofKey_readableGroups, ofKey_readableGroups, same, jointPermissions_of_standFor? same]

/-- Merged violations come with a descriptor. -/
theorem permissions_of_mem_mergedViolations {violations : List Violation} {violation : Violation}
    (member : violation ∈ mergedViolations violations) :
    violation.permissions = some violation.effective := by
  rcases List.mem_map.mp member with ⟨group, _, same⟩
  subst violation
  rfl

theorem effective_of_mem_mergedViolations {violations : List Violation} {violation : Violation}
    (member : violation ∈ mergedViolations violations) :
    violation.effective = jointPermissions (ofKey violation.key violations) := by
  obtain ⟨group, readable, same⟩ := List.mem_map.mp member
  obtain ⟨key, _, formed⟩ := List.mem_filterMap.mp readable
  have whole := (readableGroup?_eq_some_iff.mp formed).1
  subst violation
  rw [Group.key_violation, Group.key_of_of?_ofKey whole, ← Group.permissions_of_of? whole]
  rfl

theorem described_mergedViolations (missing : MissingPermissions) (violations : List Violation) :
    Described missing (mergedViolations violations) := by
  intro _rejecting violation member
  rw [permissions_of_mem_mergedViolations member]
  exact Option.some_ne_none _

theorem eq_of_ofKey {left right : List Violation} (leftAscends : Ascends (left.map Violation.key))
    (rightAscends : Ascends (right.map Violation.key))
    (same : ∀ key, ofKey key left = ofKey key right) : left = right := by
  apply eq_of_ascends_map leftAscends rightAscends
  intro violation
  have among (violations : List Violation) :
      violation ∈ violations ↔ violation ∈ ofKey violation.key violations := by
    rw [mem_ofKey, and_iff_left rfl]
  rw [among left, among right, same]

theorem ofKey_filter_key (keep : ViolationKey → Bool) (key : ViolationKey)
    (violations : List Violation) :
    ofKey key (violations.filter fun violation => keep violation.key) =
      if keep key then ofKey key violations else [] := by
  unfold ofKey
  rw [List.filter_filter]
  by_cases kept : keep key = true
  · rw [if_pos kept]
    apply List.filter_congr
    intro violation _member
    by_cases same : violation.key = key
    · simp [same, kept]
    · simp [same]
  · rw [if_neg kept, List.filter_eq_nil_iff]
    intro violation _member both
    obtain ⟨same, there⟩ := Bool.and_eq_true_iff.mp both
    rw [of_decide_eq_true same] at there
    exact kept there

theorem Report.eq_iff {left right : Report} :
    left = right ↔ left.rules = right.rules ∧ left.violations = right.violations := by
  cases left
  cases right
  simp

/-- A merge sees the first rule with each identifier, what stands for the records of each key, and
the number of nodes. -/
theorem Merged.ofInput_congr {leftClient rightClient : Report} {leftNodes rightNodes : NodeReports}
    (sameRules : ∀ id, firstRule? (rulesOf leftClient leftNodes) id =
      firstRule? (rulesOf rightClient rightNodes) id)
    (sameStanding : ∀ key, standFor? (ofKey key (violationsOf leftClient leftNodes)) =
      standFor? (ofKey key (violationsOf rightClient rightNodes)))
    (sameCount : leftNodes.length = rightNodes.length) :
    (ofInput leftClient leftNodes).report = (ofInput rightClient rightNodes).report ∧
      (ofInput leftClient leftNodes).outcome = (ofInput rightClient rightNodes).outcome := by
  have sameReport : (ofInput leftClient leftNodes).report =
      (ofInput rightClient rightNodes).report := by
    refine Report.eq_iff.mpr ⟨firstById_congr sameRules, ?_⟩
    apply eq_of_ofKey
    · exact ascends_keys_of_readableGroups _
    · exact ascends_keys_of_readableGroups _
    · exact fun key => ofKey_mergedViolations_congr (sameStanding key)
  have sameHidden : hiddenKeys (violationsOf leftClient leftNodes) =
      hiddenKeys (violationsOf rightClient rightNodes) := by
    apply hiddenKeys_congr
    · intro key
      rw [← not_iff_not, ← ofKey_eq_nil_iff, ← ofKey_eq_nil_iff, ← standFor?_eq_none_iff,
        ← standFor?_eq_none_iff, sameStanding]
    · intro key
      rw [jointPermissions_of_standFor? (sameStanding key)]
  refine ⟨sameReport, ?_⟩
  rw [outcome_ofInput, outcome_ofInput, sameReport, sameHidden, sameCount]

end ReportMerge
