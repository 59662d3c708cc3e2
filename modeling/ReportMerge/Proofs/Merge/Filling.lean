/-
The two policies for missing descriptors. To let a record without a descriptor
deny everything is to refuse such records after a denial of both rights has been
filled in for each; where nothing is missing, the policies do the same.
-/

import ReportMerge.Proofs.Merge.Visibility

namespace ReportMerge

def Violation.filled (violation : Violation) : Violation :=
  match violation.permissions with
  | some _ => violation
  | none => violation.withPermissions .denyAll

/-- A report with a denial of both rights in place of each missing descriptor. -/
def Report.filled (report : Report) : Report :=
  { report with violations := report.violations.map Violation.filled }

def filledNodes (nodes : NodeReports) : NodeReports :=
  nodes.map fun (identity, report) => (identity, report.filled)

/-- What a merge leaves with its caller, the audit trail apart. -/
def Merged.received (merged : Merged) : Report × Outcome := (merged.report, merged.outcome)

namespace Violation

theorem filled_eq (violation : Violation) :
    violation.filled = violation.withPermissions violation.effective := by
  rcases violation with ⟨_, _, _, _, _, _, _, _, _, permissions⟩
  cases permissions <;> rfl

theorem key_filled (violation : Violation) : violation.filled.key = violation.key := by
  rw [filled_eq, key_withPermissions]

theorem effective_filled (violation : Violation) :
    violation.filled.effective = violation.effective := by
  rw [filled_eq, effective_withPermissions]

theorem withoutPermissions_filled (violation : Violation) :
    violation.filled.withoutPermissions = violation.withoutPermissions := by
  rw [filled_eq]
  rfl

theorem permissions_filled (violation : Violation) : violation.filled.permissions ≠ none := by
  rw [filled_eq]
  exact Option.some_ne_none _

end Violation

theorem ofKey_map_filled (key : ViolationKey) (violations : List Violation) :
    ofKey key (violations.map Violation.filled) = (ofKey key violations).map Violation.filled := by
  unfold ofKey
  rw [List.filter_map]
  congr 1
  apply List.filter_congr
  intro violation _member
  rw [Function.comp_apply, Violation.key_filled]

theorem jointPermissions_map_filled (violations : List Violation) :
    jointPermissions (violations.map Violation.filled) = jointPermissions violations := by
  induction violations with
  | nil => rfl
  | cons first others ih =>
      rw [List.map_cons, jointPermissions_cons, jointPermissions_cons,
        Violation.effective_filled, ih]

/-- The filled-in descriptor is overwritten in whatever violation stands for the others. -/
theorem standFor?_map_filled (violations : List Violation) :
    standFor? (violations.map Violation.filled) = standFor? violations := by
  apply standFor?_congr
  · cases violations with
    | nil => rfl
    | cons first others => exact congrArg some first.withoutPermissions_filled
  · exact jointPermissions_map_filled violations

section

variable (client : Report) (nodes : NodeReports)

theorem rulesOf_filled : rulesOf client.filled (filledNodes nodes) = rulesOf client nodes := by
  apply rulesOf_congr
  · rfl
  · unfold filledNodes
    rw [List.map_map]
    rfl

theorem violationsOf_filled :
    violationsOf client.filled (filledNodes nodes) =
      (violationsOf client nodes).map Violation.filled := by
  unfold violationsOf nodeViolations filledNodes
  rw [List.map_append, List.map_flatMap, List.flatMap_map]
  rfl

theorem described_filled (missing : MissingPermissions) :
    Described missing (violationsOf client.filled (filledNodes nodes)) := by
  intro _rejecting violation member
  rw [violationsOf_filled] at member
  rcases List.mem_map.mp member with ⟨original, _present, same⟩
  subst same
  exact original.permissions_filled

theorem received_ofInput_filled :
    (Merged.ofInput client nodes).received =
      (Merged.ofInput client.filled (filledNodes nodes)).received := by
  apply Prod.ext_iff.mpr
  apply Merged.ofInput_congr
  · intro id
    rw [rulesOf_filled]
  · intro key
    rw [violationsOf_filled, ofKey_map_filled, standFor?_map_filled]
  · unfold filledNodes
    rw [List.length_map]

end

/-! ### The two policies -/

theorem hides_of_bare {violations : List Violation} {violation : Violation}
    (member : violation ∈ violations) (bare : violation.permissions = none) :
    Hides violations violation.key := by
  refine ⟨violation, member, rfl, ?_⟩
  unfold Violation.effective
  rw [bare]
  rfl

/-- The policies that differ only in what they do with missing descriptors. One that denies is
refused, or yields report and figures, as one that refuses on filled input; where no descriptor is
missing, both yield the same; and neither ever shows a key with a record that has no descriptor. -/
theorem denying_is_refusing_on_filled_input (maximum : Option Nat) (mode : MergeMode)
    (client : Report) (nodes : NodeReports) :
    let deny : MergePolicy := { missingPermissions := .deny, maxNodes := maximum }
    let reject : MergePolicy := { missingPermissions := .reject, maxNodes := maximum }
    (mode.run deny client nodes).map Merged.received =
        (mode.run reject client.filled (filledNodes nodes)).map Merged.received ∧
      ((∀ violation ∈ violationsOf client nodes, violation.permissions ≠ none) →
        mode.run deny client nodes = mode.run reject client nodes) ∧
      ∀ policy : MergePolicy, ∀ merged, mode.run policy client nodes = .ok merged →
        ∀ violation ∈ violationsOf client nodes, violation.permissions = none →
          violation.key ∉ merged.report.violations.map Violation.key := by
  intro deny reject
  have sameBound (count : Nat) : mode.admits deny count = mode.admits reject count := by
    cases mode <;> rfl
  have lenient : reconcile .deny client nodes = .ok (Merged.ofInput client nodes) :=
    reconcile_eq_ok_iff.mpr ⟨described_deny _, rfl⟩
  refine ⟨?_, ?_, ?_⟩
  · have sameCount : (filledNodes nodes).length = nodes.length := List.length_map _
    rw [MergeMode.run_eq, MergeMode.run_eq, sameCount, sameBound]
    cases mode.admits reject nodes.length with
    | error failure => rfl
    | ok _ =>
        have strict : reconcile .reject client.filled (filledNodes nodes) =
            .ok (Merged.ofInput client.filled (filledNodes nodes)) :=
          reconcile_eq_ok_iff.mpr ⟨described_filled client nodes _, rfl⟩
        change (reconcile .deny client nodes).map _ = (reconcile .reject _ _).map _
        rw [lenient, strict]
        exact congrArg Except.ok (received_ofInput_filled client nodes)
  · intro complete
    have strict : reconcile .reject client nodes = .ok (Merged.ofInput client nodes) :=
      reconcile_eq_ok_iff.mpr ⟨fun _ => complete, rfl⟩
    have same : reconcile .deny client nodes = reconcile .reject client nodes :=
      lenient.trans strict.symm
    rw [MergeMode.run_eq, MergeMode.run_eq, sameBound]
    cases mode.admits reject nodes.length with
    | error failure => rfl
    | ok _ => exact same
  · intro policy merged accepted violation member bare visible
    have whole := MergeMode.ofInput_eq_of_run accepted
    subst whole
    exact not_hides_of_shows (mem_keys_mergedViolations.mp visible) (hides_of_bare member bare)

/-- A node sends one violation without a descriptor. To deny it hides its key, as a filled-in denial
does, and the client's complete violation is shown under either policy. -/
theorem bare_record_denied_as_filled :
    let bare : Violation := (Violation.ofRule "r" true true).withoutPermissions
    let client : Report := { violations := [.ofRule "r" true true, .ofRule "s" true false] }
    let nodes : NodeReports := [(⟨"n", "host", 1⟩, { violations := [bare] })]
    let deny : MergePolicy := { missingPermissions := .deny, maxNodes := some 1 }
    let reject : MergePolicy := { missingPermissions := .reject, maxNodes := some 1 }
    (MergeMode.checked.run reject client.filled (filledNodes nodes)).map Merged.received =
        .ok ({ violations := [.ofRule "s" true false] }, ⟨1, 0, 1, [⟨"r", false⟩], 1⟩) ∧
      MergeMode.checked.run deny client [] = MergeMode.checked.run reject client [] ∧
      ∃ merged, MergeMode.checked.run deny client nodes = .ok merged ∧
        bare.key ∉ merged.report.violations.map Violation.key := by
  intro bare client nodes deny reject
  obtain ⟨filled, _, hidden⟩ :=
    denying_is_refusing_on_filled_input (some 1) .checked client nodes
  obtain ⟨_, complete, _⟩ := denying_is_refusing_on_filled_input (some 1) .checked client []
  have accepted : MergeMode.checked.run deny client nodes = .ok (Merged.ofInput client nodes) :=
    MergeMode.run_of_described rfl (described_deny _)
  refine ⟨filled.symm.trans ?_, complete (by decide), _, accepted, ?_⟩
  · rw [accepted]
    decide
  · exact hidden deny _ accepted bare (by decide) rfl

end ReportMerge
