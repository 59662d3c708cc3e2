/-
Further reports can only restrict. Where rules, violations and whole node reports
are put into an input, at any places, a key that was reported before is shown
afterwards only if it was shown before, and with no right that it did not have.
Keys of which nothing was put in are not touched: silence denies nothing.
-/

import ReportMerge.Proofs.Merge.Visibility
import Mathlib.Data.List.Forall2

namespace ReportMerge

def Permissions.AtMost (left right : Permissions) : Prop :=
  (left.canRead = true → right.canRead = true) ∧ (left.canWrite = true → right.canWrite = true)

structure Report.Within (smaller larger : Report) : Prop where
  rules : smaller.rules.Sublist larger.rules
  violations : smaller.violations.Sublist larger.violations

/-- The larger input has further rules and violations in its reports and further nodes among those
of the smaller one. -/
structure InputWithin (client : Report) (nodes : NodeReports) (largerClient : Report)
    (largerNodes : NodeReports) : Prop where
  client : client.Within largerClient
  nodes : List.SublistForall₂
    (fun smaller larger => smaller.1 = larger.1 ∧ smaller.2.Within larger.2) nodes largerNodes

theorem flatMap_sublist {α β : Type} {related : α → α → Prop} {smaller larger : List α}
    (parts : α → List β) (within : List.SublistForall₂ related smaller larger)
    (grows : ∀ left right, related left right → (parts left).Sublist (parts right)) :
    (smaller.flatMap parts).Sublist (larger.flatMap parts) := by
  induction within with
  | nil => exact List.nil_sublist _
  | cons head _tail ih =>
      rw [List.flatMap_cons, List.flatMap_cons]
      exact (grows _ _ head).append ih
  | cons_right _tail ih =>
      rw [List.flatMap_cons]
      exact ih.trans (List.sublist_append_right _ _)

namespace InputWithin

variable {client largerClient : Report} {nodes largerNodes : NodeReports}
  (within : InputWithin client nodes largerClient largerNodes)

include within

theorem rulesOf_sublist : (rulesOf client nodes).Sublist (rulesOf largerClient largerNodes) :=
  within.client.rules.append
    (flatMap_sublist _ within.nodes fun _ _ related => related.2.rules)

theorem violationsOf_sublist :
    (violationsOf client nodes).Sublist (violationsOf largerClient largerNodes) :=
  within.client.violations.append
    (flatMap_sublist _ within.nodes fun _ _ related => related.2.violations)

theorem length_le : nodes.length ≤ largerNodes.length := by
  obtain ⟨counterparts, related, among⟩ := List.sublistForall₂_iff.mp within.nodes
  rw [related.length_eq]
  exact among.length_le

/-- Whatever lets the larger input through lets the smaller one through. -/
theorem run_ok {mode : MergeMode} {policy : MergePolicy} {more : Merged}
    (accepted : mode.run policy largerClient largerNodes = .ok more) :
    mode.run policy client nodes = .ok (Merged.ofInput client nodes) := by
  obtain ⟨admitted, described, _⟩ := MergeMode.run_eq_ok_iff.mp accepted
  refine MergeMode.run_of_described (MergeMode.admits_of_le within.length_le admitted) ?_
  intro rejecting violation member
  exact described rejecting violation (within.violationsOf_sublist.subset member)

end InputWithin

section

variable {smaller larger : List Violation} (within : smaller.Sublist larger)

include within

theorem jointPermissions_atMost : (jointPermissions larger).AtMost (jointPermissions smaller) := by
  constructor
  · intro granted
    exact List.all_eq_true.mpr fun violation member =>
      List.all_eq_true.mp granted violation (within.subset member)
  · intro granted
    exact List.all_eq_true.mpr fun violation member =>
      List.all_eq_true.mp granted violation (within.subset member)

theorem ofKey_sublist (key : ViolationKey) : (ofKey key smaller).Sublist (ofKey key larger) :=
  within.filter _

theorem hiddenKeys_of_sublist {key : ViolationKey} (hidden : key ∈ hiddenKeys smaller) :
    key ∈ hiddenKeys larger := by
  rw [mem_hiddenKeys] at hidden ⊢
  rw [← Bool.not_eq_true] at hidden ⊢
  exact mt (jointPermissions_atMost (ofKey_sublist within key)).1 hidden

theorem shows_of_sublist {key : ViolationKey} (shown : Shows larger key)
    (reported : key ∈ smaller.map Violation.key) : Shows smaller key :=
  ⟨reported, fun violation member => shown.2 violation (within.subset member)⟩

/-- A key that is shown with all records was shown with some of them, and with no less rights. -/
theorem former_of_mem_mergedViolations {violation : Violation}
    (member : violation ∈ mergedViolations larger)
    (reported : violation.key ∈ smaller.map Violation.key) :
    ∃ former ∈ mergedViolations smaller, former.key = violation.key ∧
      violation.effective.AtMost former.effective := by
  have shown := mem_keys_mergedViolations.mp (List.mem_map_of_mem member)
  obtain ⟨former, held, same⟩ :=
    List.mem_map.mp (mem_keys_mergedViolations.mpr (shows_of_sublist within shown reported))
  refine ⟨former, held, same, ?_⟩
  rw [effective_of_mem_mergedViolations member, effective_of_mem_mergedViolations held, same]
  exact jointPermissions_atMost (ofKey_sublist within violation.key)

/-- Without further records of a key nothing changes for it. -/
theorem ofKey_mergedViolations_of_untouched {key : ViolationKey}
    (untouched : larger.countP (fun violation => violation.key = key) =
      smaller.countP fun violation => violation.key = key) :
    ofKey key (mergedViolations larger) = ofKey key (mergedViolations smaller) := by
  have same : ofKey key smaller = ofKey key larger := by
    apply (ofKey_sublist within key).eq_of_length
    unfold ofKey
    rw [← List.countP_eq_length_filter, ← List.countP_eq_length_filter, untouched]
  rw [ofKey_readableGroups, ofKey_readableGroups, same]

end

/-- Rules, violations and node reports put into an input at any places. If the larger input is
merged, so is the smaller one. It has no other rules and hides no other keys; what the larger one
shows of keys that the smaller one reports was shown before with no less rights, and keys without
further records are shown as before. -/
theorem further_reports_only_restrict (policy : MergePolicy) (mode : MergeMode)
    (client largerClient : Report) (nodes largerNodes : NodeReports) (more : Merged)
    (within : InputWithin client nodes largerClient largerNodes)
    (accepted : mode.run policy largerClient largerNodes = .ok more) :
    ∃ less, mode.run policy client nodes = .ok less ∧
      (∀ id ∈ less.report.rules.map Rule.id, id ∈ more.report.rules.map Rule.id) ∧
      (∀ key ∈ less.outcome.omittedUnreadable, key ∈ more.outcome.omittedUnreadable) ∧
      (∀ violation ∈ more.report.violations,
        violation.key ∈ (violationsOf client nodes).map Violation.key →
        ∃ former ∈ less.report.violations, former.key = violation.key ∧
          ∃ rights formerRights, violation.permissions = some rights ∧
            former.permissions = some formerRights ∧ rights.AtMost formerRights) ∧
      (∀ key ∈ more.report.violations.map Violation.key,
        key ∉ less.report.violations.map Violation.key →
        key ∉ (violationsOf client nodes).map Violation.key) ∧
      (∀ key, (violationsOf largerClient largerNodes).countP
          (fun violation => violation.key = key) =
          (violationsOf client nodes).countP (fun violation => violation.key = key) →
        (key ∈ more.report.violations.map Violation.key ↔
          key ∈ less.report.violations.map Violation.key) ∧
        more.report.violations.filter (fun violation => violation.key = key) =
          less.report.violations.filter fun violation => violation.key = key) := by
  have whole := MergeMode.ofInput_eq_of_run accepted
  subst more
  have records := within.violationsOf_sublist
  refine ⟨_, within.run_ok accepted, ?_, ?_, ?_, ?_, ?_⟩
  · intro id
    change id ∈ (firstById (rulesOf client nodes)).map Rule.id →
      id ∈ (firstById (rulesOf largerClient largerNodes)).map Rule.id
    rw [map_id_firstById, map_id_firstById, mem_ascending, mem_ascending]
    intro member
    exact (within.rulesOf_sublist.map Rule.id).subset member
  · intro key
    exact hiddenKeys_of_sublist records
  · intro violation member reported
    obtain ⟨former, held, same, restricted⟩ :=
      former_of_mem_mergedViolations records member reported
    exact ⟨former, held, same, _, _, permissions_of_mem_mergedViolations member,
      permissions_of_mem_mergedViolations held, restricted⟩
  · intro key shown gone reported
    have before := shows_of_sublist records (mem_keys_mergedViolations.mp shown) reported
    exact gone (mem_keys_mergedViolations.mpr before)
  · intro key untouched
    have same := ofKey_mergedViolations_of_untouched records untouched
    refine ⟨?_, same⟩
    change key ∈ (mergedViolations _).map Violation.key ↔ key ∈ (mergedViolations _).map _
    rw [← not_iff_not, ← ofKey_eq_nil_iff, ← ofKey_eq_nil_iff, same]

/-- A new node denies what nobody had reported and takes the right to write away, another node says
more than before, and the client's own violation stays as it is. -/
theorem further_node_restricts :
    let own : Violation := .ofRule "own" true false
    let shared : Violation := .ofRule "shared" true true
    let client : Report := { violations := [own] }
    let nodes : NodeReports := [(⟨"n", "host", 1⟩, { violations := [shared] })]
    let largerNodes : NodeReports := [
      (⟨"m", "host", 2⟩, {
        violations := [.ofRule "fresh" false true, .ofRule "shared" true false] }),
      (⟨"n", "host", 1⟩, {
        rules := [.ofId "r"]
        violations := [.ofRule "late" true true, shared] })]
    let policy : MergePolicy := { maxNodes := some 2 }
    ∃ more less, InputWithin client nodes client largerNodes ∧
      MergeMode.checked.run policy client largerNodes = .ok more ∧
      MergeMode.checked.run policy client nodes = .ok less ∧
      (∃ former ∈ less.report.violations, former.key = shared.key ∧
        ∃ rights, former.permissions = some rights ∧ Permissions.AtMost ⟨true, false⟩ rights) ∧
      more.report.violations.filter (fun violation => violation.key = own.key) =
        less.report.violations.filter fun violation => violation.key = own.key := by
  intro own shared client nodes largerNodes policy
  have within : InputWithin client nodes client largerNodes :=
    ⟨⟨List.Sublist.refl _, List.Sublist.refl _⟩,
      .cons_right (.cons ⟨rfl, List.nil_sublist _, List.sublist_cons_self _ _⟩ .nil)⟩
  have larger : MergeMode.checked.run policy client largerNodes =
      .ok (Merged.ofInput client largerNodes) :=
    MergeMode.run_of_described rfl fun _ => by decide
  obtain ⟨less, accepted, _, _, restricted, _, untouched⟩ :=
    further_reports_only_restrict policy .checked client client nodes largerNodes _ within larger
  obtain ⟨former, held, same, rights, formerRights, now, before, atMost⟩ :=
    restricted (.ofRule "shared" true false) (by decide) (by decide)
  cases now
  exact ⟨_, less, within, larger, accepted, ⟨former, held, same, formerRights, before, atMost⟩,
    (untouched own.key (by decide)).2⟩

end ReportMerge
