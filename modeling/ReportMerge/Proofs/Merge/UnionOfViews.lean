/-
A merge sees its input through views. Only the union of the reported views
decides whether a promised merge takes place, which structure the merged report
has, and what its figures are. Which reporter gave a record, in which order, how
often and in which words plays no part in any of these.
-/

import ReportMerge.Proofs.Merge.ClosedForm

namespace ReportMerge

def reportsOf (client : Report) (nodes : NodeReports) : List Report :=
  client :: nodes.map Prod.snd

theorem Report.mem_ruleIds_view {report : Report} {id : String} :
    id ∈ report.view.ruleIds ↔ id ∈ report.rules.map Rule.id :=
  mem_ascending

theorem Report.mem_sightings_view {report : Report} {sighting : Sighting} :
    sighting ∈ report.view.sightings ↔
      ∃ violation ∈ report.violations, ⟨violation.key, violation.permissions⟩ = sighting := by
  change sighting ∈ ascending (report.violations.map fun violation =>
    Sighting.mk violation.key violation.permissions) ↔ _
  rw [mem_ascending, List.mem_map]

theorem Report.sameStructure_iff {left right : Report} :
    left.sameStructure right = true ↔ left.view = right.view :=
  beq_iff_eq

theorem mem_rulesOf {client : Report} {nodes : NodeReports} {rule : Rule} :
    rule ∈ rulesOf client nodes ↔ ∃ report ∈ reportsOf client nodes, rule ∈ report.rules := by
  unfold rulesOf reportsOf
  simp only [List.mem_append, List.mem_flatMap, List.mem_cons, List.mem_map,
    exists_eq_or_imp, exists_exists_and_eq_and]

theorem mem_violationsOf {client : Report} {nodes : NodeReports} {violation : Violation} :
    violation ∈ violationsOf client nodes ↔
      ∃ report ∈ reportsOf client nodes, violation ∈ report.violations := by
  unfold violationsOf nodeViolations reportsOf
  simp only [List.mem_append, List.mem_flatMap, List.mem_cons, List.mem_map,
    exists_eq_or_imp, exists_exists_and_eq_and]

theorem ruleIds_union {client : Report} {nodes : NodeReports} {id : String} :
    (∃ report ∈ reportsOf client nodes, id ∈ report.view.ruleIds) ↔
      id ∈ (rulesOf client nodes).map Rule.id := by
  simp only [Report.mem_ruleIds_view, List.mem_map, mem_rulesOf]
  constructor
  · rintro ⟨report, taking, rule, member, same⟩
    exact ⟨rule, ⟨report, taking, member⟩, same⟩
  · rintro ⟨rule, ⟨report, taking, member⟩, same⟩
    exact ⟨report, taking, rule, member, same⟩

def SeenIn (violations : List Violation) (sighting : Sighting) : Prop :=
  ∃ violation ∈ violations, ⟨violation.key, violation.permissions⟩ = sighting

theorem sightings_union {client : Report} {nodes : NodeReports} {sighting : Sighting} :
    (∃ report ∈ reportsOf client nodes, sighting ∈ report.view.sightings) ↔
      SeenIn (violationsOf client nodes) sighting := by
  unfold SeenIn
  simp only [Report.mem_sightings_view, mem_violationsOf]
  constructor
  · rintro ⟨report, taking, violation, member, same⟩
    exact ⟨violation, ⟨report, taking, member⟩, same⟩
  · rintro ⟨violation, ⟨report, taking, member⟩, same⟩
    exact ⟨report, taking, violation, member, same⟩

/-! ### What equal sightings decide -/

section

variable {left right : List Violation}
  (sameSightings : ∀ sighting, SeenIn left sighting ↔ SeenIn right sighting)

include sameSightings

private theorem counterpart {violation : Violation} (member : violation ∈ right) :
    ∃ other ∈ left, other.key = violation.key ∧ other.permissions = violation.permissions := by
  rcases (sameSightings _).mpr ⟨violation, member, rfl⟩ with ⟨other, present, same⟩
  exact ⟨other, present, congrArg Sighting.key same, congrArg Sighting.permissions same⟩

private theorem described_of_sightings {missing : MissingPermissions}
    (described : Described missing left) : Described missing right := by
  intro rejecting violation member absent
  rcases counterpart sameSightings member with ⟨other, present, _sameKey, samePermissions⟩
  exact described rejecting other present (samePermissions.trans absent)

private theorem key_of_sightings {key : ViolationKey} (member : key ∈ right.map Violation.key) :
    key ∈ left.map Violation.key := by
  rcases List.mem_map.mp member with ⟨violation, present, same⟩
  rcases counterpart sameSightings present with ⟨other, otherPresent, sameKey, _samePermissions⟩
  exact List.mem_map.mpr ⟨other, otherPresent, sameKey.trans same⟩

private theorem granted_of_sightings {key : ViolationKey} (flag : Permissions → Bool)
    (granted : ∀ violation ∈ ofKey key left, flag violation.effective = true) :
    ∀ violation ∈ ofKey key right, flag violation.effective = true := by
  intro violation member
  rcases mem_ofKey.mp member with ⟨present, same⟩
  rcases counterpart sameSightings present with ⟨other, otherPresent, sameKey, samePermissions⟩
  have sameEffective : other.effective = violation.effective := by
    unfold Violation.effective
    rw [samePermissions]
  rw [← sameEffective]
  exact granted other (mem_ofKey.mpr ⟨otherPresent, sameKey.trans same⟩)

private theorem joint_of_sightings (key : ViolationKey) :
    jointPermissions (ofKey key left) = jointPermissions (ofKey key right) := by
  have backward := fun sighting => (sameSightings sighting).symm
  -- Each flag is a statement about all records of the key, so order and repetitions vanish.
  have sameFlag (flag : Permissions → Bool) :
      (ofKey key left).all (fun violation => flag violation.effective) =
        (ofKey key right).all fun violation => flag violation.effective := by
    rw [Bool.eq_iff_iff, List.all_eq_true, List.all_eq_true]
    exact ⟨granted_of_sightings sameSightings flag, granted_of_sightings backward flag⟩
  unfold jointPermissions
  rw [sameFlag Permissions.canRead, sameFlag Permissions.canWrite]

private theorem keys_of_sightings :
    ascending (left.map Violation.key) = ascending (right.map Violation.key) := by
  apply ascending_congr
  intro key
  exact ⟨key_of_sightings fun sighting => (sameSightings sighting).symm,
    key_of_sightings sameSightings⟩

private theorem hiddenKeys_of_sightings : hiddenKeys left = hiddenKeys right := by
  unfold hiddenKeys
  rw [keys_of_sightings sameSightings]
  apply List.filter_congr
  intro key _member
  rw [joint_of_sightings sameSightings]

/-- Readable groups with the same sightings differ at most in what represents them. -/
private theorem readableGroups_of_sightings {γ : Type} (look : ViolationKey → Permissions → γ) :
    (readableGroups left).map (fun group => look group.representative.key group.permissions) =
      (readableGroups right).map fun group => look group.representative.key group.permissions := by
  rw [map_readableGroups, map_readableGroups, keys_of_sightings sameSightings]
  simp only [joint_of_sightings sameSightings]

end

/-! ### Merges of equal unions -/

/-- Two answers to merges of the given nodes that agree in the structure of the report and in all
figures but the number of nodes. Refusals agree whatever they name. -/
def SameAnswer (leftNodes rightNodes : NodeReports) :
    Except MergeFailure Merged → Except MergeFailure Merged → Prop
  | .ok left, .ok right =>
      left.report.sameStructure right.report = true ∧
      left.outcome.rules = right.outcome.rules ∧
      left.outcome.violations = right.outcome.violations ∧
      left.outcome.omittedUnreadable = right.outcome.omittedUnreadable ∧
      left.outcome.writeRestricted = right.outcome.writeRestricted ∧
      left.outcome.nodes = leftNodes.length ∧ right.outcome.nodes = rightNodes.length
  | .error _, .error _ => True
  | .ok _, .error _ => False
  | .error _, .ok _ => False

/-- The reports of two inputs show the same identifiers and the same sightings. -/
structure SameUnion (leftClient : Report) (leftNodes : NodeReports)
    (rightClient : Report) (rightNodes : NodeReports) : Prop where
  ruleIds : ∀ id, (∃ report ∈ reportsOf leftClient leftNodes, id ∈ report.view.ruleIds) ↔
    ∃ report ∈ reportsOf rightClient rightNodes, id ∈ report.view.ruleIds
  sightings : ∀ sighting,
    (∃ report ∈ reportsOf leftClient leftNodes, sighting ∈ report.view.sightings) ↔
      ∃ report ∈ reportsOf rightClient rightNodes, sighting ∈ report.view.sightings

namespace SameUnion

variable {leftClient rightClient : Report} {leftNodes rightNodes : NodeReports}
  (same : SameUnion leftClient leftNodes rightClient rightNodes)

include same

private theorem seen (sighting : Sighting) :
    SeenIn (violationsOf leftClient leftNodes) sighting ↔
      SeenIn (violationsOf rightClient rightNodes) sighting := by
  rw [← sightings_union, ← sightings_union]
  exact same.sightings sighting

private theorem ids :
    (firstById (rulesOf leftClient leftNodes)).map Rule.id =
      (firstById (rulesOf rightClient rightNodes)).map Rule.id := by
  rw [map_id_firstById, map_id_firstById]
  apply ascending_congr
  intro id
  rw [← ruleIds_union, ← ruleIds_union]
  exact same.ruleIds id

private theorem sameStructure_ofInput :
    (Merged.ofInput leftClient leftNodes).report.sameStructure
      (Merged.ofInput rightClient rightNodes).report = true := by
  rw [Report.sameStructure_iff]
  have sameIds : (Merged.ofInput leftClient leftNodes).report.view.ruleIds =
      (Merged.ofInput rightClient rightNodes).report.view.ruleIds :=
    congrArg ascending same.ids
  have sameSightings : (Merged.ofInput leftClient leftNodes).report.view.sightings =
      (Merged.ofInput rightClient rightNodes).report.view.sightings := by
    have shown := readableGroups_of_sightings same.seen
      fun key permissions => Sighting.mk key (some permissions)
    change ascending (((readableGroups _).map Group.violation).map _) =
      ascending (((readableGroups _).map Group.violation).map _)
    rw [List.map_map, List.map_map]
    exact congrArg ascending shown
  calc
    (Merged.ofInput leftClient leftNodes).report.view =
        ⟨(Merged.ofInput rightClient rightNodes).report.view.ruleIds,
          (Merged.ofInput rightClient rightNodes).report.view.sightings⟩ := by
      rw [← sameIds, ← sameSightings]
    _ = (Merged.ofInput rightClient rightNodes).report.view := rfl

theorem sameAnswer (policy : MergePolicy) :
    SameAnswer leftNodes rightNodes (policy.mergePromised leftClient leftNodes)
      (policy.mergePromised rightClient rightNodes) := by
  have described : Described policy.missingPermissions (violationsOf leftClient leftNodes) ↔
      Described policy.missingPermissions (violationsOf rightClient rightNodes) :=
    ⟨described_of_sightings same.seen,
      described_of_sightings fun sighting => (same.seen sighting).symm⟩
  rw [← find?_refusedUnder_eq_none_iff, ← find?_refusedUnder_eq_none_iff] at described
  unfold MergePolicy.mergePromised
  rw [reconcile_eq, reconcile_eq]
  cases leftRefused : (recordsOf leftClient leftNodes).find?
      (Record.refusedUnder policy.missingPermissions) with
  | some _leftRecord =>
      cases rightRefused : (recordsOf rightClient rightNodes).find?
          (Record.refusedUnder policy.missingPermissions) with
      | some _rightRecord => trivial
      | none =>
          rw [described.mpr rightRefused] at leftRefused
          cases leftRefused
  | none =>
      rw [described.mp leftRefused]
      have rights := readableGroups_of_sightings same.seen fun _ permissions => permissions
      refine ⟨same.sameStructure_ofInput, ?_, ?_, ?_, ?_, rfl, rfl⟩
      · have counts := congrArg List.length same.ids
        rw [List.length_map, List.length_map] at counts
        exact counts
      · have counts := congrArg List.length rights
        rw [List.length_map, List.length_map] at counts
        exact counts
      · exact hiddenKeys_of_sightings same.seen
      · have counts := congrArg (List.countP fun permissions => !permissions.canWrite) rights
        rw [List.countP_map, List.countP_map] at counts
        exact counts

end SameUnion

theorem sameUnion_of_sameStructure {leftClient rightClient : Report}
    {leftNodes rightNodes : NodeReports} (client : leftClient.sameStructure rightClient = true)
    (nodes : List.Forall₂ (fun left right => left.2.sameStructure right.2 = true)
      leftNodes rightNodes) :
    SameUnion leftClient leftNodes rightClient rightNodes := by
  have views : (reportsOf leftClient leftNodes).map Report.view =
      (reportsOf rightClient rightNodes).map Report.view := by
    unfold reportsOf
    rw [List.map_cons, List.map_cons, Report.sameStructure_iff.mp client]
    congr 1
    induction nodes with
    | nil => rfl
    | cons head _tail ih =>
        rw [List.map_cons, List.map_cons, List.map_cons, List.map_cons,
          Report.sameStructure_iff.mp head, ih]
  have shownThrough (shows : View → Prop) (client : Report) (nodes : NodeReports) :
      (∃ report ∈ reportsOf client nodes, shows report.view) ↔
        ∃ view ∈ (reportsOf client nodes).map Report.view, shows view := by
    simp only [List.mem_map, exists_exists_and_eq_and]
  constructor
  · intro id
    rw [shownThrough (fun view => id ∈ view.ruleIds), shownThrough (fun view => id ∈ view.ruleIds),
      views]
  · intro sighting
    rw [shownThrough (fun view => sighting ∈ view.sightings),
      shownThrough (fun view => sighting ∈ view.sightings), views]

/-- A promised merge depends on the union of the reported views only. Having the same structure is
therefore a congruence for it. -/
theorem merge_of_union_of_views (policy : MergePolicy) (leftClient rightClient : Report)
    (leftNodes rightNodes : NodeReports) :
    (SameUnion leftClient leftNodes rightClient rightNodes →
      SameAnswer leftNodes rightNodes (policy.mergePromised leftClient leftNodes)
        (policy.mergePromised rightClient rightNodes)) ∧
    (leftClient.sameStructure rightClient = true →
      List.Forall₂ (fun left right => left.2.sameStructure right.2 = true) leftNodes rightNodes →
      SameAnswer leftNodes rightNodes (policy.mergePromised leftClient leftNodes)
        (policy.mergePromised rightClient rightNodes)) := by
  constructor
  · intro same
    exact same.sameAnswer policy
  · intro client nodes
    exact (sameUnion_of_sameStructure client nodes).sameAnswer policy

/-- Two records that one node reports, or that the client reports twice and in other words, while
the client's rule moves to a node; and the same node with its records in other words. -/
theorem merge_of_redistributed_records :
    let granted : Violation := .ofRule "b" true true
    let restricted : Violation := .ofRule "b" true false
    let described : Violation := restricted.withSubject "s" "subject"
    let reworded : Report := { violations := [described, granted, described] }
    let leftClient : Report := { rules := [.ofId "a"] }
    let leftNodes : NodeReports := [(⟨"n", "host", 1⟩, { violations := [granted, restricted] })]
    let rightNodes : NodeReports :=
      [(⟨"m", "host", 2⟩, { rules := [.ofId "a"] }), (⟨"m", "host", 2⟩, {})]
    let rewordedNodes : NodeReports := [(⟨"m", "host", 2⟩, reworded)]
    SameUnion leftClient leftNodes reworded rightNodes ∧
      SameAnswer leftNodes rightNodes (MergePolicy.mergePromised {} leftClient leftNodes)
        (MergePolicy.mergePromised {} reworded rightNodes) ∧
      SameAnswer leftNodes rewordedNodes (MergePolicy.mergePromised {} leftClient leftNodes)
        (MergePolicy.mergePromised {} leftClient rewordedNodes) := by
  intro granted restricted described reworded leftClient leftNodes rightNodes rewordedNodes
  have same : SameUnion leftClient leftNodes reworded rightNodes := by
    constructor
    · intro id
      rw [ruleIds_union, ruleIds_union]
      exact Iff.rfl
    · intro sighting
      rw [sightings_union, sightings_union]
      simp [SeenIn, violationsOf, nodeViolations, leftClient, leftNodes, reworded, rightNodes,
        described, Violation.withSubject, Violation.key, or_comm]
  have redistributed :=
    (merge_of_union_of_views {} leftClient reworded leftNodes rightNodes).1 same
  have inOtherWords :=
    (merge_of_union_of_views {} leftClient leftClient leftNodes rewordedNodes).2
      (by decide) (.cons (by decide) .nil)
  exact ⟨same, redistributed, inOtherWords⟩

end ReportMerge
