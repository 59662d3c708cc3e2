/-
When a merge is refused, and what the refusal names and leaves. Too many nodes are
told before any record is looked at; after that the first record without a descriptor
ends the merge, if the policy asks for descriptors. Whatever was gathered until then
is lost with the merge, and nothing has been written yet.
-/

import ReportMerge.Proofs.Merge.ClosedForm

namespace ReportMerge

/-- The record read at a place is the first one without a descriptor. -/
structure FirstBareAt (client : Report) (nodes : NodeReports) (place : Nat) (record : Record) :
    Prop where
  read : (recordsOf client nodes)[place]? = some record
  bare : record.violation.permissions = none
  described : ∀ earlier other, earlier < place →
    (recordsOf client nodes)[earlier]? = some other → other.violation.permissions ≠ none

theorem firstBareAt_of_find? {client : Report} {nodes : NodeReports} {missing : MissingPermissions}
    {record : Record}
    (found : (recordsOf client nodes).find? (Record.refusedUnder missing) = some record) :
    ∃ place, FirstBareAt client nodes place record := by
  obtain ⟨refused, place, inRange, read, accepted⟩ := List.find?_eq_some_iff_getElem.mp found
  obtain ⟨rejecting, bare⟩ := Bool.and_eq_true_iff.mp refused
  refine ⟨place, List.getElem?_eq_some_iff.mpr ⟨inRange, read⟩,
    Option.isNone_iff_eq_none.mp bare, ?_⟩
  intro earlier other before otherRead absent
  obtain ⟨otherInRange, same⟩ := List.getElem?_eq_some_iff.mp otherRead
  have notRefused := accepted earlier before
  rw [same, Record.refusedUnder, absent, rejecting] at notRefused
  cases notRefused

/-- The client is read first, so its records are those at the first places. -/
theorem source_of_read {client : Report} {nodes : NodeReports} {place : Nat} {record : Record}
    (read : (recordsOf client nodes)[place]? = some record) :
    place < client.violations.length ∧ record.source = .client ∨
      client.violations.length ≤ place ∧ ∃ identity report, (identity, report) ∈ nodes ∧
        record.violation ∈ report.violations ∧ record.source = .node identity := by
  have length : (client.records .client).length = client.violations.length := List.length_map ..
  unfold recordsOf at read
  rcases Nat.lt_or_ge place client.violations.length with inClient | behind
  · rw [List.getElem?_append_left (length ▸ inClient)] at read
    obtain ⟨violation, _member, same⟩ := List.mem_map.mp (List.mem_of_getElem? read)
    subst record
    exact .inl ⟨inClient, rfl⟩
  · rw [List.getElem?_append_right (length ▸ behind)] at read
    obtain ⟨⟨identity, report⟩, given, member⟩ := List.mem_flatMap.mp (List.mem_of_getElem? read)
    obtain ⟨violation, reported, same⟩ := List.mem_map.mp member
    subst record
    exact .inr ⟨behind, identity, report, given, reported, rfl⟩

/-! ### Answers that are refused for a missing descriptor only -/

/-- An answer is refused exactly where the policy asks for descriptors and some violation comes
without one, and the refusal then names the rule and the reporter of the first such violation. -/
structure RefusedForMissing {ε α : Type} (refusal : String → Source → ε)
    (missing : MissingPermissions) (client : Report) (nodes : NodeReports)
    (answer : Except ε α) : Prop where
  refused_iff : (∃ failure, answer = .error failure) ↔
    missing = .reject ∧ ∃ violation ∈ violationsOf client nodes, violation.permissions = none
  named : ∀ failure, answer = .error failure → ∃ place record,
    FirstBareAt client nodes place record ∧
      failure = refusal record.violation.ruleId record.source ∧
      (place < client.violations.length ∧ record.source.display = "client" ∨
        client.violations.length ≤ place ∧ ∃ identity report, (identity, report) ∈ nodes ∧
          record.violation ∈ report.violations ∧
          record.source.display = "node " ++ identity.display)

theorem not_described_iff {missing : MissingPermissions} {violations : List Violation} :
    ¬Described missing violations ↔
      missing = .reject ∧ ∃ violation ∈ violations, violation.permissions = none := by
  simp only [Described, Classical.not_imp, not_forall, not_not]

theorem reconcile_refusedForMissing (missing : MissingPermissions) (client : Report)
    (nodes : NodeReports) :
    RefusedForMissing .missingPermissions missing client nodes
      (reconcile missing client nodes) := by
  have accepted := find?_refusedUnder_eq_none_iff missing client nodes
  constructor
  · rw [← not_described_iff, ← accepted, reconcile_eq]
    cases (recordsOf client nodes).find? (Record.refusedUnder missing) <;> simp
  · intro failure refused
    obtain ⟨record, found, rfl⟩ := reconcile_eq_error_iff.mp refused
    obtain ⟨place, first⟩ := firstBareAt_of_find? found
    refine ⟨place, record, first, rfl, ?_⟩
    rcases source_of_read first.read with
      ⟨inClient, ofClient⟩ | ⟨behind, identity, report, given, reported, ofNode⟩
    · exact .inl ⟨inClient, congrArg Source.display ofClient⟩
    · exact .inr ⟨behind, identity, report, given, reported, congrArg Source.display ofNode⟩

/-- An answer that is refused together with another one is refused for the same reason. -/
theorem RefusedForMissing.of_iff {ε ε' α β : Type} {refusal : String → Source → ε}
    {missing : MissingPermissions} {client : Report} {nodes : NodeReports} {answer : Except ε α}
    {other : Except ε' β} (refused : RefusedForMissing refusal missing client nodes answer)
    (reword : ε → ε')
    (together : ∀ failure, other = .error failure ↔
      ∃ cause, answer = .error cause ∧ reword cause = failure) :
    RefusedForMissing (fun ruleId source => reword (refusal ruleId source)) missing client nodes
      other := by
  constructor
  · rw [← refused.refused_iff]
    constructor
    · rintro ⟨failure, otherRefused⟩
      obtain ⟨cause, answerRefused, _⟩ := (together failure).mp otherRefused
      exact ⟨cause, answerRefused⟩
    · rintro ⟨cause, answerRefused⟩
      exact ⟨_, (together _).mpr ⟨cause, answerRefused, rfl⟩⟩
  · intro failure otherRefused
    obtain ⟨cause, answerRefused, rfl⟩ := (together failure).mp otherRefused
    obtain ⟨place, record, first, rfl, reporter⟩ := refused.named cause answerRefused
    exact ⟨place, record, first, rfl, reporter⟩

/-! ### What a refusal leaves -/

section

variable {policy : MergePolicy} {nodes : NodeReports} {before : Surroundings}

theorem mergeInPlace_refused_iff {failure : MergeFailure} :
    ((policy.mergeInPlace nodes).after before).1 = .error failure ↔
      policy.merge before.client nodes = .error failure := by
  rw [policy.after_mergeInPlace]
  cases policy.merge before.client nodes <;> simp [accountOf]

theorem mergeInPlace_of_refused {failure : MergeFailure}
    (refused : ((policy.mergeInPlace nodes).after before).1 = .error failure) :
    ((policy.mergeInPlace nodes).after before).2 = before := by
  rw [mergeInPlace_refused_iff] at refused
  rw [policy.after_mergeInPlace, refused]
  rfl

theorem mergePromisedInPlace_broken_iff {promise : BrokenPromise} :
    ((policy.mergePromisedInPlace nodes).after before).1 = .error promise ↔
      ∃ failure, policy.mergePromised before.client nodes = .error failure ∧
        ⟨failure.preconditionMessage⟩ = promise := by
  rw [policy.after_mergePromisedInPlace]
  cases policy.mergePromised before.client nodes <;> simp [accountOf, Except.mapError]

theorem mergePromisedInPlace_of_broken {promise : BrokenPromise}
    (broken : ((policy.mergePromisedInPlace nodes).after before).1 = .error promise) :
    ((policy.mergePromisedInPlace nodes).after before).2 = before := by
  obtain ⟨failure, refused, _⟩ := mergePromisedInPlace_broken_iff.mp broken
  rw [policy.after_mergePromisedInPlace, refused]
  rfl

theorem mergeOwn_refused_iff {own : Report} {failure : MergeFailure} :
    ((policy.mergeOwn own nodes).after before).1 = .error failure ↔
      policy.merge own nodes = .error failure := by
  rw [policy.after_mergeOwn]
  cases policy.merge own nodes <;> simp

theorem mergeOwn_of_refused {own : Report} {failure : MergeFailure}
    (refused : ((policy.mergeOwn own nodes).after before).1 = .error failure) :
    ((policy.mergeOwn own nodes).after before).2 = before := by
  rw [mergeOwn_refused_iff] at refused
  rw [policy.after_mergeOwn, refused]

/-- What is not refused comes out alike, in place and on a client that is handed over. -/
theorem mergeInPlace_of_accepted {merged : Merged} (caller : Surroundings)
    (accepted : policy.merge before.client nodes = .ok merged) :
    (policy.mergeInPlace nodes).after before = (.ok merged.outcome, merged.leave before) ∧
      (policy.mergePromisedInPlace nodes).after before =
        (.ok merged.outcome, merged.leave before) ∧
      (policy.mergeOwn before.client nodes).after caller =
        (.ok merged.report, caller.hear merged.events) := by
  have promised := (MergePolicy.merge_eq_ok_iff.mp accepted).2
  rw [policy.after_mergeInPlace, policy.after_mergePromisedInPlace, policy.after_mergeOwn,
    accepted, promised]
  exact ⟨rfl, rfl, rfl⟩

end

/-- The law of refusals. Beyond the bound the answer is the number of nodes, whatever the records
are like. Within it the only reason to refuse is a missing descriptor, and the first one in reading
order is named; where the bound is ignored, this is the only reason to give up, and the text says
so. What is not refused comes out alike in all ways to merge, on a client that is handed over as
in place, and a merge that is refused at whatever point leaves everything as it was. -/
theorem refusals_and_what_they_leave (policy : MergePolicy) (nodes : NodeReports)
    (before caller : Surroundings) :
    let checked := (policy.mergeInPlace nodes).after before
    let promised := (policy.mergePromisedInPlace nodes).after before
    let own := (policy.mergeOwn before.client nodes).after caller
    (∀ count maximum, checked.1 = .error (.tooManyNodes count maximum) ↔
      policy.maxNodes = some maximum ∧ count = nodes.length ∧ maximum < nodes.length) ∧
    ((∀ maximum, policy.maxNodes = some maximum → nodes.length ≤ maximum) →
      RefusedForMissing .missingPermissions policy.missingPermissions before.client nodes
        checked.1) ∧
    RefusedForMissing (fun ruleId source => ⟨"flow-analysis merge precondition violated: " ++
        ("Violation of rule '" ++ ruleId ++ "' from " ++ source.display
          ++ " has no permission descriptor")⟩)
      policy.missingPermissions before.client nodes promised.1 ∧
    (∀ outcome, checked.1 = .ok outcome →
      promised.1 = .ok outcome ∧ promised.2 = checked.2 ∧ own.1 = .ok checked.2.client) ∧
    (∀ failure, own.1 = .error failure ↔ checked.1 = .error failure) ∧
    (∀ failure, checked.1 = .error failure → checked.2 = before) ∧
    (∀ promise, promised.1 = .error promise → promised.2 = before) ∧
    (∀ failure, own.1 = .error failure → own.2 = caller) ∧
    own.2.client = caller.client := by
  intro checked promised own
  have promisedRefused : RefusedForMissing .missingPermissions policy.missingPermissions
      before.client nodes (policy.mergePromised before.client nodes) :=
    reconcile_refusedForMissing policy.missingPermissions before.client nodes
  refine ⟨?_, ?_, promisedRefused.of_iff _ fun _ => mergePromisedInPlace_broken_iff, ?_, ?_,
    fun _ => mergeInPlace_of_refused, fun _ => mergePromisedInPlace_of_broken,
    fun _ => mergeOwn_of_refused, rfl⟩
  · intro count maximum
    rw [mergeInPlace_refused_iff]
    change MergeMode.checked.run policy before.client nodes = _ ↔ _
    rw [MergeMode.run_eq_tooManyNodes_iff, and_iff_right (by decide)]
  · intro accepts
    rw [← MergePolicy.merge_of_accepts accepts] at promisedRefused
    refine promisedRefused.of_iff id ?_
    intro failure
    rw [mergeInPlace_refused_iff]
    simp
  · intro outcome accepted
    cases answer : policy.merge before.client nodes with
    | error failure =>
        have refused : checked.1 = .error failure := mergeInPlace_refused_iff.mpr answer
        rw [accepted] at refused
        cases refused
    | ok merged =>
        obtain ⟨inPlace, promisedAlike, ownAlike⟩ := mergeInPlace_of_accepted caller answer
        have same : outcome = merged.outcome :=
          Except.ok.inj (accepted.symm.trans (congrArg Prod.fst inPlace))
        subst same
        refine ⟨congrArg Prod.fst promisedAlike, ?_, ?_⟩
        · exact (congrArg Prod.snd promisedAlike).trans (congrArg Prod.snd inPlace).symm
        · refine (congrArg Prod.fst ownAlike).trans ?_
          exact congrArg (fun left => Except.ok left.2.client) inPlace.symm
  · intro failure
    exact mergeOwn_refused_iff.trans mergeInPlace_refused_iff.symm

/-- Three nodes, of which the first is merged alone and the others send violations without a
descriptor. With two nodes the second one is named, though the first has been read by then; with all
three a bound of two is what the caller hears of, and where the bound is ignored the second node is
named again. No refusal changes the client or what has been told before. -/
theorem bound_refused_before_missing_descriptor :
    let one : NodeReports := [(⟨"m", "host", 1⟩, { violations := [.ofRule "a" true false] })]
    let two : NodeReports := one ++ [(⟨"n", "host", 2⟩, { violations := [.ofRule "a" true true,
      (Violation.ofRule "b" true true).withoutPermissions] })]
    let three : NodeReports := two ++ [(⟨"n", "host", 2⟩, {
      violations := [(Violation.ofRule "c" true true).withoutPermissions] })]
    let policy : MergePolicy := { maxNodes := some 2 }
    let before : Surroundings := {
      client := { violations := [.ofRule "a" true true] }
      told := [.merged 0 0 1 0] }
    let merged : Report := { violations := [.ofRule "a" true false] }
    (policy.mergeInPlace three).after before = (.error (.tooManyNodes 3 2), before) ∧
      (policy.mergeOwn before.client three).after before =
        (.error (.tooManyNodes 3 2), before) ∧
      (policy.mergePromisedInPlace three).after before =
        (.error ⟨"flow-analysis merge precondition violated: Violation of rule 'b' "
          ++ "from node n@host:2 has no permission descriptor"⟩, before) ∧
      (policy.mergeInPlace two).after before =
        (.error (.missingPermissions "b" (.node ⟨"n", "host", 2⟩)), before) ∧
      RefusedForMissing .missingPermissions .reject before.client two
        ((policy.mergeInPlace two).after before).1 ∧
      (policy.mergeInPlace one).after before =
        (.ok ⟨1, 0, 1, [], 1⟩,
          { client := merged, told := [.merged 0 0 1 0, .merged 1 0 1 0] }) ∧
      ((policy.mergeOwn before.client one).after before).1 = .ok merged := by
  intro one two three policy before merged
  obtain ⟨bound, _, _, _, ownToo, untouched, promiseUntouched, ownUntouched, _⟩ :=
    refusals_and_what_they_leave policy three before before
  obtain ⟨_, within, _, _, _, untouchedToo, _⟩ :=
    refusals_and_what_they_leave policy two before before
  obtain ⟨_, _, _, agreed, _⟩ := refusals_and_what_they_leave policy one before before
  have tooMany := (bound 3 2).mpr (by decide)
  have ownTooMany := (ownToo _).mpr tooMany
  have broken : ((policy.mergePromisedInPlace three).after before).1 =
      .error ⟨"flow-analysis merge precondition violated: Violation of rule 'b' "
        ++ "from node n@host:2 has no permission descriptor"⟩ := by decide
  have missing : ((policy.mergeInPlace two).after before).1 =
      .error (.missingPermissions "b" (.node ⟨"n", "host", 2⟩)) := rfl
  have accepted : (policy.mergeInPlace one).after before = (.ok ⟨1, 0, 1, [], 1⟩,
      { client := merged, told := [.merged 0 0 1 0, .merged 1 0 1 0] }) := by decide
  have ownAccepted := (agreed _ (congrArg Prod.fst accepted)).2.2
  refine ⟨Prod.ext tooMany (untouched _ tooMany), Prod.ext ownTooMany (ownUntouched _ ownTooMany),
    Prod.ext broken (promiseUntouched _ broken), Prod.ext missing (untouchedToo _ missing),
    within ?_, accepted, ownAccepted.trans (by rw [accepted])⟩
  intro maximum given
  cases given
  exact Nat.le_refl 2

end ReportMerge
