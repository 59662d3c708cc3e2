/-
A merge step by step. Of each step there is an account of what comes of it and of
what it leaves behind, and the accounts of steps in sequence make up that of the
whole. Reading stops at the first record that is refused. Until then it has written
nothing and, since descriptors are asked for, it has told nothing either. The groups
are gone through only after all records have been read.
-/

import ReportMerge.Proofs.Merge.Grouping
import ReportMerge.Session

namespace ReportMerge

open Merging (tell)

@[simp]
theorem Surroundings.hear_nil (surroundings : Surroundings) :
    surroundings.hear [] = surroundings := by
  unfold hear
  rw [List.append_nil]

theorem Surroundings.hear_hear (surroundings : Surroundings) (first second : List Event) :
    (surroundings.hear first).hear second = surroundings.hear (first ++ second) := by
  unfold hear
  rw [List.append_assoc]

namespace Merging

variable {ε ε' α β : Type} (before : Surroundings)

@[simp]
theorem after_pure (value : α) : after (pure value : Merging ε α) before = (.ok value, before) :=
  rfl

@[simp]
theorem after_ofExcept (answer : Except ε α) :
    after (ofExcept answer) before = (answer, before) := by
  cases answer <;> rfl

@[simp]
theorem after_client : after (client : Merging ε Report) before = (.ok before.client, before) := rfl

@[simp]
theorem after_tell (event : Event) :
    after (tell event : Merging ε Unit) before = (.ok (), before.hear [event]) := rfl

theorem after_forM_tell (event : Option Event) :
    after (event.forM tell : Merging ε Unit) before = (.ok (), before.hear event.toList) := by
  cases event with
  | none => exact congrArg (Prod.mk _) before.hear_nil.symm
  | some event => rfl

theorem after_map (f : α → β) (work : Merging ε α) :
    after (f <$> work) before = ((work.after before).1.map f, (work.after before).2) := by
  change after (work >>= fun value => pure (f value)) before = _
  unfold after
  simp only [ExceptT.run_bind, StateT.run_bind]
  cases StateT.run work.run before with
  | mk answer left => cases answer <;> rfl

theorem after_adapt (f : ε → ε') (work : Merging ε α) :
    after (work.adapt f) before = ((work.after before).1.mapError f, (work.after before).2) := rfl

theorem after_onOwn (own : Report) (work : Merging ε α) :
    after (onOwn own work) before =
      ((work.after { before with client := own }).1,
        { (work.after { before with client := own }).2 with client := before.client }) := rfl

variable {before} {left : Surroundings} {work : Merging ε α} {next : α → Merging ε β}

theorem after_bind_of_ok {value : α} (done : work.after before = (.ok value, left)) :
    after (work >>= next) before = (next value).after left := by
  unfold after at done ⊢
  simp only [ExceptT.run_bind, StateT.run_bind]
  rw [done]
  rfl

theorem after_bind_of_error {failure : ε} (refused : work.after before = (.error failure, left)) :
    after (work >>= next) before = (.error failure, left) := by
  unfold after at refused ⊢
  simp only [ExceptT.run_bind, StateT.run_bind]
  rw [refused]
  rfl

end Merging

/-- Where a refusal is still to come, descriptors are asked for, so no record has been told of. -/
theorem Record.filterMap_warning?_eq_nil {missing : MissingPermissions} {records : List Record}
    {later : Record} (accepted : records.find? (refusedUnder missing) = none)
    (refused : later.refusedUnder missing = true) : records.filterMap warning? = [] := by
  have rejecting : missing = .reject := of_decide_eq_true (Bool.and_eq_true_iff.mp refused).1
  subst rejecting
  rw [List.filterMap_eq_nil_iff]
  intro record member
  have described := List.find?_eq_none.mp accepted record member
  unfold warning?
  cases given : record.violation.permissions with
  | some permissions => rfl
  | none => simp [refusedUnder, given] at described

namespace Gathered

def addAll (gathered : Gathered) (rules : List Rule) (records : List Record) : Gathered where
  rules := rules.foldl Rules.add gathered.rules
  groups := (records.map fun record => record.violation.settled).foldl Groups.absorb gathered.groups

theorem addAll_addAll (gathered : Gathered) (rules moreRules : List Rule)
    (records moreRecords : List Record) :
    (gathered.addAll rules records).addAll moreRules moreRecords =
      gathered.addAll (rules ++ moreRules) (records ++ moreRecords) := by
  unfold addAll
  rw [List.map_append, List.foldl_append, List.foldl_append]

/-- All that is reported, gathered from nothing. -/
theorem groups_addAll (client : Report) (nodes : NodeReports) :
    (({} : Gathered).addAll (rulesOf client nodes) (recordsOf client nodes)).groups =
      Groups.ofList ((violationsOf client nodes).map Violation.settled) := by
  unfold addAll
  rw [← recordsOf_violations, List.map_map]
  rfl

theorem foldl_addRule (gathered : Gathered) (rules : List Rule) :
    rules.foldl addRule gathered = gathered.addAll rules [] := by
  induction rules generalizing gathered with
  | nil => rfl
  | cons rule rest ih => exact ih (gathered.addRule rule)

/-- The account of reading: the first refused record ends it without a trace. -/
def account (missing : MissingPermissions) (rules : List Rule) (records : List Record)
    (gathered : Gathered) (before : Surroundings) : Except MergeFailure Gathered × Surroundings :=
  match records.find? (Record.refusedUnder missing) with
  | some record => (.error record.refusal, before)
  | none => (.ok (gathered.addAll rules records), before.hear (records.filterMap Record.warning?))

/-- The work reads some rules and records, whatever has been gathered and told before. -/
def Reads (missing : MissingPermissions) (rules : List Rule) (records : List Record)
    (work : Gathered → Merging MergeFailure Gathered) : Prop :=
  ∀ gathered before, (work gathered).after before = account missing rules records gathered before

variable {missing : MissingPermissions}

theorem reads_pure (rules : List Rule) :
    Reads missing rules [] fun gathered => pure (rules.foldl addRule gathered) := by
  intro gathered before
  rw [Merging.after_pure, foldl_addRule]
  exact congrArg (Prod.mk _) before.hear_nil.symm

theorem reads_addRecord (record : Record) :
    Reads missing [] [record] fun gathered => gathered.addRecord missing record := by
  intro gathered before
  have settling := Merging.after_ofExcept before (record.settle missing)
  unfold addRecord account
  rw [Record.settle_eq] at settling ⊢
  rw [List.find?_singleton]
  cases refused : record.refusedUnder missing with
  | true =>
      rw [refused] at settling
      exact Merging.after_bind_of_error settling
  | false =>
      rw [refused] at settling
      have warned : [record].filterMap Record.warning? = record.warning?.toList := by
        cases found : record.warning? with
        | none => exact List.filterMap_cons_none found
        | some event => exact List.filterMap_cons_some found
      rw [warned]
      exact (Merging.after_bind_of_ok settling).trans
        (Merging.after_bind_of_ok (Merging.after_forM_tell before record.warning?))

theorem Reads.bind {rules moreRules : List Rule} {records moreRecords : List Record}
    {work more : Gathered → Merging MergeFailure Gathered}
    (first : Reads missing rules records work)
    (second : Reads missing moreRules moreRecords more) :
    Reads missing (rules ++ moreRules) (records ++ moreRecords) fun gathered =>
      work gathered >>= more := by
  intro gathered before
  have reading := first gathered before
  unfold account at reading ⊢
  rw [List.find?_append]
  cases found : records.find? (Record.refusedUnder missing) with
  | some record =>
      rw [found] at reading
      exact Merging.after_bind_of_error reading
  | none =>
      rw [found] at reading
      rw [Merging.after_bind_of_ok reading, second, Option.none_or]
      unfold account
      cases foundLater : moreRecords.find? (Record.refusedUnder missing) with
      | some later =>
          rw [Record.filterMap_warning?_eq_nil found (List.find?_some foundLater),
            Surroundings.hear_nil]
      | none => rw [addAll_addAll, Surroundings.hear_hear, List.filterMap_append]

theorem Reads.foldlM {ι : Type} {step : Gathered → ι → Merging MergeFailure Gathered}
    {rules : ι → List Rule} {records : ι → List Record}
    (each : ∀ item, Reads missing (rules item) (records item) fun gathered => step gathered item)
    (items : List ι) :
    Reads missing (items.flatMap rules) (items.flatMap records) fun gathered =>
      items.foldlM step gathered := by
  induction items with
  | nil => exact reads_pure []
  | cons item rest ih =>
      intro gathered before
      have whole := (each item).bind ih gathered before
      rw [← List.flatMap_cons, ← List.flatMap_cons] at whole
      exact whole

theorem reads_absorb (source : Source) (report : Report) :
    Reads missing report.rules (report.records source) fun gathered =>
      gathered.absorb missing source report := by
  have ofRecords : Reads missing [] (report.records source) fun gathered =>
      (report.records source).foldlM (addRecord missing) gathered := by
    have each : Reads missing ((report.records source).flatMap fun _ => [])
        ((report.records source).flatMap fun record => [record]) fun gathered =>
        (report.records source).foldlM (addRecord missing) gathered :=
      Reads.foldlM reads_addRecord (report.records source)
    rw [List.flatMap_singleton', List.flatMap_eq_nil_iff.mpr fun _ _ => rfl] at each
    exact each
  have both := (reads_pure report.rules).bind ofRecords
  rw [List.append_nil, List.nil_append] at both
  exact both

theorem after_ofReports (missing : MissingPermissions) (client : Report) (nodes : NodeReports)
    (before : Surroundings) :
    (ofReports missing client nodes).after before =
      account missing (rulesOf client nodes) (recordsOf client nodes) {} before := by
  have ofNodes : Reads missing (nodes.flatMap fun entry => entry.2.rules)
      (nodes.flatMap fun entry => entry.2.records (.node entry.1)) fun gathered =>
      nodes.foldlM (fun gathered entry => gathered.absorb missing (.node entry.1) entry.2)
        gathered :=
    Reads.foldlM (fun entry => reads_absorb (.node entry.1) entry.2) nodes
  exact (reads_absorb .client client).bind ofNodes {} before

end Gathered

/-! ### Going through the groups -/

namespace Sorted

def addAll (sorted : Sorted) (entries : List (ViolationKey × Group)) : Sorted where
  shown := sorted.shown ++
    ((entries.map Prod.snd).filter fun group => group.permissions.canRead).map Group.violation
  omitted := sorted.omitted ++
    (entries.filter fun (_, group) => !group.permissions.canRead).map Prod.fst
  writeRestricted := sorted.writeRestricted +
    ((entries.map Prod.snd).filter fun group => group.permissions.canRead).countP fun group =>
      !group.permissions.canWrite

theorem after_foldlM_add (entries : List (ViolationKey × Group)) (sorted : Sorted)
    (before : Surroundings) :
    (entries.foldlM add sorted : Merging MergeFailure Sorted).after before =
      (.ok (sorted.addAll entries),
        before.hear (((entries.filter fun (_, group) => !group.permissions.canRead).map
          Prod.fst).map Event.omitted)) := by
  induction entries generalizing sorted before with
  | nil => simp [addAll]
  | cons entry rest ih =>
      rcases entry with ⟨key, group⟩
      rw [List.foldlM_cons]
      cases readable : group.permissions.canRead with
      | true =>
          have step : (sorted.add (key, group)).after before = (.ok { sorted with
              shown := sorted.shown ++ [group.violation]
              writeRestricted := sorted.writeRestricted +
                if group.permissions.canWrite then 0 else 1 }, before) := by
            simp only [add, readable, if_true]
            rfl
          rw [Merging.after_bind_of_ok step, ih]
          cases writable : group.permissions.canWrite <;>
            simp [addAll, readable, writable, Nat.add_assoc, Nat.add_comm]
      | false =>
          have step : (sorted.add (key, group)).after before =
              (.ok { sorted with omitted := sorted.omitted ++ [key] },
                before.hear [.omitted key]) := by
            simp only [add, readable, Bool.false_eq_true, if_false]
            rfl
          rw [Merging.after_bind_of_ok step, ih, Surroundings.hear_hear]
          simp [addAll, readable]

theorem after_foldlM_add_toList (groups : Groups) (before : Surroundings) :
    (groups.toList.foldlM add {} : Merging MergeFailure Sorted).after before =
      (.ok {
          shown := groups.readable.map Group.violation
          omitted := groups.unreadableKeys
          writeRestricted := groups.readable.countP fun group => !group.permissions.canWrite },
        before.hear (groups.unreadableKeys.map Event.omitted)) := by
  rw [after_foldlM_add]
  simp only [addAll, Groups.readable, Groups.unreadableKeys, values_eq_map_toList,
    List.nil_append, Nat.zero_add]

theorem after_conclude (sorted : Sorted) (rules : List Rule) (nodeCount : Nat)
    (before : Surroundings) :
    (sorted.conclude rules nodeCount).after before =
      (.ok {
          nodes := nodeCount
          rules := rules.length
          violations := sorted.shown.length
          omittedUnreadable := sorted.omitted
          writeRestricted := sorted.writeRestricted },
        { client := ⟨rules, sorted.shown⟩
          told := before.told ++
            [.merged nodeCount rules.length sorted.shown.length sorted.omitted.length] }) := rfl

end Sorted

end ReportMerge
