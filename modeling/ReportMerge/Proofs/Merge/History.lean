/-
What a client shows after any history of appends and merges. The client is both
input and output of a merge, so a denial is consumed by the merge that omits its
key, and later merges do not know of it. A history keeps, beside the client, the
records that each step brought and the keys that it omitted; what still counts
for a key is read off these entries.
-/

import ReportMerge.Proofs.Merge.MergedReport
import Mathlib.Data.List.DropRight

namespace ReportMerge

/-- A step of a client's history. Each merge names its nodes, and what it yields replaces the
client, also where the merge works on a copy. -/
inductive ClientStep
  | addRule (rule : Rule)
  | addViolation (violation : Violation)
  | merge (mode : MergeMode) (nodes : NodeReports)

structure Entry where
  brought : List Violation
  omitted : List ViolationKey

namespace ClientStep

def apply (policy : MergePolicy) (client : Report) : ClientStep → Report
  | .addRule rule => client.addRule rule
  | .addViolation violation => client.addViolation violation
  | .merge mode nodes =>
      match (mode.call policy nodes).after { client } with
      | (.ok (.report merged), _) => merged
      | (_, left) => left.client

def entry (policy : MergePolicy) (client : Report) : ClientStep → Entry
  | .addRule _ => ⟨[], []⟩
  | .addViolation violation => ⟨[violation], []⟩
  | .merge mode nodes =>
      match mode.run policy client nodes with
      | .ok merged => ⟨nodeViolations nodes, merged.outcome.omittedUnreadable⟩
      | .error _ => ⟨[], []⟩

section

variable {policy : MergePolicy} {client : Report} {mode : MergeMode} {nodes : NodeReports}

theorem apply_merge_ok {merged : Merged} (answer : mode.run policy client nodes = .ok merged) :
    (merge mode nodes).apply policy client = merged.report := by
  simp only [apply, MergeMode.after_call, answer]
  cases mode <;> rfl

theorem entry_merge_ok {merged : Merged} (answer : mode.run policy client nodes = .ok merged) :
    (merge mode nodes).entry policy client =
      ⟨nodeViolations nodes, merged.outcome.omittedUnreadable⟩ := by
  simp only [entry, answer]

theorem apply_merge_error {failure : MergeFailure}
    (answer : mode.run policy client nodes = .error failure) :
    (merge mode nodes).apply policy client = client := by
  simp only [apply, MergeMode.after_call, answer]

theorem entry_merge_error {failure : MergeFailure}
    (answer : mode.run policy client nodes = .error failure) :
    (merge mode nodes).entry policy client = ⟨[], []⟩ := by
  simp only [entry, answer]

end

end ClientStep

/-- The records of a key that were brought after the last step that omitted the key. -/
def pending (key : ViolationKey) (entries : List Entry) : List Violation :=
  ofKey key ((entries.rtakeWhile fun entry => key ∉ entry.omitted).flatMap Entry.brought)

theorem pending_concat_of_omitted {key : ViolationKey} (entries : List Entry) {last : Entry}
    (omitted : key ∈ last.omitted) : pending key (entries ++ [last]) = [] := by
  unfold pending
  rw [List.rtakeWhile_concat_neg _ _ _ (by simp [omitted])]
  rfl

theorem pending_concat {key : ViolationKey} (entries : List Entry) {last : Entry}
    (kept : key ∉ last.omitted) :
    pending key (entries ++ [last]) = pending key entries ++ ofKey key last.brought := by
  unfold pending
  rw [List.rtakeWhile_concat_pos _ _ _ (by simp [kept]), List.flatMap_append, ofKey_append,
    List.flatMap_singleton]

theorem pending_concat_empty (key : ViolationKey) (entries : List Entry) :
    pending key (entries ++ [⟨[], []⟩]) = pending key entries := by
  rw [pending_concat entries List.not_mem_nil]
  exact List.append_nil _

structure History where
  client : Report
  entries : List Entry

namespace History

def start (client : Report) : History := ⟨client, [⟨client.violations, []⟩]⟩

def step (policy : MergePolicy) (history : History) (next : ClientStep) : History :=
  ⟨next.apply policy history.client, history.entries ++ [next.entry policy history.client]⟩

def run (policy : MergePolicy) (client : Report) (steps : List ClientStep) : History :=
  steps.foldl (step policy) (start client)

theorem run_concat (policy : MergePolicy) (client : Report) (steps : List ClientStep)
    (last : ClientStep) :
    run policy client (steps ++ [last]) = (run policy client steps).step policy last :=
  List.foldl_concat ..

/-! ### The client stands for what is pending -/

/-- For a key the client's records and the pending ones lead to the same violation. -/
def Remembers (history : History) (key : ViolationKey) : Prop :=
  standFor? (ofKey key history.client.violations) = standFor? (pending key history.entries)

theorem Remembers.standFor?_violationsOf {history : History} {key : ViolationKey}
    (remembers : history.Remembers key) (nodes : NodeReports) :
    standFor? (ofKey key (violationsOf history.client nodes)) =
      standFor? (pending key history.entries ++ ofKey key (nodeViolations nodes)) := by
  unfold violationsOf
  rw [ofKey_append]
  exact standFor?_append_congr remembers _

theorem remembers_start (client : Report) (key : ViolationKey) : (start client).Remembers key := by
  unfold Remembers start
  rw [← List.nil_append [_], pending_concat [] List.not_mem_nil]
  rfl

theorem Remembers.step {history : History} {key : ViolationKey}
    (remembers : history.Remembers key) (policy : MergePolicy) (next : ClientStep) :
    (history.step policy next).Remembers key := by
  unfold Remembers History.step
  cases next with
  | addRule rule =>
      unfold ClientStep.entry
      rw [pending_concat_empty]
      exact remembers
  | addViolation violation =>
      unfold ClientStep.apply ClientStep.entry Report.addViolation
      rw [pending_concat history.entries List.not_mem_nil, ofKey_append]
      exact standFor?_append_congr remembers _
  | merge mode nodes =>
      cases answer : mode.run policy history.client nodes with
      | error failure =>
          rw [ClientStep.apply_merge_error answer, ClientStep.entry_merge_error answer,
            pending_concat_empty]
          exact remembers
      | ok merged =>
          rw [ClientStep.apply_merge_ok answer, ClientStep.entry_merge_ok answer]
          have whole := MergeMode.ofInput_eq_of_run answer
          subst whole
          unfold Merged.ofInput
          rw [ofKey_readableGroups]
          by_cases hidden : key ∈ hiddenKeys (violationsOf history.client nodes)
          -- A merge that omits the key starts both sides anew.
          · rw [pending_concat_of_omitted history.entries hidden, mem_hiddenKeys.mp hidden]
            rfl
          -- Otherwise the client keeps one violation in place of all that it stands for.
          · have readable := Bool.not_eq_false _ ▸ mt mem_hiddenKeys.mpr hidden
            rw [pending_concat history.entries hidden, if_pos readable, standFor?_standFor?]
            exact remembers.standFor?_violationsOf nodes

theorem remembers_run (policy : MergePolicy) (client : Report) (steps : List ClientStep)
    (key : ViolationKey) : (run policy client steps).Remembers key := by
  induction steps using List.reverseRecOn with
  | nil => exact remembers_start client key
  | append_singleton steps last ih =>
      rw [run_concat]
      exact ih.step policy last

/-! ### The client of a session -/

theorem client_foldl_step (policy : MergePolicy) (steps : List ClientStep) (history : History) :
    (steps.foldl (step policy) history).client =
      steps.foldl (ClientStep.apply policy) history.client := by
  induction steps generalizing history with
  | nil => rfl
  | cons next others ih => exact ih (history.step policy next)

end History

namespace Session

/-- The steps between which a session stays with one policy and one client. -/
def Continues : Step → Prop
  | .setPolicy _ | .setClient _ => False
  | _ => True

/-- What a step does to the client. A session drops the report that a merge of a copy answers. -/
def clientStep? (session : Session) : Step → Option ClientStep
  | .addRule rule => some (.addRule rule)
  | .addViolation violation => some (.addViolation violation)
  | .merge .checked => some (.merge .checked session.nodes.toList)
  | .merge .promised => some (.merge .promised session.nodes.toList)
  | _ => none

def clientSteps (session : Session) : List Step → List ClientStep
  | [] => []
  | next :: others => (session.clientStep? next).toList ++ (session.step next).2.clientSteps others

theorem policy_step (session : Session) {next : Step} (continues : Continues next) :
    (session.step next).2.policy = session.policy := by
  cases next with
  | setPolicy policy => exact continues.elim
  | _ => rfl

theorem client_step (session : Session) {next : Step} (continues : Continues next) :
    (session.step next).2.client =
      (session.clientStep? next).toList.foldl (ClientStep.apply session.policy) session.client := by
  cases next with
  | setClient client => exact continues.elim
  | merge mode =>
      unfold step
      cases mode with
      | checked | promised =>
          simp only [clientStep?, Option.toList_some, List.foldl_cons, List.foldl_nil,
            ClientStep.apply, MergeMode.after_call]
          cases MergeMode.run _ session.policy session.client session.nodes.toList <;> rfl
      | copied =>
          simp only [clientStep?, Option.toList_none, List.foldl_nil, MergeMode.after_call]
          cases MergeMode.run _ session.policy session.client session.nodes.toList <;> rfl
  | _ => rfl

/-- The client of a session has the history of the steps that concern it. -/
theorem client_run (session : Session) {steps : List Step}
    (continues : ∀ next ∈ steps, Continues next) :
    (session.run steps).2.client =
      (History.run session.policy session.client (session.clientSteps steps)).client := by
  unfold History.run
  rw [History.client_foldl_step]
  induction steps generalizing session with
  | nil => rfl
  | cons next others ih =>
      have now := continues next List.mem_cons_self
      have later := ih (session.step next).2 fun other member =>
        continues other (List.mem_cons_of_mem next member)
      unfold clientSteps
      rw [List.foldl_append]
      change ((session.step next).2.run others).2.client = _
      rw [later, session.policy_step now]
      exact congrArg (fun client => List.foldl _ client _) (session.client_step now)

/-- What a session's client holds of a key stands for all that is pending for it. -/
theorem remembers_run (session : Session) {steps : List Step}
    (continues : ∀ next ∈ steps, Continues next) (key : ViolationKey) :
    standFor? (ofKey key (session.run steps).2.client.violations) =
      standFor? (pending key
        (History.run session.policy session.client (session.clientSteps steps)).entries) := by
  rw [session.client_run continues]
  exact History.remembers_run session.policy session.client _ key

end Session

namespace History

/-! ### After a merge -/

theorem Remembers.ofKey_merged {history : History} {key : ViolationKey}
    (remembers : history.Remembers key) {policy : MergePolicy} {mode : MergeMode}
    {nodes : NodeReports} {merged : Merged}
    (answer : mode.run policy history.client nodes = .ok merged) :
    ofKey key merged.report.violations =
      if (jointPermissions (pending key history.entries ++
          ofKey key (nodeViolations nodes))).canRead then
        (standFor? (pending key history.entries ++ ofKey key (nodeViolations nodes))).toList
      else [] := by
  have whole := MergeMode.ofInput_eq_of_run answer
  subst whole
  have same := remembers.standFor?_violationsOf nodes
  rw [← same, ← jointPermissions_of_standFor? same]
  exact ofKey_readableGroups (violationsOf history.client nodes) key

end History

private theorem visible_of_held {key : ViolationKey} {violations counted : List Violation}
    (held : ofKey key violations =
      if (jointPermissions counted).canRead then (standFor? counted).toList else []) :
    (key ∈ violations.map Violation.key ↔
      counted ≠ [] ∧ ∀ violation ∈ counted, violation.effective.canRead = true) ∧
    (key ∈ violations.map Violation.key →
      ∃ first others, counted = first :: others ∧
        ofKey key violations = [first.withPermissions (jointPermissions counted)]) := by
  have seen : key ∈ violations.map Violation.key ↔ ofKey key violations ≠ [] := by
    rw [ne_eq, ofKey_eq_nil_iff, not_not]
  rw [seen, ← jointPermissions_canRead_iff]
  cases counted with
  | nil =>
      have gone : ¬ofKey key violations ≠ [] := not_not.mpr held
      exact ⟨⟨fun visible => absurd visible gone, fun some => absurd rfl some.1⟩,
        fun visible => absurd visible gone⟩
  | cons first others =>
      by_cases readable : (jointPermissions (first :: others)).canRead = true
      · rw [if_pos readable] at held
        have there : ofKey key violations ≠ [] := by
          rw [held]
          exact List.cons_ne_nil _ _
        exact ⟨⟨fun _ => ⟨List.cons_ne_nil _ _, readable⟩, fun _ => there⟩,
          fun _ => ⟨first, others, rfl, held⟩⟩
      · rw [if_neg readable] at held
        have gone : ¬ofKey key violations ≠ [] := not_not.mpr held
        exact ⟨⟨fun visible => absurd visible gone, fun allowed => absurd allowed.2 readable⟩,
          fun visible => absurd visible gone⟩

open History in
/-- Visibility over whole histories. After a merge that takes place, a key is visible exactly when
something is pending for it and all of it can be read; then one violation bears the key, the first
pending one with the joint descriptor of all. A refused merge changes neither the client nor what
is pending. -/
theorem visible_after_history (policy : MergePolicy) (initial : Report)
    (earlier : List ClientStep) (mode : MergeMode) (nodes : NodeReports) (key : ViolationKey) :
    let before := run policy initial earlier
    let after := run policy initial (earlier ++ [.merge mode nodes])
    let counted := pending key before.entries ++ ofKey key (nodeViolations nodes)
    (∀ merged, mode.run policy before.client nodes = .ok merged →
      (key ∈ after.client.violations.map Violation.key ↔
        counted ≠ [] ∧ ∀ violation ∈ counted, violation.effective.canRead = true) ∧
      (key ∈ after.client.violations.map Violation.key →
        ∃ first others, counted = first :: others ∧
          after.client.violations.filter (fun violation => violation.key = key) =
            [first.withPermissions (jointPermissions counted)])) ∧
    (∀ failure, mode.run policy before.client nodes = .error failure →
      after.client = before.client ∧ pending key after.entries = pending key before.entries) := by
  intro before after counted
  have last : after = before.step policy (.merge mode nodes) := run_concat ..
  constructor
  · intro merged answer
    have report : after.client = merged.report := by
      rw [last]
      exact ClientStep.apply_merge_ok answer
    rw [report]
    exact visible_of_held ((remembers_run policy initial earlier key).ofKey_merged answer)
  · intro failure answer
    rw [last]
    unfold step
    rw [ClientStep.apply_merge_error answer, ClientStep.entry_merge_error answer]
    exact ⟨rfl, pending_concat_empty key before.entries⟩

/-- A denial that only the client holds is consumed by the first merge, the second one brings the
violation back, and a third one that is refused leaves it there. -/
theorem denial_consumed_by_first_merge :
    let client : Report := { violations := [.ofRule "r" false true] }
    let nodes : NodeReports := [(⟨"n", "host", 1⟩, { violations := [.ofRule "r" true false] })]
    let silent : NodeReports := [(⟨"n", "host", 1⟩, {
      violations := [(Violation.ofRule "r" true false).withoutPermissions] })]
    let once : ClientStep := .merge .promised nodes
    let refused : ClientStep := .merge .promised silent
    let key : ViolationKey := ⟨"r", false⟩
    key ∉ (History.run {} client [once]).client.violations.map Violation.key ∧
      key ∈ (History.run {} client [once, once]).client.violations.map Violation.key ∧
      (History.run {} client [once, once, refused]).client =
        (History.run {} client [once, once]).client := by
  intro client nodes silent once refused key
  obtain ⟨first, _⟩ := visible_after_history {} client [] .promised nodes key
  obtain ⟨second, _⟩ := visible_after_history {} client [once] .promised nodes key
  obtain ⟨_, third⟩ := visible_after_history {} client [once, once] .promised silent key
  obtain ⟨hidden, _⟩ := first _ rfl
  obtain ⟨visible, _⟩ := second _ rfl
  obtain ⟨unchanged, _⟩ := third _ rfl
  exact ⟨mt hidden.mp (by decide), visible.mpr (by decide), unchanged⟩

end ReportMerge
