/-
What the displayed names identify. A key is known by its displayed name, whatever its
rule is called. The displayed name of a node tells the port, and the identifier and the
address only as one text: where the one ends and the other begins is lost if there are
several marks. A refusal names the client by a word that is no node's name, and one
for too many nodes tells both numbers.
-/

import ReportMerge.Proofs.Merge.Refusal

namespace ReportMerge

/-- A mark that neither front contains shows where the fronts end. -/
theorem parts_eq_of_first {α : Type} {mark : α} {front back otherFront otherBack : List α}
    (absent : mark ∉ front) (otherAbsent : mark ∉ otherFront)
    (same : front ++ mark :: back = otherFront ++ mark :: otherBack) :
    front = otherFront ∧ back = otherBack := by
  induction front generalizing otherFront with
  | nil =>
      cases otherFront with
      | nil => exact ⟨rfl, List.tail_eq_of_cons_eq same⟩
      | cons item otherFront =>
          have head : mark = item := List.head_eq_of_cons_eq same
          exact absurd (head ▸ List.mem_cons_self) otherAbsent
  | cons item front ih =>
      cases otherFront with
      | nil =>
          have head : item = mark := List.head_eq_of_cons_eq same
          exact absurd (head ▸ List.mem_cons_self) absent
      | cons otherItem otherFront =>
          have head : item = otherItem := List.head_eq_of_cons_eq same
          obtain ⟨fronts, backs⟩ := ih (mt (List.mem_cons_of_mem item) absent)
            (mt (List.mem_cons_of_mem otherItem) otherAbsent) (List.tail_eq_of_cons_eq same)
          exact ⟨by rw [head, fronts], backs⟩

/-- A mark that neither back contains shows where the backs begin. -/
theorem parts_eq_of_last {α : Type} {mark : α} {front back otherFront otherBack : List α}
    (absent : mark ∉ back) (otherAbsent : mark ∉ otherBack)
    (same : front ++ mark :: back = otherFront ++ mark :: otherBack) :
    front = otherFront ∧ back = otherBack := by
  have reversed := congrArg List.reverse same
  simp only [List.reverse_append, List.reverse_cons, List.append_assoc, List.singleton_append]
    at reversed
  obtain ⟨backs, fronts⟩ := parts_eq_of_first (mt List.mem_reverse.mp absent)
    (mt List.mem_reverse.mp otherAbsent) reversed
  exact ⟨List.reverse_inj.mp fronts, List.reverse_inj.mp backs⟩

namespace ViolationKey

/-- Whatever the rule is called, the last equality sign stands before the flag. -/
theorem toList_display (key : ViolationKey) :
    key.display.toList =
      (key.ruleId ++ "[enabled").toList ++ '=' :: (flagWord key.enabled ++ "]").toList := by
  have opening : "[enabled=".toList = "[enabled".toList ++ ['='] := by decide
  unfold display
  rw [String.toList_append, String.toList_append, String.toList_append, String.toList_append,
    String.toList_append, opening]
  simp only [List.append_assoc, List.cons_append, List.nil_append]

theorem not_mem_closing (flag : Bool) : '=' ∉ (flagWord flag ++ "]").toList := by
  cases flag <;> decide

theorem flag_eq_of_closing {left right : Bool}
    (same : (flagWord left ++ "]").toList = (flagWord right ++ "]").toList) : left = right := by
  cases left <;> cases right <;> revert same <;> decide

theorem eq_of_display {left right : ViolationKey} (same : left.display = right.display) :
    left = right := by
  have texts := congrArg String.toList same
  rw [toList_display, toList_display] at texts
  obtain ⟨fronts, backs⟩ :=
    parts_eq_of_last (not_mem_closing left.enabled) (not_mem_closing right.enabled) texts
  have sameRule : left.ruleId = right.ruleId :=
    (String.append_left_inj "[enabled").mp (String.toList_inj.mp fronts)
  have sameFlag : left.enabled = right.enabled := flag_eq_of_closing backs
  cases left
  cases right
  subst sameRule sameFlag
  rfl

end ViolationKey

theorem toList_repr (number : Nat) : (Nat.repr number).toList = Nat.toDigits 10 number :=
  String.toList_ofList

theorem not_mem_repr {mark : Char} (noDigit : mark.isDigit = false) (number : Nat) :
    mark ∉ (Nat.repr number).toList := by
  intro member
  rw [toList_repr] at member
  have digit : mark.isDigit = true := Nat.isDigit_of_mem_toDigits (by decide) (by decide) member
  rw [noDigit] at digit
  cases digit

theorem eq_of_toList_repr {left right : Nat}
    (same : (Nat.repr left).toList = (Nat.repr right).toList) : left = right := by
  rw [toList_repr, toList_repr] at same
  rw [← Nat.ofDigitChars_ten_toDigits (n := left), same, Nat.ofDigitChars_ten_toDigits]

namespace NodeIdentity

theorem toList_display (node : NodeIdentity) :
    node.display.toList =
      (node.id ++ "@" ++ node.apiAddress).toList ++
        ':' :: (Nat.repr node.apiPort.toNat).toList := by
  unfold display
  rw [String.toList_append, String.toList_append (t := ":"), List.append_assoc]
  rfl

theorem display_eq_iff {left right : NodeIdentity} :
    left.display = right.display ↔
      left.apiPort = right.apiPort ∧
        left.id ++ "@" ++ left.apiAddress = right.id ++ "@" ++ right.apiAddress := by
  constructor
  · intro same
    have texts := congrArg String.toList same
    rw [toList_display, toList_display] at texts
    obtain ⟨fronts, backs⟩ :=
      parts_eq_of_last (not_mem_repr (by decide) _) (not_mem_repr (by decide) _) texts
    exact ⟨UInt16.toNat_inj.mp (eq_of_toList_repr backs), String.toList_inj.mp fronts⟩
  · rintro ⟨ports, fronts⟩
    unfold display
    rw [ports, fronts]

theorem eq_of_display {left right : NodeIdentity} (leftUnmarked : '@' ∉ left.id.toList)
    (rightUnmarked : '@' ∉ right.id.toList) (same : left.display = right.display) :
    left = right := by
  obtain ⟨samePort, fronts⟩ := display_eq_iff.mp same
  have texts := congrArg String.toList fronts
  simp only [String.toList_append, List.append_assoc] at texts
  obtain ⟨ids, addresses⟩ := parts_eq_of_first leftUnmarked rightUnmarked texts
  have sameId : left.id = right.id := String.toList_inj.mp ids
  have sameAddress : left.apiAddress = right.apiAddress := String.toList_inj.mp addresses
  cases left
  cases right
  subst sameId sameAddress samePort
  rfl

end NodeIdentity

namespace Source

theorem display_node_ne_client (identity : NodeIdentity) :
    (Source.node identity).display ≠ "client" := by
  intro same
  have texts := congrArg String.toList same
  change ("node " ++ identity.display).toList = _ at texts
  rw [String.toList_append] at texts
  have first : 'n' = 'c' := List.head_eq_of_cons_eq texts
  cases first

theorem display_eq_client_iff {source : Source} : source.display = "client" ↔ source = .client := by
  cases source with
  | client => exact iff_of_true rfl rfl
  | node identity =>
      refine iff_of_false (display_node_ne_client identity) ?_
      intro impossible
      cases impossible

theorem display_node_inj {left right : NodeIdentity}
    (same : (Source.node left).display = (Source.node right).display) :
    left.display = right.display :=
  (String.append_right_inj "node ").mp same

end Source

namespace MergeFailure

theorem toList_message_tooManyNodes (count maximum : Nat) :
    (tooManyNodes count maximum).message.toList =
      "Refusing to merge ".toList ++ ((Nat.repr count).toList ++
        ' ' :: ("node results (max_nodes = ".toList ++ ((Nat.repr maximum).toList ++ [')']))) := by
  have between : " node results (max_nodes = ".toList =
      ' ' :: "node results (max_nodes = ".toList := by decide
  unfold message
  rw [String.toList_append, String.toList_append, String.toList_append, String.toList_append,
    between]
  simp only [List.append_assoc, List.cons_append]
  rfl

/-- The text of a refusal for too many nodes tells both numbers. -/
theorem eq_of_message_tooManyNodes {failure : MergeFailure} {count maximum : Nat}
    (same : failure.message = (tooManyNodes count maximum).message) :
    failure = tooManyNodes count maximum := by
  have texts := congrArg String.toList same
  rw [toList_message_tooManyNodes] at texts
  cases failure with
  | missingPermissions ruleId source =>
      change ("Violation of rule '" ++ ruleId ++ "' from " ++ source.display
        ++ " has no permission descriptor").toList = _ at texts
      simp only [String.toList_append, List.append_assoc] at texts
      have first : 'V' = 'R' := List.head_eq_of_cons_eq texts
      cases first
  | tooManyNodes otherCount otherMaximum =>
      rw [toList_message_tooManyNodes] at texts
      obtain ⟨counts, rest⟩ := parts_eq_of_first (not_mem_repr (by decide) _)
        (not_mem_repr (by decide) _) (List.append_cancel_left texts)
      obtain ⟨maxima, _⟩ := parts_eq_of_first (not_mem_repr (by decide) _)
        (not_mem_repr (by decide) _) (List.append_cancel_left rest)
      rw [eq_of_toList_repr counts, eq_of_toList_repr maxima]

end MergeFailure

/-! ### Records that are refused -/

/-- The bound on nodes is never what makes a merge ask for a descriptor. -/
theorem MergeMode.admits_ne_missing {mode : MergeMode} {policy : MergePolicy} {count : Nat}
    {ruleId : String} {source : Source} :
    mode.admits policy count ≠ .error (.missingPermissions ruleId source) := by
  intro refused
  cases mode with
  | promised => cases refused
  | checked | copied =>
      change policy.admits count = _ at refused
      rcases policy.accepts_or_exceeded count with accepts | ⟨maximum, bound, exceeded⟩
      · rw [MergePolicy.admits_of_accepts accepts] at refused
        cases refused
      · rw [MergePolicy.admits_of_exceeded bound exceeded] at refused
        cases refused

theorem MergeMode.firstBareAt_of_refused {mode : MergeMode} {policy : MergePolicy}
    {client : Report} {nodes : NodeReports} {ruleId : String} {source : Source}
    (refused : mode.run policy client nodes = .error (.missingPermissions ruleId source)) :
    ∃ place record, FirstBareAt client nodes place record ∧
      record.violation.ruleId = ruleId ∧ record.source = source := by
  rw [run_eq] at refused
  cases admitted : mode.admits policy nodes.length with
  | error failure =>
      rw [admitted] at refused
      have same : failure = .missingPermissions ruleId source := Except.error.inj refused
      exact absurd (same ▸ admitted) admits_ne_missing
  | ok accepted =>
      rw [admitted] at refused
      obtain ⟨record, found, named⟩ := reconcile_eq_error_iff.mp refused
      obtain ⟨place, first⟩ := firstBareAt_of_find? found
      obtain ⟨sameRule, sameSource⟩ := MergeFailure.missingPermissions.inj named
      exact ⟨place, record, first, sameRule, sameSource⟩

/-- The displayed name of a key identifies the key. That of a node identifies the port and the text
of identifier and address, hence the node if no identifier holds the mark between them. A refusal
for a missing descriptor tells of the first record without one: it names the client exactly if the
record is the client's, and otherwise a node that reported it, by a text that gives its displayed
name. -/
theorem displayed_names_identify :
    (∀ left right : ViolationKey, left.display = right.display → left = right) ∧
    (∀ left right : NodeIdentity, left.display = right.display ↔
      left.apiPort = right.apiPort ∧
        left.id ++ "@" ++ left.apiAddress = right.id ++ "@" ++ right.apiAddress) ∧
    (∀ left right : NodeIdentity, '@' ∉ left.id.toList → '@' ∉ right.id.toList →
      left.display = right.display → left = right) ∧
    (∀ (mode : MergeMode) (policy : MergePolicy) (client : Report) (nodes : NodeReports)
      (ruleId : String) (source : Source),
      mode.run policy client nodes = .error (.missingPermissions ruleId source) →
      ∃ place record, FirstBareAt client nodes place record ∧
        record.violation.ruleId = ruleId ∧ record.source = source ∧
        (source.display = "client" ↔ place < client.violations.length) ∧
        (client.violations.length ≤ place → ∃ identity report, (identity, report) ∈ nodes ∧
          record.violation ∈ report.violations ∧ source.display = "node " ++ identity.display)) ∧
    (∀ identity : NodeIdentity, (Source.node identity).display ≠ "client") ∧
    (∀ left right : NodeIdentity, (Source.node left).display = (Source.node right).display →
      left.display = right.display) := by
  refine ⟨fun _ _ => ViolationKey.eq_of_display, fun _ _ => NodeIdentity.display_eq_iff,
    fun _ _ => NodeIdentity.eq_of_display, ?_, Source.display_node_ne_client,
    fun _ _ => Source.display_node_inj⟩
  intro mode policy client nodes ruleId source refused
  obtain ⟨place, record, first, sameRule, sameSource⟩ := MergeMode.firstBareAt_of_refused refused
  refine ⟨place, record, first, sameRule, sameSource, ?_, ?_⟩
  · rw [Source.display_eq_client_iff, ← sameSource]
    rcases source_of_read first.read with ⟨inClient, ofClient⟩ | ⟨behind, identity, _, _, _, ofNode⟩
    · exact iff_of_true ofClient inClient
    · refine iff_of_false ?_ (Nat.not_lt.mpr behind)
      rw [ofNode]
      intro impossible
      cases impossible
  · intro behind
    rcases source_of_read first.read with
      ⟨inClient, _⟩ | ⟨_, identity, report, given, reported, ofNode⟩
    · exact absurd inClient (Nat.not_lt.mpr behind)
    · rw [← sameSource, ofNode]
      exact ⟨identity, report, given, reported, rfl⟩

/-- A rule whose identifier looks like a displayed key, two nodes with one displayed name and a
third whose address ends like a port. The second node sends a violation of a rule called `client`
without a descriptor, behind one record of the client and one of the first node. -/
theorem names_with_marks_inside :
    let bracketed : ViolationKey := ⟨"r[enabled=true]", false⟩
    let plain : ViolationKey := ⟨"r", true⟩
    let first : NodeIdentity := ⟨"a@b", "c", 1⟩
    let second : NodeIdentity := ⟨"a", "b@c", 1⟩
    let third : NodeIdentity := ⟨"a", "b@c:1", 1⟩
    let client : Report := { violations := [.ofRule "r" true true] }
    let nodes : NodeReports := [(first, { violations := [.ofRule "r" true false] }),
      (second, { violations := [(Violation.ofRule "client" true true).withoutPermissions] })]
    bracketed.display ≠ plain.display ∧
      first.display = second.display ∧
      '@' ∉ second.id.toList ∧ '@' ∉ third.id.toList ∧ second.display ≠ third.display ∧
      MergeMode.checked.run {} client nodes =
        .error (.missingPermissions "client" (.node second)) ∧
      ∃ place record, FirstBareAt client nodes place record ∧
        record.violation.ruleId = "client" ∧ record.source = .node second ∧
        client.violations.length ≤ place := by
  intro bracketed plain first second third client nodes
  obtain ⟨keys, nodeTexts, unmarked, refusals, notClient, _⟩ := displayed_names_identify
  have refused : MergeMode.checked.run {} client nodes =
      .error (.missingPermissions "client" (.node second)) := rfl
  have secondUnmarked : '@' ∉ second.id.toList := by decide
  have thirdUnmarked : '@' ∉ third.id.toList := by decide
  obtain ⟨place, record, bareAt, sameRule, sameSource, client_iff, _⟩ :=
    refusals .checked {} client nodes "client" (.node second) refused
  have behind : client.violations.length ≤ place :=
    Nat.not_lt.mp (mt client_iff.mpr (notClient second))
  have differs : second.display ≠ third.display :=
    mt (unmarked second third secondUnmarked thirdUnmarked) (by decide)
  exact ⟨mt (keys bracketed plain) (by decide), (nodeTexts first second).mpr ⟨rfl, by decide⟩,
    secondUnmarked, thirdUnmarked, differs, refused, place, record, bareAt, sameRule, sameSource,
    behind⟩

end ReportMerge
