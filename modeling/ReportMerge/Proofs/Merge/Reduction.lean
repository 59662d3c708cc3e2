/-
Descriptors reduced to one. The meet of a list grants what every descriptor of the
list grants, so neither order nor repetition shows in it. It is where the running
meet from the unrestricted descriptor ends, and that run only ever takes flags away.
The descriptor of a group is the reduction of the descriptors of its records.
-/

import ReportMerge.Proofs.Merge.Restriction

namespace ReportMerge

namespace Permissions

theorem foldl_meet (descriptors : List Permissions) (start : Permissions) :
    descriptors.foldl meet start =
      ⟨start.canRead && descriptors.all canRead, start.canWrite && descriptors.all canWrite⟩ := by
  induction descriptors generalizing start with
  | nil => simp
  | cons first others ih =>
      rw [List.foldl_cons, ih, List.all_cons, List.all_cons]
      simp only [meet, Bool.and_assoc]

theorem foldl_meet_allowAll (descriptors : List Permissions) :
    descriptors.foldl meet allowAll = ⟨descriptors.all canRead, descriptors.all canWrite⟩ := by
  rw [foldl_meet]
  simp only [allowAll, Bool.true_and]

theorem reduce_eq_none_iff {descriptors : List Permissions} :
    reduce descriptors = none ↔ descriptors = [] := by
  cases descriptors with
  | nil => simp [reduce]
  | cons first others => simp [reduce]

theorem reduce_of_ne_nil {descriptors : List Permissions} (given : descriptors ≠ []) :
    reduce descriptors = some (descriptors.foldl meet allowAll) := by
  cases descriptors with
  | nil => exact absurd rfl given
  | cons first others =>
      have start : allowAll.meet first = first := by simp [meet, allowAll]
      rw [List.foldl_cons, start]
      rfl

theorem reduce_congr {left right : List Permissions}
    (same : ∀ descriptor, descriptor ∈ left ↔ descriptor ∈ right) :
    reduce left = reduce right := by
  by_cases empty : left = []
  · have emptyToo : right = [] := by
      apply List.eq_nil_iff_forall_not_mem.mpr
      intro descriptor member
      rw [← same, empty] at member
      cases member
    rw [empty, emptyToo]
  · have givenToo : right ≠ [] := by
      obtain ⟨descriptor, member⟩ := List.exists_mem_of_ne_nil left empty
      exact List.ne_nil_of_mem ((same descriptor).mp member)
    have sameAll (flag : Permissions → Bool) : left.all flag = right.all flag := by
      rw [Bool.eq_iff_iff, List.all_eq_true, List.all_eq_true]
      simp only [same]
    rw [reduce_of_ne_nil empty, reduce_of_ne_nil givenToo, foldl_meet_allowAll,
      foldl_meet_allowAll, sameAll, sameAll]

theorem reduce_append {left right : List Permissions} (leftGiven : left ≠ [])
    (rightGiven : right ≠ []) :
    reduce (left ++ right) =
      (reduce left).bind fun front => (reduce right).map fun back => front.meet back := by
  have given : left ++ right ≠ [] := List.append_ne_nil_of_left_ne_nil leftGiven right
  rw [reduce_of_ne_nil given, reduce_of_ne_nil leftGiven, reduce_of_ne_nil rightGiven]
  simp only [foldl_meet_allowAll, List.all_append, Option.bind_some, Option.map_some, meet]

/-! ### The run from the unrestricted descriptor -/

theorem meet_atMost (left right : Permissions) : (left.meet right).AtMost left := by
  constructor
  · intro granted
    exact (Bool.and_eq_true_iff.mp granted).1
  · intro granted
    exact (Bool.and_eq_true_iff.mp granted).1

theorem AtMost.trans {first second third : Permissions} (lower : first.AtMost second)
    (upper : second.AtMost third) : first.AtMost third :=
  ⟨fun granted => upper.1 (lower.1 granted), fun granted => upper.2 (lower.2 granted)⟩

theorem getElem?_trail (descriptors : List Permissions) (start : Permissions) (index : Nat) :
    (trail start descriptors)[index]? =
      if index < descriptors.length then some ((descriptors.take (index + 1)).foldl meet start)
      else none := by
  induction descriptors generalizing start index with
  | nil => rfl
  | cons first others ih =>
      cases index with
      | zero => rfl
      | succ index =>
          rw [trail, List.getElem?_cons_succ, ih, List.take_succ_cons, List.foldl_cons]
          simp only [List.length_cons, Nat.add_lt_add_iff_right]

theorem length_trail (descriptors : List Permissions) (start : Permissions) :
    (trail start descriptors).length = descriptors.length := by
  induction descriptors generalizing start with
  | nil => rfl
  | cons first others ih => rw [trail, List.length_cons, ih, List.length_cons]

theorem getLast?_trail (descriptors : List Permissions) :
    (trail allowAll descriptors).getLast? = reduce descriptors := by
  rw [List.getLast?_eq_getElem?, length_trail, getElem?_trail]
  cases descriptors with
  | nil => rfl
  | cons first others =>
      have given : first :: others ≠ [] := List.cons_ne_nil first others
      rw [reduce_of_ne_nil given, List.length_cons, Nat.add_sub_cancel,
        if_pos (Nat.lt_succ_self _), ← List.length_cons (a := first), List.take_length]

theorem atMost_of_mem_trail {descriptors : List Permissions} {start reached : Permissions}
    (member : reached ∈ trail start descriptors) : reached.AtMost start := by
  induction descriptors generalizing start with
  | nil => cases member
  | cons first others ih =>
      rcases List.mem_cons.mp member with here | later
      · rw [here]
        exact meet_atMost start first
      · exact (ih later).trans (meet_atMost start first)

/-- A flag that is lost on the run stays lost. -/
theorem pairwise_atMost_trail (descriptors : List Permissions) (start : Permissions) :
    (start :: trail start descriptors).Pairwise fun earlier later => later.AtMost earlier := by
  induction descriptors generalizing start with
  | nil => exact List.pairwise_singleton _ _
  | cons first others ih =>
      refine List.pairwise_cons.mpr ⟨?_, ih (start.meet first)⟩
      intro reached member
      exact atMost_of_mem_trail member

end Permissions

/-! ### The descriptors of groups -/

/-- A group that records join one by one has what it had and what the records bring, reduced. -/
theorem Group.permissions_foldl_join (records : List Settled) (group : Option Group) :
    (records.foldl join group).map Group.permissions =
      Permissions.reduce ((group.map Group.permissions).toList ++
        records.map Settled.permissions) := by
  induction records generalizing group with
  | nil => cases group <;> rfl
  | cons record rest ih =>
      rw [List.foldl_cons, ih]
      cases group with
      | none => rfl
      | some group => rfl

theorem Groups.permissions_foldl_absorb (records : List Settled) (groups : Groups)
    (key : ViolationKey) :
    (records.foldl absorb groups)[key]?.map Group.permissions =
      Permissions.reduce ((groups[key]?.map Group.permissions).toList ++
        (records.filter fun settled => settled.violation.key = key).map Settled.permissions) := by
  rw [getElem?_foldl_absorb, Group.permissions_foldl_join]

/-- However its records came in and whoever sent them, a group has their descriptors reduced. -/
theorem Groups.permissions_ofSettled {missing : MissingPermissions} {records : List Record}
    {settled : List Settled} (accepted : records.mapM (Record.settle missing) = .ok settled)
    (key : ViolationKey) :
    (Groups.ofList settled)[key]?.map Group.permissions =
      Permissions.reduce ((ofKey key (records.map Record.violation)).map Violation.effective) := by
  have whole : (records.map Record.violation).map Violation.settled = settled := by
    rw [Record.mapM_settle] at accepted
    cases found : records.find? (Record.refusedUnder missing) with
    | some record =>
        rw [found] at accepted
        cases accepted
    | none =>
        rw [found] at accepted
        cases accepted
        rw [List.map_map]
        rfl
  subst whole
  unfold ofList ofKey
  rw [permissions_foldl_absorb, Std.TreeMap.getElem?_emptyc, List.filter_map, List.map_map]
  rfl

/-- The law of reduction. A reduction exists unless there is nothing to reduce, grants what all
descriptors grant, ends the run from the unrestricted descriptor, on which no flag comes back, and
depends on the set of its descriptors alone; two parts are reduced apart and then met. Every group
that records form, in whatever order and from whatever sources, has the reduction of the effective
descriptors of its records. -/
theorem reduction_of_descriptors (descriptors further : List Permissions) :
    (Permissions.reduce descriptors = none ↔ descriptors = []) ∧
    (descriptors ≠ [] →
      Permissions.reduce descriptors =
          some ⟨descriptors.all Permissions.canRead, descriptors.all Permissions.canWrite⟩ ∧
        Permissions.reduce descriptors =
          some (descriptors.foldl Permissions.meet .allowAll)) ∧
    (Permissions.trail .allowAll descriptors).getLast? = Permissions.reduce descriptors ∧
    (Permissions.allowAll :: Permissions.trail .allowAll descriptors).Pairwise
      (fun earlier later => later.AtMost earlier) ∧
    ((∀ descriptor, descriptor ∈ descriptors ↔ descriptor ∈ further) →
      Permissions.reduce descriptors = Permissions.reduce further) ∧
    (descriptors ≠ [] → further ≠ [] → ∃ front back,
      Permissions.reduce descriptors = some front ∧ Permissions.reduce further = some back ∧
        Permissions.reduce (descriptors ++ further) = some (front.meet back)) ∧
    ∀ (missing : MissingPermissions) (records : List Record) (settled : List Settled),
      records.mapM (Record.settle missing) = .ok settled → ∀ key,
        (Groups.ofList settled)[key]?.map Group.permissions =
          Permissions.reduce
            ((ofKey key (records.map Record.violation)).map Violation.effective) := by
  refine ⟨Permissions.reduce_eq_none_iff, ?_, Permissions.getLast?_trail descriptors,
    Permissions.pairwise_atMost_trail descriptors .allowAll, Permissions.reduce_congr, ?_, ?_⟩
  · intro given
    have reduced := Permissions.reduce_of_ne_nil given
    refine ⟨?_, reduced⟩
    rw [reduced, Permissions.foldl_meet_allowAll]
  · intro given furtherGiven
    refine ⟨_, _, Permissions.reduce_of_ne_nil given, Permissions.reduce_of_ne_nil furtherGiven, ?_⟩
    rw [Permissions.reduce_append given furtherGiven, Permissions.reduce_of_ne_nil given,
      Permissions.reduce_of_ne_nil furtherGiven]
    rfl
  · intro missing records settled accepted key
    exact Groups.permissions_ofSettled accepted key

/-- Two lists with the same two descriptors, and four records of which the client sends the first
and the last: one of the four has another key, and the last one comes without a descriptor. -/
theorem reduction_of_interleaved_denial :
    let readOnly : Permissions := ⟨true, false⟩
    let node : Source := .node ⟨"n", "host", 1⟩
    let records : List Record :=
      [⟨.client, .ofRule "a" true true⟩, ⟨node, .ofRule "b" true true⟩,
        ⟨node, .ofRule "a" true false⟩,
        ⟨.client, (Violation.ofRule "a" true true).withoutPermissions⟩]
    (∀ descriptor, descriptor ∈ [.allowAll, readOnly] ↔
        descriptor ∈ [readOnly, .allowAll, readOnly]) ∧
      Permissions.reduce [.allowAll, readOnly] =
        Permissions.reduce [readOnly, .allowAll, readOnly] ∧
      Permissions.reduce [.allowAll, readOnly] = some readOnly ∧
      (∃ front back, Permissions.reduce [.allowAll, readOnly] = some front ∧
        Permissions.reduce [readOnly, .allowAll, readOnly] = some back ∧
        Permissions.reduce ([.allowAll, readOnly] ++ [readOnly, .allowAll, readOnly]) =
          some (front.meet back)) ∧
      ∃ settled, records.mapM (Record.settle .deny) = .ok settled ∧
        (Groups.ofList settled)[(⟨"a", false⟩ : ViolationKey)]?.map Group.permissions =
          some .denyAll := by
  intro readOnly node records
  obtain ⟨_, whole, _, _, sameSet, parts, groups⟩ :=
    reduction_of_descriptors [.allowAll, readOnly] [readOnly, .allowAll, readOnly]
  have sameMembers : ∀ descriptor, descriptor ∈ [.allowAll, readOnly] ↔
      descriptor ∈ [readOnly, .allowAll, readOnly] := by
    intro descriptor
    simp only [List.mem_cons, List.not_mem_nil, or_false]
    tauto
  have given : [Permissions.allowAll, readOnly] ≠ [] := List.cons_ne_nil _ _
  refine ⟨sameMembers, sameSet sameMembers, (whole given).1, parts given (List.cons_ne_nil _ _),
    _, rfl, ?_⟩
  rw [groups .deny records _ rfl]
  decide

end ReportMerge
