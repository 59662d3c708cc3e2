/-
What grouping makes of a list of violations. The group of a key consists of the
first violation with that key and of what all violations with that key grant
together, however they lie among violations with other keys. The first rule
with each identifier is found in the same way.
-/

import ReportMerge.Proofs.Merge.Settling
import ReportMerge.Proofs.Ordered

namespace ReportMerge

def ofKey (key : ViolationKey) (violations : List Violation) : List Violation :=
  violations.filter fun violation => violation.key = key

@[simp]
theorem ofKey_append (key : ViolationKey) (left right : List Violation) :
    ofKey key (left ++ right) = ofKey key left ++ ofKey key right :=
  List.filter_append ..

@[simp]
theorem mem_ofKey {key : ViolationKey} {violations : List Violation} {violation : Violation} :
    violation ∈ ofKey key violations ↔ violation ∈ violations ∧ violation.key = key := by
  unfold ofKey
  rw [List.mem_filter, decide_eq_true_eq]

theorem ofKey_eq_nil_iff {key : ViolationKey} {violations : List Violation} :
    ofKey key violations = [] ↔ key ∉ violations.map Violation.key := by
  rw [List.eq_nil_iff_forall_not_mem, List.mem_map]
  constructor
  · rintro absent ⟨violation, member, same⟩
    exact absent violation (mem_ofKey.mpr ⟨member, same⟩)
  · intro absent violation member
    exact absent ⟨violation, mem_ofKey.mp member⟩

namespace Group

def join : Option Group → Settled → Option Group
  | none, settled => some (.ofSettled settled)
  | some group, settled => some (group.add settled)

def of? : List Violation → Option Group
  | [] => none
  | first :: others => some ⟨first, jointPermissions (first :: others)⟩

private theorem foldl_join_some (violations : List Violation) (group : Group) :
    (violations.map Violation.settled).foldl join (some group) =
      some { group with permissions := group.permissions.meet (jointPermissions violations) } := by
  induction violations generalizing group with
  | nil =>
      rw [jointPermissions_nil, Permissions.meet_allowAll]
      rfl
  | cons first others ih =>
      rw [List.map_cons, List.foldl_cons]
      change (others.map Violation.settled).foldl join (some (group.add first.settled)) = _
      rw [ih, jointPermissions_cons, ← Permissions.meet_assoc]
      rfl

theorem foldl_join_none (violations : List Violation) :
    (violations.map Violation.settled).foldl join none = of? violations := by
  cases violations with
  | nil => rfl
  | cons first others => exact foldl_join_some others (.ofSettled first.settled)

theorem of?_eq_none_iff {violations : List Violation} :
    of? violations = none ↔ violations = [] := by
  cases violations with
  | nil => simp [of?]
  | cons first others => simp [of?]

theorem permissions_of_of? {violations : List Violation} {group : Group}
    (formed : of? violations = some group) : group.permissions = jointPermissions violations := by
  cases violations with
  | nil => cases formed
  | cons first others =>
      cases formed
      rfl

theorem representative_of_of? {violations : List Violation} {group : Group}
    (formed : of? violations = some group) : violations.head? = some group.representative := by
  cases violations with
  | nil => cases formed
  | cons first others =>
      cases formed
      rfl

theorem key_of_of?_ofKey {key : ViolationKey} {violations : List Violation} {group : Group}
    (formed : of? (ofKey key violations) = some group) : group.representative.key = key := by
  have first := List.mem_of_mem_head? (representative_of_of? formed)
  exact (mem_ofKey.mp first).2

end Group

def standFor? (violations : List Violation) : Option Violation :=
  (Group.of? violations).map Group.violation

@[simp]
theorem standFor?_nil : standFor? [] = none := rfl

theorem standFor?_eq_none_iff {violations : List Violation} :
    standFor? violations = none ↔ violations = [] := by
  unfold standFor?
  rw [Option.map_eq_none_iff, Group.of?_eq_none_iff]

@[simp]
theorem standFor?_cons (first : Violation) (others : List Violation) :
    standFor? (first :: others) =
      some (first.withPermissions (jointPermissions (first :: others))) := rfl

/-- Of the words only those of the first violation matter, of the rights those of all. -/
theorem standFor?_congr {left right : List Violation}
    (sameWords : left.head?.map Violation.withoutPermissions =
      right.head?.map Violation.withoutPermissions)
    (sameRights : jointPermissions left = jointPermissions right) :
    standFor? left = standFor? right := by
  have told (violations : List Violation) :
      standFor? violations =
        (violations.head?.map Violation.withoutPermissions).map fun words =>
          words.withPermissions (jointPermissions violations) := by
    cases violations <;> rfl
  rw [told left, told right, sameWords, sameRights]

/-- What stands for the front of a list is all that matters of it for the whole. -/
theorem standFor?_append (front back : List Violation) :
    standFor? (front ++ back) =
      match standFor? front with
      | none => standFor? back
      | some violation =>
          some (violation.withPermissions
            (violation.effective.meet (jointPermissions back))) := by
  cases front with
  | nil => rfl
  | cons first others =>
      rw [List.cons_append, standFor?_cons, standFor?_cons, ← List.cons_append,
        jointPermissions_append]
      rfl

theorem standFor?_append_congr {left right : List Violation}
    (same : standFor? left = standFor? right) (back : List Violation) :
    standFor? (left ++ back) = standFor? (right ++ back) := by
  rw [standFor?_append, standFor?_append, same]

theorem standFor?_standFor? (violations : List Violation) :
    standFor? (standFor? violations).toList = standFor? violations := by
  cases violations with
  | nil => rfl
  | cons first others =>
      rw [standFor?_cons, Option.toList_some, standFor?_cons,
        Violation.withPermissions_withPermissions, jointPermissions_cons _ [],
        jointPermissions_nil, Permissions.meet_allowAll, Violation.effective_withPermissions]

/-- The same violations once more change nothing. -/
theorem standFor?_append_again (front back : List Violation) :
    standFor? (front ++ back ++ back) = standFor? (front ++ back) := by
  apply standFor?_congr
  · rw [List.head?_append, List.head?_append, Option.or_assoc, Option.or_self]
  · rw [jointPermissions_append, jointPermissions_append, Permissions.meet_assoc,
      Permissions.meet_self]

theorem jointPermissions_of_standFor? {left right : List Violation}
    (same : standFor? left = standFor? right) : jointPermissions left = jointPermissions right := by
  have told (violations : List Violation) :
      jointPermissions violations =
        ((standFor? violations).map Violation.effective).getD .allowAll := by
    cases violations <;> rfl
  rw [told left, told right, same]

/-! ### The groups of a list -/

namespace Groups

def ofList (records : List Settled) : Groups := records.foldl absorb ∅

/-- The groups that every one of their records allows to be read. -/
def readable (groups : Groups) : List Group :=
  groups.values.filter fun group => group.permissions.canRead

def unreadableKeys (groups : Groups) : List ViolationKey :=
  (groups.toList.filter fun (_, group) => !group.permissions.canRead).map Prod.fst

theorem getElem?_absorb (groups : Groups) (settled : Settled) (key : ViolationKey) :
    (groups.absorb settled)[key]? =
      if settled.violation.key = key then Group.join groups[key]? settled else groups[key]? := by
  unfold absorb
  rw [Std.TreeMap.getElem?_alter]
  by_cases same : settled.violation.key = key
  · rw [if_pos (Std.LawfulEqCmp.compare_eq_iff_eq.mpr same), if_pos same, same]
    cases groups[key]? <;> rfl
  · rw [if_neg (mt Std.LawfulEqCmp.compare_eq_iff_eq.mp same), if_neg same]

/-- What the map holds at a key comes from the records with that key alone. -/
theorem getElem?_foldl_absorb (records : List Settled) (groups : Groups) (key : ViolationKey) :
    (records.foldl absorb groups)[key]? =
      (records.filter fun settled => settled.violation.key = key).foldl Group.join
        groups[key]? := by
  induction records generalizing groups with
  | nil => rfl
  | cons settled rest ih =>
      rw [List.foldl_cons, ih, getElem?_absorb]
      by_cases same : settled.violation.key = key
      · rw [if_pos same, List.filter_cons_of_pos (by simp [same]), List.foldl_cons]
      · rw [if_neg same, List.filter_cons_of_neg (by simp [same])]

theorem getElem?_ofList (violations : List Violation) (key : ViolationKey) :
    (ofList (violations.map Violation.settled))[key]? = Group.of? (ofKey key violations) := by
  unfold ofList ofKey
  rw [getElem?_foldl_absorb, List.filter_map, Std.TreeMap.getElem?_emptyc]
  exact Group.foldl_join_none _

theorem keys_ofList (violations : List Violation) :
    (ofList (violations.map Violation.settled)).keys =
      ascending (violations.map Violation.key) := by
  apply keys_eq_ascending
  intro key
  rw [Std.TreeMap.mem_iff_isSome_getElem?, getElem?_ofList, Option.isSome_iff_ne_none, ne_eq,
    Group.of?_eq_none_iff, ofKey_eq_nil_iff, not_not]

end Groups

def readableGroup? (violations : List Violation) (key : ViolationKey) : Option Group :=
  (Group.of? (ofKey key violations)).filter fun group => group.permissions.canRead

def readableGroups (violations : List Violation) : List Group :=
  (ascending (violations.map Violation.key)).filterMap (readableGroup? violations)

def hiddenKeys (violations : List Violation) : List ViolationKey :=
  (ascending (violations.map Violation.key)).filter fun key =>
    !(jointPermissions (ofKey key violations)).canRead

theorem Groups.readable_ofList (violations : List Violation) :
    (Groups.ofList (violations.map Violation.settled)).readable = readableGroups violations := by
  unfold Groups.readable
  rw [values_eq_filterMap_keys, List.filter_filterMap, Groups.keys_ofList]
  apply List.filterMap_congr
  intro key _member
  rw [Groups.getElem?_ofList]
  rfl

theorem Groups.unreadableKeys_ofList (violations : List Violation) :
    (Groups.ofList (violations.map Violation.settled)).unreadableKeys = hiddenKeys violations := by
  unfold Groups.unreadableKeys
  rw [toList_eq_filterMap_keys, List.filter_filterMap, List.map_filterMap, Groups.keys_ofList]
  unfold hiddenKeys
  rw [← List.filterMap_eq_filter]
  apply List.filterMap_congr
  intro key member
  rw [Groups.getElem?_ofList]
  cases formed : Group.of? (ofKey key violations) with
  | none =>
      have absent := ofKey_eq_nil_iff.mp (Group.of?_eq_none_iff.mp formed)
      exact absurd (mem_ascending.mp member) absent
  | some group =>
      have same := Group.permissions_of_of? formed
      simp only [Option.map_some, Option.filter, Option.guard, ← same]
      split <;> rfl

def firstById (rules : List Rule) : List Rule := (rules.foldl Rules.add ∅).values

def firstRule? (rules : List Rule) (id : String) : Option Rule :=
  rules.find? fun rule => rule.id = id

theorem id_of_firstRule? {rules : List Rule} {id : String} {rule : Rule}
    (first : firstRule? rules id = some rule) : rule.id = id := by
  unfold firstRule? at first
  simpa using List.find?_some first

theorem firstRule?_isSome_iff {rules : List Rule} {id : String} :
    (firstRule? rules id).isSome = true ↔ id ∈ rules.map Rule.id := by
  unfold firstRule?
  rw [List.find?_isSome, List.mem_map]
  simp only [decide_eq_true_eq]

theorem firstRule?_append (front back : List Rule) (id : String) :
    firstRule? (front ++ back) id = (firstRule? front id).or (firstRule? back id) :=
  List.find?_append

theorem Rules.getElem?_foldl_add (rules : List Rule) (known : Rules) (id : String) :
    (rules.foldl add known)[id]? = known[id]?.or (firstRule? rules id) := by
  induction rules generalizing known with
  | nil => exact (Option.or_none).symm
  | cons rule rest ih =>
      rw [List.foldl_cons, ih]
      unfold add
      rw [Std.TreeMap.getElem?_insertIfNew]
      unfold firstRule?
      by_cases same : rule.id = id
      · subst id
        rw [List.find?_cons_of_pos (by simp)]
        by_cases present : rule.id ∈ known
        · obtain ⟨earlier, held⟩ := Option.isSome_iff_exists.mp
            (Std.TreeMap.mem_iff_isSome_getElem?.mp present)
          rw [if_neg (fun fresh => fresh.2 present), held]
          rfl
        · rw [if_pos ⟨Std.LawfulEqCmp.compare_eq_iff_eq.mpr rfl, present⟩,
            Std.TreeMap.getElem?_eq_none present]
          rfl
      · rw [if_neg (fun fresh => same (Std.LawfulEqCmp.compare_eq_iff_eq.mp fresh.1)),
          List.find?_cons_of_neg (by simp [same])]

theorem firstById_eq (rules : List Rule) :
    firstById rules = (ascending (rules.map Rule.id)).filterMap (firstRule? rules) := by
  unfold firstById
  rw [values_eq_filterMap_keys]
  have lookup (id : String) := Rules.getElem?_foldl_add rules ∅ id
  have keys := keys_eq_ascending (rules.foldl Rules.add ∅) (rules.map Rule.id) (by
    intro id
    rw [Std.TreeMap.mem_iff_isSome_getElem?, lookup, Std.TreeMap.getElem?_emptyc,
      Option.none_or, firstRule?_isSome_iff])
  rw [keys]
  apply List.filterMap_congr
  intro id _member
  rw [lookup, Std.TreeMap.getElem?_emptyc, Option.none_or]

end ReportMerge
