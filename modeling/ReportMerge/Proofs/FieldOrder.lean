/-
The orders behind the sets and maps. Each comparison goes through the fields of its
type one after the other, texts by their bytes, ports as numbers, a denied right
before a granted one and no descriptor before any, and stops at the first field that
differs. So every two values stand in a fixed order, and a set of values has one list.
-/

import ReportMerge.Proofs.Ordered
import ReportMerge.Proofs.Text.ByteOrder
import ReportMerge.NodeIdentity
import Mathlib.Data.List.Dedup

namespace ReportMerge

namespace NodeIdentity

inductive Before (left right : NodeIdentity) : Prop
  | id (earlier : Text.utf8 left.id < Text.utf8 right.id)
  | apiAddress (sameId : left.id = right.id)
      (earlier : Text.utf8 left.apiAddress < Text.utf8 right.apiAddress)
  | apiPort (sameId : left.id = right.id) (sameAddress : left.apiAddress = right.apiAddress)
      (smaller : left.apiPort.toNat < right.apiPort.toNat)

end NodeIdentity

namespace ViolationKey

inductive Before (left right : ViolationKey) : Prop
  | ruleId (earlier : Text.utf8 left.ruleId < Text.utf8 right.ruleId)
  | enabled (sameRule : left.ruleId = right.ruleId) (disabled : left.enabled = false)
      (enabled : right.enabled = true)

end ViolationKey

namespace Permissions

inductive Before (left right : Permissions) : Prop
  | canRead (denied : left.canRead = false) (granted : right.canRead = true)
  | canWrite (sameRead : left.canRead = right.canRead) (denied : left.canWrite = false)
      (granted : right.canWrite = true)

end Permissions

namespace Sighting

inductive Before (left right : Sighting) : Prop
  | key (earlier : left.key.Before right.key)
  | undescribed {rightPermissions : Permissions} (sameKey : left.key = right.key)
      (leftBare : left.permissions = none)
      (rightDescribed : right.permissions = some rightPermissions)
  | permissions {leftPermissions rightPermissions : Permissions} (sameKey : left.key = right.key)
      (leftDescribed : left.permissions = some leftPermissions)
      (rightDescribed : right.permissions = some rightPermissions)
      (earlier : leftPermissions.Before rightPermissions)

end Sighting

/-! ### Comparing field by field -/

theorem compareLex_eq_lt_iff {α β : Type} [Ord β] [Std.LawfulEqOrd β] {field : α → β}
    {others : α → α → Ordering} {left right : α} :
    compareLex (compareOn field) others left right = .lt ↔
      compare (field left) (field right) = .lt ∨
        field left = field right ∧ others left right = .lt := by
  change (compare (field left) (field right)).then (others left right) = .lt ↔ _
  rw [Ordering.then_eq_lt, Std.LawfulEqCmp.compare_eq_iff_eq]

theorem compare_text_eq_lt_iff {left right : String} :
    compare left right = .lt ↔ Text.utf8 left < Text.utf8 right :=
  Text.compare_eq_lt_iff.trans Text.utf8_lt_iff.symm

theorem compare_flag_eq_lt_iff {left right : Bool} :
    compare left right = .lt ↔ left = false ∧ right = true := by
  cases left <;> cases right <;> decide

theorem compare_port_eq_lt_iff {left right : UInt16} :
    compare left right = .lt ↔ left.toNat < right.toNat :=
  compareOfLessAndEq_eq_lt.trans UInt16.lt_iff_toNat_lt

theorem NodeIdentity.compare_eq_lt_iff {left right : NodeIdentity} :
    compare left right = .lt ↔ left.Before right := by
  change compareLex _ (compareLex _ (compareOn NodeIdentity.apiPort)) left right = .lt ↔ _
  rw [compareLex_eq_lt_iff, compareLex_eq_lt_iff, compare_text_eq_lt_iff, compare_text_eq_lt_iff]
  change _ ∨ _ ∧ (_ ∨ _ ∧ compare left.apiPort right.apiPort = .lt) ↔ _
  rw [compare_port_eq_lt_iff]
  constructor
  · intro before
    rcases before with earlier | ⟨sameId, earlier | ⟨sameAddress, smaller⟩⟩
    · exact .id earlier
    · exact .apiAddress sameId earlier
    · exact .apiPort sameId sameAddress smaller
  · intro before
    cases before with
    | id earlier => exact .inl earlier
    | apiAddress sameId earlier => exact .inr ⟨sameId, .inl earlier⟩
    | apiPort sameId sameAddress smaller => exact .inr ⟨sameId, .inr ⟨sameAddress, smaller⟩⟩

theorem ViolationKey.compare_eq_lt_iff {left right : ViolationKey} :
    compare left right = .lt ↔ left.Before right := by
  change compareLex _ (compareOn ViolationKey.enabled) left right = .lt ↔ _
  rw [compareLex_eq_lt_iff, compare_text_eq_lt_iff]
  change _ ∨ _ ∧ compare left.enabled right.enabled = .lt ↔ _
  rw [compare_flag_eq_lt_iff]
  constructor
  · intro before
    rcases before with earlier | ⟨sameRule, disabled, enabled⟩
    · exact .ruleId earlier
    · exact .enabled sameRule disabled enabled
  · intro before
    cases before with
    | ruleId earlier => exact .inl earlier
    | enabled sameRule disabled enabled => exact .inr ⟨sameRule, disabled, enabled⟩

theorem Permissions.compare_eq_lt_iff {left right : Permissions} :
    compare left right = .lt ↔ left.Before right := by
  change compareLex _ (compareOn Permissions.canWrite) left right = .lt ↔ _
  rw [compareLex_eq_lt_iff, compare_flag_eq_lt_iff]
  change _ ∨ _ ∧ compare left.canWrite right.canWrite = .lt ↔ _
  rw [compare_flag_eq_lt_iff]
  constructor
  · intro before
    rcases before with ⟨denied, granted⟩ | ⟨sameRead, denied, granted⟩
    · exact .canRead denied granted
    · exact .canWrite sameRead denied granted
  · intro before
    cases before with
    | canRead denied granted => exact .inl ⟨denied, granted⟩
    | canWrite sameRead denied granted => exact .inr ⟨sameRead, denied, granted⟩

theorem Sighting.compare_eq_lt_iff {left right : Sighting} :
    compare left right = .lt ↔ left.Before right := by
  change compareLex _ (compareOn Sighting.permissions) left right = .lt ↔ _
  rw [compareLex_eq_lt_iff, ViolationKey.compare_eq_lt_iff]
  change _ ∨ _ ∧ compare left.permissions right.permissions = .lt ↔ _
  constructor
  · intro before
    rcases before with earlier | ⟨sameKey, earlier⟩
    · exact .key earlier
    · cases leftGiven : left.permissions with
      | none =>
          cases rightGiven : right.permissions with
          | none =>
              rw [leftGiven, rightGiven] at earlier
              cases earlier
          | some rightPermissions => exact .undescribed sameKey leftGiven rightGiven
      | some leftPermissions =>
          rw [leftGiven] at earlier
          cases rightGiven : right.permissions with
          | none =>
              rw [rightGiven] at earlier
              cases earlier
          | some rightPermissions =>
              rw [rightGiven] at earlier
              exact .permissions sameKey leftGiven rightGiven
                (Permissions.compare_eq_lt_iff.mp earlier)
  · intro before
    cases before with
    | key earlier => exact .inl earlier
    | undescribed sameKey leftBare rightDescribed =>
        rw [leftBare, rightDescribed]
        exact .inr ⟨sameKey, rfl⟩
    | permissions sameKey leftDescribed rightDescribed earlier =>
        rw [leftDescribed, rightDescribed]
        exact .inr ⟨sameKey, Permissions.compare_eq_lt_iff.mpr earlier⟩

/-! ### Total orders and the sets they sort -/

/-- The comparison is a total order: `before` tells which of two values comes first, and `same` when
neither does. -/
structure TotalComparison (α : Type) [Ord α] (before same : α → α → Prop) : Prop where
  lt_iff : ∀ left right : α, compare left right = .lt ↔ before left right
  gt_iff : ∀ left right : α, compare left right = .gt ↔ before right left
  eq_iff : ∀ left right : α, compare left right = .eq ↔ same left right
  same_iff : ∀ left right : α, same left right ↔ left = right
  transitive : ∀ first second third : α, (compare first second).isLE →
    (compare second third).isLE → (compare first third).isLE
  antisymmetric : ∀ left right : α, (compare left right).isLE → (compare right left).isLE →
    left = right
  total : ∀ left right : α, (compare left right).isLE ∨ (compare right left).isLE

/-- Passing a list through a set leaves each of its members once, every one before the later ones,
and nothing else of the list matters. -/
structure SetsAscend (α : Type) [Ord α] [DecidableEq α] (before : α → α → Prop) : Prop where
  pairwise : ∀ items : List α, (ascending items).Pairwise before
  perm : ∀ items : List α, (ascending items).Perm items.dedup
  congr : ∀ items others : List α, (∀ item, item ∈ items ↔ item ∈ others) →
    ascending items = ascending others

section

variable {α : Type} [Ord α] [Std.TransOrd α] [Std.LawfulEqOrd α] {before same : α → α → Prop}

theorem totalComparison
    (lt_iff : ∀ {left right : α}, compare left right = .lt ↔ before left right)
    (same_iff : ∀ left right : α, same left right ↔ left = right) :
    TotalComparison α before same where
  lt_iff := fun _left _right => lt_iff
  gt_iff := fun _left _right => Std.OrientedCmp.gt_iff_lt.trans lt_iff
  eq_iff := fun left right =>
    Std.LawfulEqCmp.compare_eq_iff_eq.trans (same_iff left right).symm
  same_iff := same_iff
  transitive := fun _first _second _third => Std.TransCmp.isLE_trans
  antisymmetric := fun _left _right forward backward =>
    Std.LawfulEqOrd.eq_of_compare (Std.OrientedCmp.isLE_antisymm forward backward)
  total := by
    intro left right
    cases order : compare left right with
    | lt => exact .inl rfl
    | eq => exact .inl rfl
    | gt =>
        have less : compare right left = .lt := Std.OrientedCmp.gt_iff_lt.mp order
        rw [less]
        exact .inr rfl

theorem setsAscend [DecidableEq α]
    (lt_iff : ∀ {left right : α}, compare left right = .lt ↔ before left right) :
    SetsAscend α before where
  pairwise := fun items => (ascends_ascending items).imp lt_iff.mp
  perm := by
    intro items
    refine (List.perm_ext_iff_of_nodup (ascends_ascending items).nodup items.nodup_dedup).mpr ?_
    intro item
    rw [mem_ascending, List.mem_dedup]
  congr := fun _items _others => ascending_congr

end

/-- The comparisons of texts, identities, keys, descriptors and sightings are total orders that go
through the fields in turn, and texts stand in the order of their bytes, which is the order of their
code points. So a set has one ascending list, whatever list it was filled from. -/
theorem comparisons_order_all_values :
    (∀ left right : String,
      Text.utf8 left < Text.utf8 right ↔ Text.codePoints left < Text.codePoints right) ∧
    TotalComparison String (fun left right => Text.utf8 left < Text.utf8 right) Eq ∧
    TotalComparison NodeIdentity NodeIdentity.Before (fun left right =>
      left.id = right.id ∧ left.apiAddress = right.apiAddress ∧ left.apiPort = right.apiPort) ∧
    TotalComparison ViolationKey ViolationKey.Before (fun left right =>
      left.ruleId = right.ruleId ∧ left.enabled = right.enabled) ∧
    TotalComparison Permissions Permissions.Before (fun left right =>
      left.canRead = right.canRead ∧ left.canWrite = right.canWrite) ∧
    TotalComparison Sighting Sighting.Before (fun left right =>
      left.key = right.key ∧ left.permissions = right.permissions) ∧
    SetsAscend String (fun left right => Text.utf8 left < Text.utf8 right) ∧
    SetsAscend NodeIdentity NodeIdentity.Before ∧
    SetsAscend ViolationKey ViolationKey.Before ∧
    SetsAscend Permissions Permissions.Before ∧
    SetsAscend Sighting Sighting.Before := by
  refine ⟨?_, totalComparison compare_text_eq_lt_iff ?_,
    totalComparison NodeIdentity.compare_eq_lt_iff ?_,
    totalComparison ViolationKey.compare_eq_lt_iff ?_,
    totalComparison Permissions.compare_eq_lt_iff ?_,
    totalComparison Sighting.compare_eq_lt_iff ?_,
    setsAscend compare_text_eq_lt_iff, setsAscend NodeIdentity.compare_eq_lt_iff,
    setsAscend ViolationKey.compare_eq_lt_iff, setsAscend Permissions.compare_eq_lt_iff,
    setsAscend Sighting.compare_eq_lt_iff⟩
  · intro left right
    exact Text.utf8_lt_iff.trans Text.codePoints_lt_iff.symm
  · intro left right
    exact Iff.rfl
  · intro left right
    exact Iff.of_eq (NodeIdentity.mk.injEq ..).symm
  · intro left right
    exact Iff.of_eq (ViolationKey.mk.injEq ..).symm
  · intro left right
    exact Iff.of_eq (Permissions.mk.injEq ..).symm
  · intro left right
    exact Iff.of_eq (Sighting.mk.injEq ..).symm

/-- Identifiers of one character: the last one of three bytes comes before one of four, and of the
two identities that share it port 9 comes before port 10. -/
theorem set_of_identities_with_long_characters :
    let first : NodeIdentity := ⟨"\uffff", "host", 9⟩
    let second : NodeIdentity := ⟨"\uffff", "host", 10⟩
    let third : NodeIdentity := ⟨"😀", "host", 1⟩
    (∀ item, item ∈ [third, second, first, second] ↔ item ∈ [second, first, third]) ∧
      first.Before second ∧ second.Before third ∧
      ascending [third, second, first, second] = ascending [second, first, third] ∧
      ascending [third, second, first, second] = [first, second, third] := by
  intro first second third
  obtain ⟨_, _, identities, _, _, _, _, sets, _⟩ := comparisons_order_all_values
  have sameMembers : ∀ item, item ∈ [third, second, first, second] ↔
      item ∈ [second, first, third] := by
    intro item
    simp only [List.mem_cons, List.not_mem_nil, or_false]
    tauto
  exact ⟨sameMembers, (identities.lt_iff first second).mp (by decide),
    (identities.lt_iff second third).mp (by decide), sets.congr _ _ sameMembers, by decide⟩

end ReportMerge
