/-
Strictly ascending lists, and the ordered maps and sets that produce them. An
ascending list is determined by its members; the entries of an ordered map are
determined by its keys and by what it holds at each of them.
-/

import ReportMerge.Report
import Mathlib.Data.List.Sort

namespace ReportMerge

/-- Every member comes before all later ones, so none occurs twice. -/
def Ascends {α : Type} [Ord α] (items : List α) : Prop :=
  items.Pairwise fun left right => compare left right = .lt

section

variable {α : Type} [Ord α] [Std.TransOrd α]

private theorem not_before_itself (item : α) : compare item item ≠ .lt := by
  have same : compare item item = .eq := Std.ReflCmp.compare_self
  rw [same]
  intro impossible
  cases impossible

theorem Ascends.nodup {items : List α} (ascends : Ascends items) : items.Nodup := by
  refine List.Pairwise.imp ?_ ascends
  intro left right before same
  subst right
  exact not_before_itself left before

/-- Two lists whose names ascend are the same list if they have the same members. -/
theorem eq_of_ascends_map {β : Type} {name : β → α} {left right : List β}
    (leftAscends : Ascends (left.map name)) (rightAscends : Ascends (right.map name))
    (same : ∀ item, item ∈ left ↔ item ∈ right) : left = right := by
  have antisymmetric : Std.Antisymm fun first second : β =>
      compare (name first) (name second) = .lt := by
    constructor
    intro first second forward backward
    exact absurd (Std.TransCmp.lt_trans forward backward) (not_before_itself (name first))
  have irreflexive : Std.Irrefl fun first second : β =>
      compare (name first) (name second) = .lt :=
    ⟨fun item => not_before_itself (name item)⟩
  exact List.Pairwise.eq_of_mem_iff (List.pairwise_map.mp leftAscends)
    (List.pairwise_map.mp rightAscends) same

/-- Two ascending lists with the same members are the same list. -/
theorem Ascends.eq_of_mem_iff {left right : List α} (leftAscends : Ascends left)
    (rightAscends : Ascends right) (same : ∀ item, item ∈ left ↔ item ∈ right) :
    left = right := by
  rw [← List.map_id left] at leftAscends
  rw [← List.map_id right] at rightAscends
  exact eq_of_ascends_map leftAscends rightAscends same

theorem ascends_ascending (items : List α) : Ascends (ascending items) :=
  Std.TreeSet.ordered_toList

variable [Std.LawfulEqOrd α]

theorem mem_ascending [DecidableEq α] {item : α} {items : List α} :
    item ∈ ascending items ↔ item ∈ items := by
  unfold ascending
  rw [Std.TreeSet.mem_toList, Std.TreeSet.mem_ofList, List.contains_iff_mem]

theorem ascending_congr [DecidableEq α] {left right : List α}
    (same : ∀ item, item ∈ left ↔ item ∈ right) : ascending left = ascending right := by
  apply (ascends_ascending left).eq_of_mem_iff (ascends_ascending right)
  intro item
  rw [mem_ascending, mem_ascending]
  exact same item

theorem Ascends.ascending_eq [DecidableEq α] {items : List α} (ascends : Ascends items) :
    ascending items = items :=
  (ascends_ascending items).eq_of_mem_iff ascends fun _item => mem_ascending

end

section

variable {κ β : Type} [Ord κ] [Std.TransOrd κ] [Std.LawfulEqOrd κ]

theorem keys_eq_ascending [DecidableEq κ] (map : Std.TreeMap κ β compare) (items : List κ)
    (same : ∀ key, key ∈ map ↔ key ∈ items) : map.keys = ascending items := by
  have ascends : Ascends map.keys := Std.TreeMap.ordered_keys
  apply ascends.eq_of_mem_iff (ascends_ascending items)
  intro key
  rw [Std.TreeMap.mem_keys, mem_ascending]
  exact same key

theorem toList_eq_filterMap_keys (map : Std.TreeMap κ β compare) :
    map.toList = map.keys.filterMap fun key => map[key]?.map fun value => (key, value) := by
  rw [← Std.TreeMap.map_fst_toList_eq_keys, List.filterMap_map]
  symm
  calc
    _ = map.toList.filterMap some := by
      apply List.filterMap_congr
      intro entry member
      have held : map[entry.1]? = some entry.2 :=
        Std.TreeMap.mem_toList_iff_getElem?_eq_some.mp member
      rw [Function.comp_apply, held]
      rfl
    _ = map.toList := List.filterMap_some

omit [Std.TransOrd κ] [Std.LawfulEqOrd κ] in
theorem values_eq_map_toList (map : Std.TreeMap κ β compare) :
    map.values = map.toList.map Prod.snd := by
  -- The library relates the two lists for the underlying trees only.
  change Std.DTreeMap.Internal.Impl.values map.inner.inner =
    (Std.DTreeMap.Internal.Impl.Const.toList map.inner.inner).map Prod.snd
  rw [Std.DTreeMap.Internal.Impl.values_eq_map_snd,
    Std.DTreeMap.Internal.Impl.Const.toList_eq_toListModel_map, List.map_map]
  rfl

theorem values_eq_filterMap_keys (map : Std.TreeMap κ β compare) :
    map.values = map.keys.filterMap fun key => map[key]? := by
  rw [values_eq_map_toList, toList_eq_filterMap_keys, List.map_filterMap]
  apply List.filterMap_congr
  intro key _member
  cases map[key]? <;> rfl

end

/-! ### One item for each key

A table gives at most one item for each key, and that item bears the key. The
lists below go through some keys and keep what the table gives for each. -/

section

variable {κ β γ : Type} {found : κ → Option β}

theorem map_filterMap_of_label {look : β → γ} {label : κ → γ}
    (inStep : ∀ key item, found key = some item → look item = label key) (keys : List κ) :
    (keys.filterMap found).map look = (keys.filter fun key => (found key).isSome).map label := by
  induction keys with
  | nil => rfl
  | cons key rest ih =>
      cases given : found key with
      | none =>
          rw [List.filterMap_cons_none given, ih, List.filter_cons_of_neg (by simp [given])]
      | some item =>
          rw [List.filterMap_cons_some given, List.map_cons, ih, inStep key item given,
            List.filter_cons_of_pos (by simp [given]), List.map_cons]

variable {name : β → κ}

theorem map_name_filterMap (named : ∀ key item, found key = some item → name item = key)
    (keys : List κ) :
    (keys.filterMap found).map name = keys.filter fun key => (found key).isSome := by
  rw [map_filterMap_of_label named, List.map_id']

theorem filter_name_filterMap_of_not_mem [DecidableEq κ]
    (named : ∀ key item, found key = some item → name item = key)
    (keys : List κ) (key : κ) (absent : key ∉ keys) :
    (keys.filterMap found).filter (fun item => name item = key) = [] := by
  apply List.filter_eq_nil_iff.mpr
  intro item member
  rcases List.mem_filterMap.mp member with ⟨other, present, given⟩
  have sameKey : name item = other := named other item given
  rw [decide_eq_true_eq, sameKey]
  intro equal
  exact absent (equal ▸ present)

/-- Among distinct keys, the items that bear a key are what the table gives for it. -/
theorem filter_name_filterMap [DecidableEq κ]
    (named : ∀ key item, found key = some item → name item = key)
    (keys : List κ) (distinct : keys.Nodup) (key : κ) (present : key ∈ keys) :
    (keys.filterMap found).filter (fun item => name item = key) = (found key).toList := by
  induction keys with
  | nil => cases present
  | cons head rest ih =>
      rcases List.nodup_cons.mp distinct with ⟨headAbsent, restDistinct⟩
      by_cases same : head = key
      · subst head
        have restEmpty := filter_name_filterMap_of_not_mem named rest key headAbsent
        cases given : found key with
        | none =>
            rw [List.filterMap_cons_none given, restEmpty]
            rfl
        | some item =>
            have kept : name item = key := named key item given
            rw [List.filterMap_cons_some given, List.filter_cons_of_pos (by simp [kept]), restEmpty]
            rfl
      · have later : key ∈ rest := (List.mem_cons.mp present).resolve_left (Ne.symm same)
        cases given : found head with
        | none =>
            rw [List.filterMap_cons_none given]
            exact ih restDistinct later
        | some item =>
            have dropped : name item ≠ key := (named head item given).trans_ne same
            rw [List.filterMap_cons_some given, List.filter_cons_of_neg (by simp [dropped])]
            exact ih restDistinct later

end

end ReportMerge
