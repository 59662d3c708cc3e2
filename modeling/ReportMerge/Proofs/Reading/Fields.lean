/-
Records read back from their members. The members stand in the order of
declaration, and fields without a value are left out. When every member reads as
the content of its field, and every field left out has that content anyway, the
record is put together from exactly these contents.
-/

import ReportMerge.Reading.Fields
import Mathlib.Data.List.Nodup

namespace ReportMerge.FieldTable

variable {α Field : Type} {Content : Field → Type}

def spell (name : Field → String) (written : Field → Option α) (fields : List Field) :
    List (String × α) :=
  fields.flatMap fun field => ((written field).map (name field, ·)).toList

theorem spell_cons_of_none {name : Field → String} {written : Field → Option α} {field : Field}
    (fields : List Field) (silent : written field = none) :
    spell name written (field :: fields) = spell name written fields := by
  simp [spell, silent]

theorem spell_cons_of_some {name : Field → String} {written : Field → Option α} {field : Field}
    {value : α} (fields : List Field) (given : written field = some value) :
    spell name written (field :: fields) = (name field, value) :: spell name written fields := by
  simp [spell, given]

theorem map_spell {β : Type} (change : α → β) (name : Field → String)
    (written : Field → Option α) (fields : List Field) :
    (spell name written fields).map (fun member => (member.1, change member.2)) =
      spell name (fun field => (written field).map change) fields := by
  simp only [spell, List.map_flatMap]
  congr 1
  funext field
  cases written field <;> rfl

/-- Every field of a table has its place in the order and a name of its own. -/
structure Sound (table : FieldTable α Field Content) : Prop where
  complete : ∀ field, field ∈ table.order
  distinct : (table.order.map table.name).Nodup

/-- What is written for a field stands for a content, be it nothing. -/
def Conveys (table : FieldTable α Field Content) (field : Field) (content : Content field) :
    Option α → Prop
  | some value => table.read field value = .ok content
  | none => table.absent field = some content

theorem Sound.fieldNamed?_name {table : FieldTable α Field Content} (sound : table.Sound)
    (field : Field) : table.fieldNamed? (table.name field) = some field := by
  obtain ⟨front, back, order⟩ := List.append_of_mem (sound.complete field)
  have distinct := sound.distinct
  rw [order, List.map_append, List.map_cons] at distinct
  have otherNames : ∀ other ∈ front, table.name other ≠ table.name field := by
    intro other earlier same
    have earlierName := List.mem_map_of_mem (f := table.name) earlier
    rw [same] at earlierName
    exact List.disjoint_of_nodup_append distinct earlierName List.mem_cons_self
  unfold fieldNamed?
  rw [order, List.find?_append, List.find?_eq_none.mpr, Option.none_or, List.find?_cons_of_pos]
  · exact beq_self_eq_true _
  · intro other earlier same
    exact otherNames other earlier (eq_of_beq same)

variable [DecidableEq Field]

def draftBefore (written : Field → Option α) (content : (field : Field) → Content field)
    (fields : List Field) : Draft Content :=
  fun field => if field ∈ fields then none else (written field).map fun _ => content field

section

variable {written : Field → Option α} {content : (field : Field) → Content field}

theorem draftBefore_cons_of_none {field : Field} (fields : List Field)
    (silent : written field = none) :
    draftBefore written content (field :: fields) = draftBefore written content fields := by
  funext other
  by_cases same : other = field
  · subst other
    simp [draftBefore, silent]
  · simp [draftBefore, same]

theorem fill_draftBefore {field : Field} {fields : List Field} {value : α}
    (given : written field = some value) (once : field ∉ fields) :
    fill (draftBefore written content (field :: fields)) field (content field) =
      draftBefore written content fields := by
  funext other
  by_cases same : field = other
  · subst other
    simp [fill, draftBefore, given, once]
  · simp [fill, draftBefore, same, Ne.symm same]

variable {table : FieldTable α Field Content}

theorem readMembers_spell [Readable α] (sound : table.Sound)
    (conveyed : ∀ field, table.Conveys field (content field) (written field))
    {fields : List Field} (distinct : fields.Nodup) :
    table.readMembers (draftBefore written content fields) (spell table.name written fields) =
      .ok (draftBefore written content []) := by
  induction fields with
  | nil => rfl
  | cons field fields ih =>
      obtain ⟨once, others⟩ := List.nodup_cons.mp distinct
      have conveyedHere := conveyed field
      cases given : written field with
      | none =>
          rw [draftBefore_cons_of_none fields given, spell_cons_of_none fields given]
          exact ih others
      | some value =>
          have read : table.read field value = .ok (content field) := by
            rw [given] at conveyedHere
            exact conveyedHere
          have unread : draftBefore written content (field :: fields) field = none := by
            simp [draftBefore]
          rw [spell_cons_of_some fields given, readMembers, sound.fieldNamed?_name field]
          simp only [unread, Option.isSome_none, Bool.false_eq_true, if_false, read]
          change table.readMembers (fill _ field (content field)) _ = _
          rw [fill_draftBefore given once]
          exact ih others

theorem settle_draftBefore (conveyed : ∀ field, table.Conveys field (content field) (written field))
    (fault : Field → Fault) :
    table.settle fault (draftBefore written content []) = fun field => .ok (content field) := by
  funext field
  have conveyedHere := conveyed field
  cases given : written field with
  | none =>
      rw [given] at conveyedHere
      have absent : table.absent field = some (content field) := conveyedHere
      simp [settle, draftBefore, given, absent]
  | some value => simp [settle, draftBefore, given]

theorem readRecord_spell [Readable α] {β : Type} (sound : table.Sound)
    (conveyed : ∀ field, table.Conveys field (content field) (written field))
    (construct : ((field : Field) → Except Fault (Content field)) → Except Fault β) {value : α}
    (layer : Readable.layer value = .map (spell table.name written table.order) .closed) :
    table.readRecord construct value = construct fun field => .ok (content field) := by
  have untouched : (fun _ => none) = draftBefore written content table.order := by
    funext field
    simp [draftBefore, sound.complete field]
  unfold readRecord
  rw [layer, untouched]
  simp only [readMembers_spell sound conveyed sound.distinct.of_map]
  change construct (table.settle _ _) = _
  rw [settle_draftBefore conveyed]

end

end ReportMerge.FieldTable
