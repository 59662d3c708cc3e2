/-
Shapes of values: which values are acceptable in a place, and which contents they
tell there. A shape says both by itself, without reading anything. A record has an
object as its shape, with the members in any order, or an array with the elements in
the order of declaration.
-/

import ReportMerge.Json.Value
import ReportMerge.Proofs.Reading.Records

namespace ReportMerge.Json

/-- A value is acceptable exactly when there is some content that it tells. -/
structure Shape (β : Type) where
  accepts : Value → Prop
  tells : Value → β → Prop
  accepts_iff : ∀ value, accepts value ↔ ∃ content, tells value content

namespace Shape

variable {β γ : Type}

theorem lookup_isSome_iff {variants : List (String × β)} {name : String} :
    (∃ content, variants.lookup name = some content) ↔ name ∈ variants.map Prod.fst := by
  rw [← Option.isSome_iff_exists, List.lookup_isSome_iff, List.mem_map]
  exact exists_congr fun entry => and_congr_right fun _ => beq_iff_eq.trans eq_comm

theorem exists_forall₂_iff {tells : Value → β → Prop} {items : List Value} :
    (∃ contents, List.Forall₂ tells items contents) ↔
      ∀ item ∈ items, ∃ content, tells item content := by
  induction items with
  | nil => simp
  | cons item items ih =>
      rw [List.forall_mem_cons, ← ih]
      constructor
      · rintro ⟨_, _ | ⟨told, others⟩⟩
        exact ⟨⟨_, told⟩, _, others⟩
      · rintro ⟨⟨content, told⟩, contents, others⟩
        exact ⟨content :: contents, .cons told others⟩

def text : Shape String where
  accepts
    | .text _ => True
    | _ => False
  tells value content := value = .text content
  accepts_iff value := by cases value <;> simp

def flag : Shape Bool where
  accepts
    | .flag _ => True
    | _ => False
  tells value content := value = .flag content
  accepts_iff value := by cases value <;> simp

def orNull (shape : Shape β) : Shape (Option β) where
  accepts value := value = .null ∨ shape.accepts value
  tells value content :=
    value = .null ∧ content = none ∨
      value ≠ .null ∧ ∃ given, content = some given ∧ shape.tells value given
  accepts_iff value := by
    rw [shape.accepts_iff]
    by_cases isNull : value = .null
    · simp [isNull]
    · simp [isNull]

/-- A variant is its name, or an object that leads from its name to null and holds nothing else. -/
def variant (variants : List (String × β)) : Shape β where
  accepts value := ∃ name ∈ variants.map Prod.fst,
    value = .text name ∨ value = .object [(name, .null)]
  tells value content := ∃ name, variants.lookup name = some content ∧
    (value = .text name ∨ value = .object [(name, .null)])
  accepts_iff value := by
    simp only [← lookup_isSome_iff]
    exact ⟨fun ⟨name, ⟨content, known⟩, spelled⟩ => ⟨content, name, known, spelled⟩,
      fun ⟨content, name, known, spelled⟩ => ⟨name, ⟨content, known⟩, spelled⟩⟩

def list (shape : Shape β) : Shape (List β) where
  accepts value := ∃ items, value = .array items ∧ ∀ item ∈ items, shape.accepts item
  tells value contents := ∃ items, value = .array items ∧ List.Forall₂ shape.tells items contents
  accepts_iff value := by
    simp only [shape.accepts_iff, ← exists_forall₂_iff]
    exact ⟨fun ⟨items, whole, contents, told⟩ => ⟨contents, items, whole, told⟩,
      fun ⟨contents, items, whole, told⟩ => ⟨items, whole, contents, told⟩⟩

def via (shape : Shape γ) (look : β → γ) (onto : Function.Surjective look) : Shape β where
  accepts := shape.accepts
  tells value content := shape.tells value (look content)
  accepts_iff value := by rw [shape.accepts_iff, onto.exists]

/-- The place of a member or an element in a record. -/
structure Slot (γ : Type) where
  name : String
  /-- What is told when nothing is given, unless something has to be given. -/
  absent : Option γ
  shape : Shape γ

namespace Slot

def required (name : String) (shape : Shape γ) : Slot γ := ⟨name, none, shape⟩

def defaulted (name : String) (content : γ) (shape : Shape γ) : Slot γ :=
  ⟨name, some content, shape⟩

def nullable (name : String) (shape : Shape γ) : Slot (Option γ) := ⟨name, some none, shape.orNull⟩

/-- A slot takes no value if it may stay empty, or one acceptable value, but never two. -/
def accepts (slot : Slot γ) : List Value → Prop
  | [] => slot.absent.isSome
  | [value] => slot.shape.accepts value
  | _ => False

def tells (slot : Slot γ) (content : γ) : List Value → Prop
  | [] => slot.absent = some content
  | [value] => slot.shape.tells value content
  | _ => False

theorem accepts_iff (slot : Slot γ) (values : List Value) :
    slot.accepts values ↔ ∃ content, slot.tells content values := by
  match values with
  | [] => exact Option.isSome_iff_exists
  | [value] => exact slot.shape.accepts_iff value
  | _ :: _ :: _ => simp [accepts, tells]

end Slot

variable {Field : Type} {Content : Field → Type} [DecidableEq Field]

/-- Members of other names may be anything and stand anywhere. -/
def record (order : List Field) (slot : (field : Field) → Slot (Content field)) :
    Shape ((field : Field) → Content field) where
  accepts
    | .object members => ∀ field, (slot field).accepts (valuesOf (slot field).name members)
    | .array items => items.length ≤ order.length ∧
        ∀ field, (slot field).accepts items[order.idxOf field]?.toList
    | _ => False
  tells
    | .object members, content =>
        ∀ field, (slot field).tells (content field) (valuesOf (slot field).name members)
    | .array items, content => items.length ≤ order.length ∧
        ∀ field, (slot field).tells (content field) items[order.idxOf field]?.toList
    | _, _ => False
  accepts_iff value := by
    cases value with
    | object members =>
        simp only [Slot.accepts_iff]
        exact Classical.skolem
    | array items =>
        simp only [Slot.accepts_iff, exists_and_left]
        exact and_congr_right fun _ => Classical.skolem
    | null | flag _ | number _ | text _ => simp

/-- Elements for the leading fields of an order, at least for the first few of them. -/
structure Leading (order : List Field) (slot : (field : Field) → Slot (Content field)) (least : Nat)
    (items : List Value) : Prop where
  enough : least ≤ items.length
  notMore : items.length ≤ order.length
  acceptable : ∀ field value, items[order.idxOf field]? = some value →
    (slot field).shape.accepts value

/-- Where only leading fields are required, these are what an array cannot do without. -/
theorem record_accepts_array_iff {order : List Field}
    {slot : (field : Field) → Slot (Content field)} {least : Nat} (distinct : order.Nodup)
    (within : least ≤ order.length)
    (leading : ∀ field, (slot field).absent = none ↔ order.idxOf field < least)
    (items : List Value) :
    (record order slot).accepts (.array items) ↔ Leading order slot least items := by
  have slotAccepts (field : Field) :
      (slot field).accepts items[order.idxOf field]?.toList ↔
        (items[order.idxOf field]? = none → least ≤ order.idxOf field) ∧
        ∀ value, items[order.idxOf field]? = some value → (slot field).shape.accepts value := by
    cases items[order.idxOf field]? with
    | none => simp [Slot.accepts, Option.isSome_iff_ne_none, leading]
    | some value => simp [Slot.accepts]
  change items.length ≤ order.length ∧ (∀ field, (slot field).accepts _) ↔ _
  simp only [slotAccepts, forall_and]
  constructor
  · rintro ⟨notMore, present, acceptable⟩
    refine ⟨?_, notMore, acceptable⟩
    by_contra short
    have inOrder : items.length < order.length := by omega
    have atPlace : order.idxOf order[items.length] = items.length :=
      distinct.idxOf_getElem items.length inOrder
    have required := present order[items.length]
    rw [atPlace] at required
    exact short (required (List.getElem?_eq_none (Nat.le_refl _)))
  · rintro ⟨enough, notMore, acceptable⟩
    refine ⟨notMore, fun field missing => ?_, acceptable⟩
    exact Nat.le_trans enough (List.getElem?_eq_none_iff.mp missing)

/-! ### Readers that follow a shape -/

/-- A reader accepts what has the shape, and reads it as what it tells. -/
def Followed (shape : Shape β) (read : Value → Except Fault β) : Prop :=
  ∀ value content, read value = .ok content ↔ shape.tells value content

omit [DecidableEq Field] in
theorem Followed.accepts_iff {shape : Shape β} {read : Value → Except Fault β}
    (followed : shape.Followed read) (value : Value) :
    (∃ content, read value = .ok content) ↔ shape.accepts value := by
  rw [shape.accepts_iff]
  exact exists_congr (followed value)

theorem text_followed : text.Followed Readable.text := by
  intro value content
  rw [Readable.text_eq_ok_iff]
  cases value <;> simp [Readable.layer, text]

theorem flag_followed : flag.Followed Readable.flag := by
  intro value content
  rw [Readable.flag_eq_ok_iff]
  cases value <;> simp [Readable.layer, flag]

theorem layer_eq_null_iff {value : Value} : Readable.layer value = .null ↔ value = .null := by
  cases value <;> simp [Readable.layer]

theorem orNull_followed {shape : Shape β} {read : Value → Except Fault β}
    (followed : shape.Followed read) : shape.orNull.Followed (Readable.optional read) := by
  intro value content
  rw [Readable.optional_eq_ok_iff, ne_eq, layer_eq_null_iff]
  simp only [followed _ _]
  rfl

theorem variant_followed (variants : List (String × β)) :
    (variant variants).Followed (Readable.variant variants) := by
  intro value content
  rw [Readable.variant_eq_ok_iff]
  refine exists_congr fun name => and_congr_right fun _ => ?_
  cases value with
  | object members =>
      have layered : Readable.layer (Value.object members) = .map members .closed := rfl
      simp [layered, layer_eq_null_iff]
  | null | flag _ | number _ | text _ | array _ => simp [Readable.layer]

theorem list_followed {shape : Shape β} {read : Value → Except Fault β}
    (followed : shape.Followed read) : shape.list.Followed (Readable.list read) := by
  intro value contents
  rw [Readable.list_eq_ok_iff]
  simp only [followed _ _]
  cases value <;> simp [Readable.layer, list]

theorem record_tells_iff {table : FieldTable Value Field Content}
    {slot : (field : Field) → Slot (Content field)}
    (same : ∀ field, (slot field).name = table.name field ∧
      (slot field).absent = table.absent field)
    (followed : ∀ field, (slot field).shape.Followed (table.read field))
    (content : (field : Field) → Content field) (value : Value) :
    table.Tells content (Readable.layer value) ↔ (record table.order slot).tells value content := by
  have told (field : Field) (values : List Value) :
      table.Told field (content field) values ↔ (slot field).tells (content field) values := by
    match values with
    | [] => simp [FieldTable.Told, Slot.tells, (same field).2]
    | [value] => exact followed field value (content field)
    | _ :: _ :: _ => exact Iff.rfl
  cases value with
  | object members =>
      simp [Readable.layer, FieldTable.Tells, record, told, (same _).1, Readable.intact]
  | array items => simp [Readable.layer, FieldTable.Tells, record, told]
  | null | flag _ | number _ | text _ => exact Iff.rfl

end Shape

end ReportMerge.Json
