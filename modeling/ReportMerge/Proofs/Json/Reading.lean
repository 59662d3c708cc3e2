/-
Values that read as what they were written for. Each way of reading has its own
way of writing: flags, texts, ports, names of variants, lists, members that may be
missing, and records. A value that reads as a content also does so after it was
written as compact text.
-/

import ReportMerge.Proofs.Json.Value
import ReportMerge.Proofs.Reading.Fields

namespace ReportMerge.Json

open Readable (layer)

namespace Value

theorem namedMembers_memberDocuments (members : List (String × Value)) :
    Document.namedMembers .closed (memberDocuments members) =
      (members.map fun member => (member.1, member.2.document), .closed) := by
  induction members with
  | nil => rfl
  | cons member members ih => rw [memberDocuments, Document.namedMembers, ih, List.map_cons]

theorem layer_object (members : List (String × Value)) :
    layer (Value.object members).document =
      .map (members.map fun member => (member.1, member.2.document)) .closed := by
  simp only [document, layer, namedMembers_memberDocuments]

theorem layer_ofNat {number : Nat} (fits : number < UInt64.size) :
    layer (Value.ofNat number).document = .number (.whole number) := by
  have mirrored : (Value.ofNat number).document = .number (.ofNat number) := rfl
  rw [mirrored]
  simp only [layer, Numeral.number?_ofNat fits]

theorem eq_null_of_layer {value : Value} (isNull : layer value.document = .null) :
    value = .null := by
  cases value with
  | null => rfl
  | flag value => cases isNull
  | number value =>
      cases value with
      | whole value =>
          cases value with
          | ofNat natural =>
              simp only [document, layer] at isNull
              split at isNull
              · cases isNull
              · cases isNull
          | negSucc value => cases isNull
      | real value => cases isNull
  | text value => cases isNull
  | array items => cases isNull
  | object members => cases isNull

theorem intactItems_itemDocuments {items : List Value}
    (all : ∀ item ∈ items, item.document.intact = true) :
    Document.intactItems (itemDocuments items) = true := by
  induction items with
  | nil => rfl
  | cons item items ih =>
      obtain ⟨first, others⟩ := List.forall_mem_cons.mp all
      rw [itemDocuments, Document.intactItems, first, ih others, Bool.and_true]

theorem intactMembers_memberDocuments {members : List (String × Value)}
    (all : ∀ member ∈ members, member.2.document.intact = true) :
    Document.intactMembers (memberDocuments members) = true := by
  induction members with
  | nil => rfl
  | cons member members ih =>
      obtain ⟨first, others⟩ := List.forall_mem_cons.mp all
      rw [memberDocuments, Document.intactMembers, first, ih others, Bool.and_true]

variable {β : Type}

/-- The document of a value is well formed throughout and reads as a content. -/
structure ReadsAs (value : Value) (read : Document → Except Fault β) (content : β) : Prop where
  intact : value.document.intact = true
  result : read value.document = .ok content

/-- What is written for a content that may also be told by writing nothing. -/
def Spells (read : Document → Except Fault β) (absent : Option β) (content : β) :
    Option Value → Prop
  | some value => value.ReadsAs read content
  | none => absent = some content

theorem ReadsAs.readText {value : Value} {read : Document → Except Fault β} {content : β}
    (reads : value.ReadsAs read content) :
    Document.readText read value.compact = .ok content := by
  rw [(spelledBy_compact reads.intact).readText_eq read]
  exact reads.result

theorem readsAs_text (text : String) : (Value.text text).ReadsAs Readable.text text :=
  ⟨rfl, rfl⟩

theorem readsAs_flag (flag : Bool) : (Value.flag flag).ReadsAs Readable.flag flag :=
  ⟨rfl, rfl⟩

theorem readsAs_port (port : UInt16) : (Value.ofNat port.toNat).ReadsAs Readable.port port where
  intact := rfl
  result := by
    have small : port.toNat < UInt16.size := port.toNat_lt_size
    have fits : port.toNat < UInt64.size := Nat.lt_trans small (by decide)
    have whole : Readable.wholeBelow UInt16.size .port (Value.ofNat port.toNat).document =
        .ok port.toNat := by
      unfold Readable.wholeBelow
      rw [layer_ofNat fits]
      exact if_pos ⟨Int.natCast_nonneg _, Int.ofNat_lt.mpr small⟩
    unfold Readable.port
    rw [whole]
    exact congrArg Except.ok UInt16.ofNat_toNat

theorem readsAs_variant {variants : List (String × β)} {name : String} {content : β}
    (named : variants.lookup name = some content) :
    (Value.text name).ReadsAs (Readable.variant variants) content where
  intact := rfl
  result := by
    change Readable.variantNamed variants name = _
    unfold Readable.variantNamed
    rw [named]

theorem readsAs_optional_null (read : Document → Except Fault β) :
    Value.null.ReadsAs (Readable.optional read) none :=
  ⟨rfl, rfl⟩

theorem ReadsAs.optional {value : Value} {read : Document → Except Fault β} {content : β}
    (reads : value.ReadsAs read content) (present : value ≠ .null) :
    value.ReadsAs (Readable.optional read) (some content) where
  intact := reads.intact
  result := by
    unfold Readable.optional
    split
    · rename_i isNull
      exact absurd (eq_null_of_layer isNull) present
    · rw [reads.result]
      rfl

theorem readsAs_list {read : Document → Except Fault β} {toJson : β → Value}
    (reads : ∀ content, (toJson content).ReadsAs read content) (contents : List β) :
    (Value.array (contents.map toJson)).ReadsAs (Readable.list read) contents where
  intact := by
    apply intactItems_itemDocuments
    intro item written
    obtain ⟨content, -, rfl⟩ := List.mem_map.mp written
    exact (reads content).intact
  result := by
    have items : (itemDocuments (contents.map toJson)).mapM read = .ok contents := by
      induction contents with
      | nil => rfl
      | cons content contents ih =>
          rw [List.map_cons, itemDocuments, List.mapM_cons, (reads content).result, ih]
          rfl
    have layered : layer (Value.array (contents.map toJson)).document =
        .sequence (itemDocuments (contents.map toJson)) .closed := rfl
    unfold Readable.list
    rw [layered]
    simp only [items]
    rfl

theorem spells_optional {read : Document → Except Fault β} {toJson : β → Value}
    (reads : ∀ content, (toJson content).ReadsAs read content)
    (present : ∀ content, toJson content ≠ .null) (content : Option β) :
    Spells (Readable.optional read) (some none) content (content.map toJson) := by
  cases content with
  | none => rfl
  | some content => exact (reads content).optional (present content)

section

variable {Field : Type} {Content : Field → Type}
  {table : FieldTable Document Field Content} {written : Field → Option Value}
  {content : (field : Field) → Content field}

theorem intact_spelled
    (spells : ∀ field, Spells (table.read field) (table.absent field) (content field)
      (written field)) :
    (Value.object (FieldTable.spell table.name written table.order)).document.intact = true := by
  apply intactMembers_memberDocuments
  intro member spelled
  obtain ⟨field, -, here⟩ := List.mem_flatMap.mp spelled
  have spellsHere := spells field
  cases given : written field with
  | none =>
      rw [given] at here
      cases here
  | some value =>
      rw [given] at here spellsHere
      obtain rfl := List.mem_singleton.mp here
      exact spellsHere.intact

theorem readsAs_record [DecidableEq Field] (sound : table.Sound)
    (spells : ∀ field, Spells (table.read field) (table.absent field) (content field)
      (written field))
    {construct : ((field : Field) → Except Fault (Content field)) → Except Fault β} {result : β}
    (constructed : construct (fun field => .ok (content field)) = .ok result) :
    (Value.object (FieldTable.spell table.name written table.order)).ReadsAs
      (table.readRecord construct) result where
  intact := intact_spelled spells
  result := by
    have conveyed : ∀ field,
        table.Conveys field (content field) ((written field).map document) := by
      intro field
      have spellsHere := spells field
      cases given : written field with
      | none =>
          rw [given] at spellsHere
          exact spellsHere
      | some value =>
          rw [given] at spellsHere
          exact spellsHere.result
    have members := layer_object (FieldTable.spell table.name written table.order)
    rw [FieldTable.map_spell] at members
    rw [FieldTable.readRecord_spell sound conveyed construct members]
    exact constructed

end

end Value

end ReportMerge.Json
